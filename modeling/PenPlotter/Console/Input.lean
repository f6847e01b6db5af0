import PenPlotter.Text.Basic

/-! # Console input

A typed line is a command to the device unless it starts with a slash, which makes it a
directive to the console. -/

namespace PenPlotter

/-- What a typed line asks for. -/
inductive ConsoleInput where
  | empty
  | command (text : String)
  | stop
  | pause
  | clear
  | reload
  | help
  | quit
  | unknown (text : String)
deriving Repr, DecidableEq, Inhabited

namespace ConsoleInput

/-- The directive of a name, which is in lower case. -/
def ofDirective? : String → Option ConsoleInput
  | "stop" => some .stop
  | "pause" => some .pause
  | "clear" => some .clear
  | "reload" => some .reload
  | "help" => some .help
  | "?" => some .help
  | "quit" => some .quit
  | "exit" => some .quit
  | "q" => some .quit
  | _ => none

/-- What a line asks for.  White space around it does not count, nor does the case of letters in
a directive. -/
def ofLine (line : String) : ConsoleInput :=
  match Text.trim line.toList with
  | [] => .empty
  | '/' :: directive =>
    (ofDirective? (String.ofList (directive.map Char.toLower))).getD
      (.unknown (String.ofList ('/' :: directive)))
  | text => .command (String.ofList text)

end ConsoleInput

end PenPlotter
