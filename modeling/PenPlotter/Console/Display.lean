import PenPlotter.Console.Panel

/-! # What the console prints

Each event of the session is followed by the panel and printed: state changes and counts as
lines in brackets, entries as the panel formats them. -/

namespace PenPlotter

namespace Display

/-- The line that reports a failed command. -/
def failureLine (command message : String) : String := "[error] " ++ command ++ ": " ++ message

/-- The panel after an event of a session whose log now holds `entries`, and the texts to
print. -/
def event (panel : Panel) (event : SessionEvent) (entries : List Entry) : Panel × List String :=
  let before := panel.size
  let (panel, _) := panel.apply event entries
  let lines := match event with
    | .stateChanged state => ["[stream] " ++ state.text]
    | .entryAppended _ _ =>
      (List.range' before (panel.size - before)).filterMap panel.format?
    | .logReloaded count =>
      ("[log] " ++ toString count ++ " entries")
        :: panel.pageEntries.filterMap fun e => panel.format? e.1
    | .logCleared => ["[log] cleared"]
    | .commandFailed command message => [failureLine command message]
  (panel, lines)

/-- The line printed by the watch for failed commands. -/
def failure? : Event → Option String
  | .session (.commandFailed command message) => some (failureLine command message)
  | _ => none

/-- The texts of the console's directives. -/
def help : List String :=
  ["Type a G-code or device command to send it.",
   "  /stop    halt motion",
   "  /pause   toggle pause",
   "  /clear   clear the stored log",
   "  /reload  fetch the full log again",
   "  /quit    leave the console"]

end Display

end PenPlotter
