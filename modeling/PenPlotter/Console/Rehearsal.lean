import PenPlotter.Console.Loop
import PenPlotter.Session.StreamFrame
import PenPlotter.Session.Simulation

/-! # Rehearsals of the console

A rehearsal runs the console against a simulated peer and a list of cues.  After each cue all
tasks run and all messages are handled, the oldest first, until nothing more can happen; what was
printed meanwhile is the answer to the cue. -/

namespace PenPlotter

/-- What happens next in a rehearsal. -/
inductive Cue where
  /-- A text is typed, which may be several lines. -/
  | typed (text : String)
  | frames (fs : List StreamFrame)
  /-- The peer drops the stream, and the time until the next attempt passes. -/
  | drop
  | endOfInput
deriving Repr, DecidableEq, Inhabited

/-- A console, its device and its peer. -/
structure Rehearsal (σ : Type) where
  device : σ
  console : Console
  peer : Simulation

namespace Rehearsal

variable {σ : Type} (d : Device σ)

def withPeer (r : Rehearsal σ) (f : Simulation → Simulation) : Rehearsal σ :=
  let peer := f { r.peer with system := r.console.system }
  { r with peer, console := { r.console with system := peer.system } }

/-- The console takes a step, and connections and timers go on. -/
def step (r : Rehearsal σ) (next : ConsoleStep) : Rehearsal σ :=
  let (device, console) := r.console.step d r.device next
  withPeer { r with device, console } Simulation.settle

/-- All tasks run and all messages are handled; `fuel` bounds their number. -/
def calmWithin (r : Rehearsal σ) : Nat → Rehearsal σ
  | 0 => r
  | fuel + 1 =>
    if !r.console.outbox.isEmpty then calmWithin (step d r (.task 0)) fuel
    else if !r.console.system.queue.isEmpty then calmWithin (step d r .message) fuel
    else r

/-- All tasks run and all messages are handled.  A task sends at most one message, and while the
clock stands still a message leads to at most one more: that of a connection which opens. -/
def calm (r : Rehearsal σ) : Rehearsal σ :=
  let s := r.console.system
  calmWithin d r
    (4 * (r.console.outbox.length + s.queue.length + s.tasks.length + s.timers.length) + 4)

def typedLines (text : String) : List String :=
  (Text.linesOf (text ++ "\n"))

/-- One cue. -/
def perform (r : Rehearsal σ) : Cue → Rehearsal σ
  | .typed text => (typedLines text).foldl (fun r line => calm d (step d r (.line line))) r
  | .frames fs =>
    calm d (fs.foldl (fun r f => match f.peerStep? with
      | some .finish => r.withPeer fun p => p.close.1
      | some p => r.withPeer fun s => (s.say p).1
      | none => r) r)
  | .drop =>
    let r := calm d (r.withPeer fun p =>
      { (p.say (.fail StreamFrame.brokenOff)).1 with feed := none })
    let r := step d r (.pass r.console.system.client.reconnectDelay)
    calm d r
  | .endOfInput => step d r .endOfInput

/-- The lines printed since the last cue, which are taken from the console. -/
def takeLines (r : Rehearsal σ) : List String × Rehearsal σ :=
  let lines := Text.linesOf (String.join (r.console.output.map (· ++ "\n")))
  (lines, { r with console := { r.console with output := [] } })

/-- Performs cues one after the other; gives the lines printed after each. -/
def performAll (r : Rehearsal σ) : List Cue → List (List String) × Rehearsal σ
  | [] => ([], r)
  | cue :: cues =>
    let (lines, r) := (perform d r cue).takeLines
    let (groups, r) := performAll r cues
    (lines :: groups, r)

/-- A whole rehearsal from the opening of the console until it is left: the lines printed at its
opening, after each cue, and at the end. -/
def run (device : σ) (settings : Settings) (refusing : Bool) (cues : List Cue) :
    σ × List (List String) × Except Trouble Unit :=
  match Console.begin? d device settings with
  | (device, .error e) => (device, List.replicate (cues.length + 2) [], .error e)
  | (device, .ok console) =>
    let peer := { Simulation.new 0 0 with refusing }
    let r := calm d (withPeer ⟨device, console, peer⟩ Simulation.settle)
    let (opening, r) := r.takeLines
    let (groups, r) := performAll d r cues
    let (ending, r) := (step d r (.line "/quit")).takeLines
    (r.device, opening :: groups ++ [ending], .ok ())

end Rehearsal

end PenPlotter
