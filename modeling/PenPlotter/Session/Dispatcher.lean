import PenPlotter.Event.Basic
import PenPlotter.Failure
import PenPlotter.Session.Client

/-! # Command dispatch

A command is sent to the device.  Its answer goes to the session as a local echo; a failure is
published as an event. -/

namespace PenPlotter

namespace Dispatcher

/-- The message to the session after the device has answered a command. -/
def echo? : Except DeviceError Entry → Option Message
  | .ok entry => some (.localEcho entry)
  | .error _ => none

/-- The event that tells of a failed command. -/
def failure? (command : String) : Except DeviceError Entry → Option SessionEvent
  | .ok _ => none
  | .error e => some (.commandFailed command e.message)

/-- The dispatcher as diagnostics show it. -/
def text (observed : Bool) : String :=
  "CommandDispatcher \x7b event_bus: " ++ toString observed ++ " \x7d"

end Dispatcher

end PenPlotter
