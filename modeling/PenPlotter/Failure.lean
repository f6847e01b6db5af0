/-! # Failures

What can go wrong between the program, the device's interface and the event stream, with the
text that is shown for it. -/

namespace PenPlotter

/-- Failures of the event stream's connection. -/
inductive ConnectionError where
  | failedToOpen (url reason : String)
  | lost (reason : String)
  | invalidUrl (url : String)
  | webSocket (reason : String)
  | stopped
deriving Repr, DecidableEq, Inhabited

def ConnectionError.message : ConnectionError → String
  | .failedToOpen url reason => "Failed to open stream " ++ url ++ ": " ++ reason
  | .lost reason => "Connection lost: " ++ reason
  | .invalidUrl url => "Invalid stream URL: " ++ url
  | .webSocket reason => "WebSocket error: " ++ reason
  | .stopped => "Session stopped"

/-- Failures of requests to the device. -/
inductive DeviceError where
  /-- The request got no response. -/
  | transport (endpoint reason : String)
  /-- The response reports a failure. -/
  | status (endpoint : String) (code : Nat) (message : String)
  /-- The response is not what the endpoint promises. -/
  | decode (endpoint reason : String)
  | invalidBaseUrl (url : String)
deriving Repr, DecidableEq, Inhabited

def DeviceError.message : DeviceError → String
  | .transport endpoint reason => "Request to " ++ endpoint ++ " failed: " ++ reason
  | .status endpoint code message => endpoint ++ " returned HTTP " ++ toString code ++ ": " ++ message
  | .decode endpoint reason => "Unexpected response from " ++ endpoint ++ ": " ++ reason
  | .invalidBaseUrl url => "Invalid API base URL: " ++ url

/-- Failures to understand a message of the event stream. -/
inductive StreamError where
  | malformedPayload (reason : String)
  | invalidMessage (messageType reason : String)
deriving Repr, DecidableEq, Inhabited

def StreamError.message : StreamError → String
  | .malformedPayload reason => "Malformed stream payload: " ++ reason
  | .invalidMessage messageType reason => "Invalid " ++ messageType ++ " message: " ++ reason

/-- Any failure. -/
inductive Failure where
  | connection (e : ConnectionError)
  | device (e : DeviceError)
  | stream (e : StreamError)
  | files (reason : String)
  | other (text : String)
deriving Repr, DecidableEq, Inhabited

namespace Failure

def message : Failure → String
  | .connection e => e.message
  | .device e => e.message
  | .stream e => e.message
  | .files reason => "I/O error: " ++ reason
  | .other text => text

/-- Whether the event stream failed. -/
def isConnectionError : Failure → Bool
  | .connection _ => true
  | _ => false

def isDeviceError : Failure → Bool
  | .device _ => true
  | _ => false

end Failure

end PenPlotter
