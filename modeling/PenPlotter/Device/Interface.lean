import PenPlotter.Device.Call
import PenPlotter.Device.Status
import PenPlotter.Failure
import PenPlotter.Json.Printer
import PenPlotter.Text.Basic
import PenPlotter.Url.Basic

/-! # The device's interface

Each call is one HTTP request under the interface's base address.  Its outcome is read by the same
rules for every call: without a response the call fails, a response with another status than
success fails with what its body tells, and where something is asked for the body has to hold
it. -/

namespace PenPlotter

open Json

/-- The interface at a base address. -/
structure DeviceInterface where
  /-- The base address as it was given, without slashes at its end. -/
  baseUrl : String
deriving Repr, DecidableEq, Inhabited

/-- What becomes of a request. -/
inductive Outcome where
  /-- No response came. -/
  | lost
  | response (status : Nat) (body : List UInt8)
  /-- A response began, but its body broke off. -/
  | brokenOff (status : Nat)
deriving Repr, Inhabited

/-- A request as it is sent. -/
structure Request where
  method : Method
  /-- Path and query. -/
  target : String
  /-- The JSON text of the body, or nothing. -/
  body : Option String
deriving Repr, DecidableEq, Inhabited

namespace DeviceInterface

/-- The interface at an address with a scheme for requests. -/
def new? (baseUrl : String) : Except DeviceError DeviceInterface :=
  match Url.ofString? baseUrl with
  | some ⟨.http, _, _, _, _⟩ => .ok ⟨trimmed⟩
  | some ⟨.https, _, _, _, _⟩ => .ok ⟨trimmed⟩
  | _ => .error (.invalidBaseUrl baseUrl)
where
  trimmed := String.ofList (baseUrl.toList.reverse.dropWhile (· == '/')).reverse

def contentType : String := "application/json"

/-- The greatest length of what a request asks for, in bytes. -/
def maxTargetLength : Nat := 65534

/-- The request of a call, unless the endpoint spoils the address or makes it too long. -/
def request? (d : DeviceInterface) (call : DeviceCall) : Option Request :=
  ((Url.ofString? (d.baseUrl ++ call.endpoint)).filter fun url =>
      url.target.utf8ByteSize ≤ maxTargetLength).map fun url =>
    ⟨call.method, url.target, call.body?.map Json.compact⟩

end DeviceInterface

/-- What the body of a failure tells: the detail of a JSON object, or the text itself. -/
def errorDetail? (body : String) : Option String :=
  let text := Text.trimString body
  if text.isEmpty then none
  else
    match (Tree.ofString? text).bind Tree.value? with
    | some (.object members) =>
      match (Json.object members).get? "detail" with
      | some (.string detail) => some detail
      | some other => some other.compact
      | none => some text
    | _ => some text

def failureMessage (status : Nat) (body : List UInt8) : String :=
  (errorDetail? (Utf8.lossy body)).getD (Status.reason status)

/-- The bytes that belong to a response. -/
def bodyOf (status : Nat) (sent : List UInt8) : List UInt8 :=
  if Status.isBodiless status then [] else sent

/-- The status of the response, if one came, and its body, if that can be read. -/
def Outcome.received? (o : Outcome) : Option (Nat × Option (List UInt8)) :=
  let response? := match o with
    | .lost => none
    | .response status sent => some (status, some (bodyOf status sent))
    | .brokenOff status => some (status, none)
  response?.filter fun (status, _) => Status.isFinal status

/-- What a call returns when its request has the given outcome.  A body that cannot be read tells
nothing of a failure, and holds nothing that was asked for. -/
def DeviceCall.result (call : DeviceCall) (o : Outcome) : Except DeviceError DeviceReply :=
  match o.received? with
  | none => .error (.transport call.endpoint "no response")
  | some (status, body) =>
    if Status.isSuccess status then
      match call.readReply? (body.bind Tree.ofBytes?) with
      | some reply => .ok reply
      | none => .error (.decode call.endpoint "not what was asked for")
    else .error (.status call.endpoint status (failureMessage status (body.getD [])))

/-- Makes a call: the request, if one is made, and what the call returns. -/
def DeviceInterface.perform (d : DeviceInterface) (call : DeviceCall) (outcome : Outcome) :
    Option Request × Except DeviceError DeviceReply :=
  match d.request? call with
  | some request => (some request, call.result outcome)
  | none => (none, call.result .lost)

end PenPlotter
