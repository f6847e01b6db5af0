import PenPlotter.Failure
import PenPlotter.Json.Printer
import PenPlotter.Json.Tree
import PenPlotter.Session.Entry

/-! # Messages of the event stream

A message is a JSON object with a type.  Messages of the type `gcode_response` carry a log
entry; other types are passed over.  `StreamMessage.read` tells all outcomes apart; the fields
of an entry are looked at in the order of their names, and a field of a wrong kind is reported
before one that is missing. -/

namespace PenPlotter

namespace StreamMessage

/-- The type of the messages that carry a log entry. -/
def entryType : String := "gcode_response"

/-- Why a message was not understood. -/
inductive Fault where
  | notJson
  /-- There is no type, or it is no text. -/
  | noType
  /-- A field of an entry is no text. -/
  | wrongKind (value : Json)
  | missingField (name : String)
deriving Repr, Inhabited

/-- How a value that is no text is named in a report. -/
def kindText : Json → String
  | .null => "null"
  | .bool true => "boolean `true`"
  | .bool false => "boolean `false`"
  | .number (.integer n) => "integer `" ++ toString n ++ "`"
  | .number (.float x) => "floating point `" ++ (JsonNumber.float x).text ++ "`"
  | .string s => "string " ++ Json.quoted s
  | .array _ => "sequence"
  | .object _ => "map"

def Fault.error : Fault → StreamError
  | .notJson => .malformedPayload "not a JSON text"
  | .noType => .malformedPayload "missing message type"
  | .wrongKind v => .invalidMessage entryType ("invalid type: " ++ kindText v ++ ", expected a string")
  | .missingField name => .invalidMessage entryType ("missing field `" ++ name ++ "`")

/-- A field of an entry: its text, or none where it is missing. -/
def field (v : Json) (name : String) : Except Fault (Option String) :=
  match v.get? name with
  | none => .ok none
  | some (.string s) => .ok (some s)
  | some other => .error (.wrongKind other)

/-- A field that must not be missing. -/
def given (name : String) : Option String → Except Fault String
  | some s => .ok s
  | none => .error (.missingField name)

def entry (v : Json) : Except Fault Entry := do
  let command ← field v "command"
  let response ← field v "response"
  let timestamp ← field v "timestamp"
  let timestamp ← given "timestamp" timestamp
  let command ← given "command" command
  let response ← given "response" response
  return ⟨timestamp, command, response⟩

/-- The entry that a message carries, if it is of the type that carries one. -/
def read (text : String) : Except Fault (Option Entry) :=
  match (Json.Tree.ofString? text).bind Json.Tree.value? with
  | none => .error .notJson
  | some v =>
    match v.get? "type" with
    | some (.string type) => if type = entryType then (entry v).map some else .ok none
    | _ => .error .noType

/-- What a text decodes to, with the failure that is reported. -/
def decode (text : String) : Except StreamError (Option Entry) := (read text).mapError Fault.error

/-- The message that carries an entry. -/
def write (e : Entry) : String :=
  (Json.object [("type", .string entryType), ("timestamp", .string e.timestamp),
    ("command", .string e.command), ("response", .string e.response)]).compact

end StreamMessage

end PenPlotter
