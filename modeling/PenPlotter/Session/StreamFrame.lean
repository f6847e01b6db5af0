import PenPlotter.Session.System
import PenPlotter.Text.Utf8

/-! # Frames of an event stream

A stream is a sequence of frames.  Text frames and binary frames that hold a text are its texts;
other frames are passed over.  A stream fails at a ping or a pong that carries too much, and where
it ends without a closing frame. -/

namespace PenPlotter

/-- A frame. -/
inductive StreamFrame where
  | text (s : String)
  | binary (bytes : List UInt8)
  | ping (payload : String)
  | pong (payload : String)
  | close
deriving Repr, DecidableEq, Inhabited

namespace StreamFrame

def text? : StreamFrame → Option String
  | .text s => some s
  | .binary bytes => Utf8.text? bytes
  | _ => none

/-- How many bytes a ping or a pong may carry. -/
def maxPayload : Nat := 125

/-- Whether a frame breaks the rules of the stream. -/
def isOversized : StreamFrame → Bool
  | .ping payload => maxPayload < payload.utf8ByteSize
  | .pong payload => maxPayload < payload.utf8ByteSize
  | _ => false

/-- The failure of a stream that breaks off. -/
def brokenOff : ConnectionError := .webSocket "connection reset without closing handshake"

/-- The failure of a stream at a frame that carries too much. -/
def oversized : ConnectionError := .webSocket "control frame too big"

/-- The texts of a stream, and its failure unless it has a closing frame. -/
def readAll : List StreamFrame → List String × Option ConnectionError
  | [] => ([], some brokenOff)
  | .close :: _ => ([], none)
  | f :: rest =>
    if f.isOversized then ([], some oversized)
    else
      let (texts, failure) := readAll rest
      (f.text?.toList ++ texts, failure)

/-- What a frame is to the task that reads the stream. -/
def peerStep? (f : StreamFrame) : Option PeerStep :=
  if f = .close then some .finish
  else if f.isOversized then some (.fail oversized)
  else f.text?.map .text

end StreamFrame

end PenPlotter
