import PenPlotter.Url.Host

/-! # Web addresses

`Url.ofString?` reads an address with one of the schemes `http`, `https`, `ws` and `wss`, the way
browsers do: slashes and backslashes mean the same, `.` and `..` are resolved, and characters
that may not stand in a path or a query are percent-encoded.  `Url.target` is what a request for
it asks for. -/

namespace PenPlotter

/-- The schemes of web addresses. -/
inductive Scheme where
  | http
  | https
  | ws
  | wss
deriving Repr, DecidableEq, Inhabited

/-- A web address without its fragment. -/
structure Url where
  scheme : Scheme
  host : Host
  port : Option Nat
  /-- The segments of the path, encoded; there is at least one. -/
  path : List String
  /-- The encoded query. -/
  query : Option String
deriving Repr, DecidableEq, Inhabited

/-- The scheme of the given name, in any letter case. -/
def Scheme.ofName? (name : List Char) : Option Scheme :=
  let lower := String.ofList (name.map Char.toLower)
  if lower = "http" then some .http
  else if lower = "https" then some .https
  else if lower = "ws" then some .ws
  else if lower = "wss" then some .wss
  else none

namespace Url

/-- Drops what `drops` holds of at both ends. -/
def trimBoth (drops : Char → Bool) (cs : List Char) : List Char :=
  ((cs.dropWhile drops).reverse.dropWhile drops).reverse

/-- The characters of an address: without controls and spaces around it, and without tabs and
line ends in it. -/
def significant (s : String) : List Char :=
  (trimBoth (fun c => c.toNat ≤ 0x20) s.toList).filter fun c => c != '\t' && c != '\n' && c != '\r'

/-- Both slashes. -/
def isSlash (c : Char) : Bool := c == '/' || c == '\\'

/-- What ends the host and the port. -/
def endsAuthority (c : Char) : Bool := isSlash c || c == '?' || c == '#'

/-- What follows the last `@`. -/
def afterUser (cs : List Char) : List Char := (cs.reverse.takeWhile (· != '@')).reverse

/-- Cuts at the first colon outside brackets. -/
def splitPort (inBrackets : Bool) : List Char → List Char × Option (List Char)
  | [] => ([], none)
  | c :: rest =>
    if c = ':' ∧ !inBrackets then ([], some rest)
    else
      let inside := if c = '[' then true else if c = ']' then false else inBrackets
      let (host, port) := splitPort inside rest
      (c :: host, port)

/-- A port number of at most 16 bits; the text may be empty. -/
def portOf? (ds : List Char) : Option (Option Nat) :=
  if ds.isEmpty then some none
  else if ds.all Char.isDigit then
    let n := ds.foldl (fun n d => n * 10 + (d.toNat - '0'.toNat)) 0
    if n < 65536 then some (some n) else none
  else none

/-! ### Paths -/

/-- The segments that stand for the place itself. -/
def isHere (segment : String) : Bool := [".", "%2e", "%2E"].contains segment

/-- The segments that stand for the place above. -/
def isAbove (segment : String) : Bool :=
  ["..", "%2e%2e", "%2e%2E", "%2E%2e", "%2E%2E", "%2e.", "%2E.", ".%2e", ".%2E"].contains segment

/-- A segment that names a drive stays under every `..`. -/
def isDrive (segment : String) : Bool :=
  match segment.toList with
  | [c, mark] => c.isAlpha && (mark == ':' || mark == '|')
  | _ => false

/-- Goes one segment up; the segments are listed from the innermost. -/
def goUp : List String → List String
  | [] => []
  | segment :: rest => if isDrive segment then segment :: rest else rest

/-- Resolves encoded segments under those already entered, listed from the innermost. -/
def resolve (entered : List String) : List String → List String
  | [] => entered.reverse
  | [last] =>
    if isAbove last then (goUp entered).reverse ++ [""]
    else if isHere last then entered.reverse ++ [""]
    else entered.reverse ++ [last]
  | segment :: rest =>
    if isAbove segment then resolve (goUp entered) rest
    else if isHere segment then resolve entered rest
    else resolve (segment :: entered) rest

/-- The segments of a path: what stands between slashes, encoded and resolved. -/
def segmentsOf (cs : List Char) : List String :=
  let body := match cs with
    | c :: rest => if isSlash c then rest else c :: rest
    | [] => []
  let written := Text.splitAt '/' (body.map fun c => if c = '\\' then '/' else c)
  resolve [] (written.map fun part => Percent.encode Percent.escapesInPath (String.ofList part))

/-! ### Whole addresses -/

/-- Reads what follows the scheme and its colon. -/
def ofRest? (scheme : Scheme) (rest : List Char) : Option Url := do
  let cs := rest.dropWhile isSlash
  let authority := afterUser (cs.takeWhile (!endsAuthority ·))
  let (hostText, portText) := splitPort false authority
  let host ← Host.ofChars? hostText
  let port ← portOf? (portText.getD [])
  let after := (cs.dropWhile (!endsAuthority ·)).takeWhile (· != '#')
  let query := match after.dropWhile (· != '?') with
    | _ :: q => some (Percent.encode Percent.escapesInQuery (String.ofList q))
    | [] => none
  some ⟨scheme, host, port, segmentsOf (after.takeWhile (· != '?')), query⟩

/-- Reads a web address. -/
def ofString? (s : String) : Option Url := do
  let cs := significant s
  match cs.dropWhile (· != ':') with
  | _ :: rest => ofRest? (← Scheme.ofName? (cs.takeWhile (· != ':'))) rest
  | [] => none

def pathText (u : Url) : String := String.join (u.path.map fun segment => "/" ++ segment)

/-- What a request for the address asks for: path and query. -/
def target (u : Url) : String := u.pathText ++ (u.query.elim "" fun q => "?" ++ q)

end Url

end PenPlotter
