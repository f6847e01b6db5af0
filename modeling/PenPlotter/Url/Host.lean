import PenPlotter.Url.Domain.Name
import PenPlotter.Url.Percent

/-! # Hosts of web addresses

A host is an address of four bytes, an address of eight 16-bit pieces in brackets, or a domain
name, which may be percent-encoded.  A name whose last part is a number has to be an address of
four bytes. -/

namespace PenPlotter

/-- A host. -/
inductive Host where
  | name (text : String)
  | ipv4 (address : Nat)
  | ipv6 (pieces : List Nat)
deriving Repr, DecidableEq, Inhabited

namespace Host

/-! ### Addresses of four bytes -/

/-- The value of a digit in a base of at most sixteen. -/
def digit? (base : Nat) (c : Char) : Option Nat :=
  let value :=
    if c.isDigit then some (c.toNat - '0'.toNat)
    else if 'a' ≤ c ∧ c ≤ 'f' then some (c.toNat - 'a'.toNat + 10)
    else if 'A' ≤ c ∧ c ≤ 'F' then some (c.toNat - 'A'.toNat + 10)
    else none
  value.filter (· < base)

/-- The number that digits of a base write. -/
def based? (base : Nat) (ds : List Char) : Option Nat :=
  ds.foldlM (fun n d => (digit? base d).map (n * base + ·)) 0

/-- A number in decimal notation, in octal notation after `0`, or in hexadecimal after `0x`. -/
def number? : List Char → Option Nat
  | [] => none
  | '0' :: 'x' :: ds => based? 16 ds
  | '0' :: 'X' :: ds => based? 16 ds
  | ['0'] => some 0
  | '0' :: ds => based? 8 ds
  | ds => based? 10 ds

/-- The parts of a name; a point at the end adds none. -/
def parts (cs : List Char) : List (List Char) :=
  let all := Text.splitAt '.' cs
  if 1 < all.length ∧ all.getLast? = some [] then all.dropLast else all

/-- Whether the last part of a name is a number, so that the name has to be an address. -/
def endsInNumber (cs : List Char) : Bool :=
  match (parts cs).getLast? with
  | some last => (!last.isEmpty && last.all Char.isDigit) || (number? last).isSome
  | none => false

/-- An address of one to four numbers, the last of which fills the remaining bytes. -/
def ipv4? (cs : List Char) : Option Nat := do
  let numbers ← (parts cs).mapM number?
  let last ← numbers.getLast?
  let front := numbers.dropLast
  if front.length ≤ 3 ∧ front.all (· ≤ 255) ∧ last < Nat.pow 256 (4 - front.length) then
    some (front.foldl (fun n part => n * 256 + part) 0 * Nat.pow 256 (4 - front.length) + last)
  else none

/-! ### Addresses of eight pieces -/

/-- A piece of one to four hexadecimal digits. -/
def piece? (ds : List Char) : Option Nat :=
  if ds.isEmpty ∨ 4 < ds.length then none else based? 16 ds

/-- A byte in decimal notation without leading zeros. -/
def byte? (ds : List Char) : Option Nat :=
  if ds.isEmpty ∨ 3 < ds.length ∨ (1 < ds.length ∧ ds.head? = some '0') then none
  else (based? 10 ds).filter (· ≤ 255)

/-- Two pieces that are written as four bytes. -/
def bytePieces? (cs : List Char) : Option (List Nat) := do
  match ← (Text.splitAt '.' cs).mapM byte? with
  | [a, b, c, d] => some [a * 256 + b, c * 256 + d]
  | _ => none

/-- The pieces between colons; the last two may be written as four bytes, if `bytesAllowed`. -/
def pieces? (bytesAllowed : Bool) : List (List Char) → Option (List Nat)
  | [] => some []
  | [last] =>
    match piece? last with
    | some n => some [n]
    | none => if bytesAllowed then bytePieces? last else none
  | part :: rest => do
    let n ← piece? part
    let ns ← pieces? bytesAllowed rest
    some (n :: ns)

/-- What stands before and after the first pair of colons. -/
def splitAtGap : List Char → List Char × Option (List Char)
  | ':' :: ':' :: rest => ([], some rest)
  | c :: rest => let (before, after) := splitAtGap rest; (c :: before, after)
  | [] => ([], none)

/-- The pieces of one side of a pair of colons, where there may be none. -/
def side? (bytesAllowed : Bool) (cs : List Char) : Option (List Nat) :=
  if cs.isEmpty then some [] else pieces? bytesAllowed (Text.splitAt ':' cs)

/-- An address of eight pieces; a pair of colons stands for one or more pieces of zero. -/
def ipv6? (cs : List Char) : Option (List Nat) :=
  match splitAtGap cs with
  | (all, none) => do
    let ns ← pieces? true (Text.splitAt ':' all)
    if ns.length = 8 then some ns else none
  | (before, some after) => do
    let front ← side? false before
    let back ← side? true after
    if front.length + back.length ≤ 7 then
      some (front ++ List.replicate (8 - front.length - back.length) 0 ++ back)
    else none

/-! ### Names -/

/-- A name, or an address of four bytes. -/
def ofName? (cs : List Char) : Option Host := do
  let text ← Utf8.text? (Percent.decodeBytes (Utf8.bytes (String.ofList cs)))
  let name ← Domain.ofChars? text.toList
  if name.isEmpty then none
  else if endsInNumber name then (ipv4? name).map .ipv4
  else some (.name (String.ofList name))

def ofChars? : List Char → Option Host
  | '[' :: rest =>
    if rest.getLast? = some ']' then (ipv6? rest.dropLast).map .ipv6 else none
  | cs => ofName? cs

end Host

end PenPlotter
