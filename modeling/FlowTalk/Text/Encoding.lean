import FlowTalk.Text.Units

/-! Texts as bytes. -/
namespace FlowTalk

namespace Text

/-- The bytes of a text in UTF-8. -/
def bytes (t : Text) : List Nat := t.flatMap fun c => (String.utf8EncodeChar c).map UInt8.toNat

end Text

/-- Which byte of a number comes first. -/
inductive ByteOrder where
  | highFirst
  | lowFirst
  deriving DecidableEq

namespace ByteOrder

/-- The number that some bytes stand for. -/
def number (o : ByteOrder) (bytes : List Nat) : Nat :=
  match o with
  | highFirst => bytes.foldl (fun n b => 256 * n + b) 0
  | lowFirst => bytes.foldr (fun b n => 256 * n + b) 0

end ByteOrder

/-- A way to write a text in bytes: in UTF-8, or in units of two or four bytes. -/
inductive Encoding where
  | utf8
  | utf16 (order : ByteOrder)
  | utf32 (order : ByteOrder)
  deriving DecidableEq

namespace Encoding

/-- The encoding of a text that starts with characters of ASCII. The places of the zero bytes among
the first four, or among the only two, tell the size of the units. -/
def detect : List Nat → Encoding
  | a :: b :: c :: d :: _ =>
    if a = 0 then if b = 0 then .utf32 .highFirst else .utf16 .highFirst
    else if b = 0 then if c = 0 ∧ d = 0 then .utf32 .lowFirst else .utf16 .lowFirst
    else .utf8
  | [a, b] => if a = 0 then .utf16 .highFirst else if b = 0 then .utf16 .lowFirst else .utf8
  | _ => .utf8

/-- The units of two bytes, unless a byte is left over. -/
def units16? (o : ByteOrder) : List Nat → Option (List Nat)
  | [] => some []
  | [_] => none
  | a :: b :: rest => (units16? o rest).map (o.number [a, b] :: ·)

/-- The units of four bytes, unless bytes are left over or a unit is beyond the code points. -/
def units32? (o : ByteOrder) : List Nat → Option (List Nat)
  | [] => some []
  | a :: b :: c :: d :: rest =>
    let n := o.number [a, b, c, d]
    if n ≤ 0x10ffff then (units32? o rest).map (n :: ·) else none
  | _ => none

end Encoding

namespace Text

/-- The text that the bytes of a text stand for in the encoding that they are found to be in. -/
def reread? (t : Text) : Option Text :=
  match Encoding.detect (bytes (t.take 4)) with
  | .utf8 => some t
  | .utf16 o => (Encoding.units16? o t.bytes).map ofUnits
  | .utf32 o => (Encoding.units32? o t.bytes).map fun units => units.map ofUnit

end Text

end FlowTalk
