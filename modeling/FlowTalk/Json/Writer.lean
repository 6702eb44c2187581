import FlowTalk.Json.Value
import FlowTalk.Number.Style

/-! Writing JSON texts in ASCII, on one line or with a line for each item. -/
namespace FlowTalk.Json

/-- Numbers are plain from four places after the point to sixteen before it. -/
def numberStyle : NumberStyle := ⟨-4, 15, "Infinity".toList, "NaN".toList⟩

/-- A code unit as an escape. -/
def unitEscape (n : Nat) : Text := '\\' :: 'u' :: Text.padded 4 (Text.ofNatHex n)

/-- A character in a string. One beyond sixteen bits is written as two code units. -/
def writeChar (c : Char) : Text :=
  if c = '"' then ['\\', '"']
  else if c = '\\' then ['\\', '\\']
  else if c = '\n' then ['\\', 'n']
  else if c = '\r' then ['\\', 'r']
  else if c = '\t' then ['\\', 't']
  else if c = '\x0c' then ['\\', 'f']
  else if c = '\x08' then ['\\', 'b']
  else if 32 ≤ c.toNat ∧ c.toNat < 127 then [c]
  else if c.toNat < 0x10000 then unitEscape c.toNat
  else
    unitEscape (0xD800 + (c.toNat - 0x10000) / 0x400) ++
      unitEscape (0xDC00 + (c.toNat - 0x10000) % 0x400)

def writeString (t : Text) : Text := '"' :: (t.flatMap writeChar ++ ['"'])

def writeNumber : Number → Text
  | .int n => Text.ofInt n
  | .float x => numberStyle.write x

/-- What separates the parts of a value: with an indentation each item has a line of its own. -/
structure Layout where
  indent : Option Nat

namespace Layout

/-- The break before an item at a depth of nesting. -/
def lineBreak (l : Layout) (depth : Nat) : Text :=
  match l.indent with
  | none => []
  | some width => '\n' :: List.replicate (width * depth) ' '

/-- What stands between two items. -/
def separator (l : Layout) (depth : Nat) : Text :=
  match l.indent with
  | none => ", ".toList
  | some _ => ',' :: l.lineBreak depth

end Layout

mutual

/-- The text of a value whose own items stand at the given depth. -/
def writeAt (l : Layout) (depth : Nat) : Json → Text
  | .null => "null".toList
  | .bool true => "true".toList
  | .bool false => "false".toList
  | .num n => writeNumber n
  | .str t => writeString t
  | .arr [] => "[]".toList
  | .arr (v :: vs) =>
    '[' :: (l.lineBreak depth ++ writeAt l (depth + 1) v ++ writeItems l depth vs ++
      l.lineBreak (depth - 1) ++ [']'])
  | .obj [] => "\x7b\x7d".toList
  | .obj ((name, v) :: ms) =>
    '\x7b' :: (l.lineBreak depth ++ writeString name ++ ": ".toList ++ writeAt l (depth + 1) v ++
      writeMembers l depth ms ++ l.lineBreak (depth - 1) ++ ['\x7d'])

/-- The further items of an array. -/
def writeItems (l : Layout) (depth : Nat) : List Json → Text
  | [] => []
  | v :: vs => l.separator depth ++ writeAt l (depth + 1) v ++ writeItems l depth vs

/-- The further members of an object. -/
def writeMembers (l : Layout) (depth : Nat) : List (Text × Json) → Text
  | [] => []
  | (name, v) :: ms =>
    l.separator depth ++ writeString name ++ ": ".toList ++ writeAt l (depth + 1) v ++
      writeMembers l depth ms

end

/-- The text of a value. -/
def write (l : Layout) (v : Json) : Text := writeAt l 1 v

end FlowTalk.Json
