import FlowTalk.Json.Value
import FlowTalk.Number.Style
import FlowTalk.Text.Quoted

/-! Values as they appear inside texts. -/
namespace FlowTalk.Json

/-- Numbers in texts: as in JSON texts but for the words. -/
def displayStyle : NumberStyle := ⟨-4, 15, "inf".toList, "nan".toList⟩

def displayNumber : Number → Text
  | .int n => Text.ofInt n
  | .float x => displayStyle.write x

mutual

/-- A value with its strings in quotes. -/
def quoted : Json → Text
  | .null => "None".toList
  | .bool true => "True".toList
  | .bool false => "False".toList
  | .num n => displayNumber n
  | .str t => Text.quoted t
  | .arr [] => "[]".toList
  | .arr (v :: vs) => '[' :: (quoted v ++ quotedItems vs ++ [']'])
  | .obj [] => "\x7b\x7d".toList
  | .obj ((name, v) :: ms) =>
    '\x7b' :: (Text.quoted name ++ ": ".toList ++ quoted v ++ quotedMembers ms ++ ['\x7d'])

def quotedItems : List Json → Text
  | [] => []
  | v :: vs => ", ".toList ++ quoted v ++ quotedItems vs

def quotedMembers : List (Text × Json) → Text
  | [] => []
  | (name, v) :: ms =>
    ", ".toList ++ Text.quoted name ++ ": ".toList ++ quoted v ++ quotedMembers ms

end

/-- The text of a value: a string is its own. -/
def display : Json → Text
  | .str t => t
  | v => quoted v

end FlowTalk.Json
