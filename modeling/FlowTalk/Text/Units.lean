import FlowTalk.Text.Ranges

/-! Texts as code units of sixteen bits. -/
namespace FlowTalk.Text

def isHighSurrogate (n : Nat) : Bool := 0xD800 ≤ n && n < 0xDC00

def isLowSurrogate (n : Nat) : Bool := 0xDC00 ≤ n && n < 0xE000

/-- A code unit alone. Half of a pair is no character, and the replacement character stands for it:
texts that differ in such halves only are read as the same. -/
def ofUnit (n : Nat) : Char :=
  if isHighSurrogate n || isLowSurrogate n then '\ufffd' else Char.ofNat n

/-- The characters of code units: a high half and the low half after it make one. -/
def ofUnits : List Nat → Text
  | [] => []
  | [n] => [ofUnit n]
  | n :: m :: rest =>
    if isHighSurrogate n && isLowSurrogate m then
      Char.ofNat (0x10000 + (n - 0xD800) * 0x400 + (m - 0xDC00)) :: ofUnits rest
    else ofUnit n :: ofUnits (m :: rest)

end FlowTalk.Text
