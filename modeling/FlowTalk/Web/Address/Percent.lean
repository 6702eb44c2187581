import FlowTalk.Text.Basic
import FlowTalk.Text.Encoding

/-! Percent escapes in web addresses. -/
namespace FlowTalk.Percent

/-- A byte as a percent sign and two digits. -/
def escapeByte (b : Nat) : Text := '%' :: (Text.padded 2 (Text.ofNatHex b)).map Char.toUpper

/-- A text with the bytes of all other characters than the safe ones escaped. -/
def escape (safe : Char → Bool) (t : Text) : Text :=
  t.flatMap fun c => if safe c then [c] else (Text.bytes [c]).flatMap escapeByte

def isPrintableAscii (c : Char) : Bool := 32 ≤ c.toNat && c.toNat < 127

/-- The visible characters of ASCII but for the given ones. -/
def allBut (excluded : String) (c : Char) : Bool :=
  isPrintableAscii c && c != ' ' && !excluded.toList.contains c

def safeInFragment (c : Char) : Bool := allBut "\"<>`" c

def safeInQuery (c : Char) : Bool := allBut "\"#<>" c

def safeInPath (c : Char) : Bool := allBut "\"#<>?`\x7b\x7d" c

def safeInUserInfo (c : Char) : Bool := allBut "\"#<>?`\x7b\x7d/;=@[\\]^|" c

def safeInHost (c : Char) : Bool := allBut "#<>?/:@[]^" c

end FlowTalk.Percent
