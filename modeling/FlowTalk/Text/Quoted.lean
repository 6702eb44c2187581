import FlowTalk.Text.Basic
import FlowTalk.Text.Printable

/-! Texts in quotes, with escapes for what cannot be seen. -/
namespace FlowTalk.Text

/-- A character between quotes of the given kind. -/
def quotedChar (quote c : Char) : Text :=
  if c = quote ∨ c = '\\' then ['\\', c]
  else if c = '\t' then ['\\', 't']
  else if c = '\n' then ['\\', 'n']
  else if c = '\r' then ['\\', 'r']
  else if isPrintable c then [c]
  else if c.toNat < 0x100 then '\\' :: 'x' :: padded 2 (ofNatHex c.toNat)
  else if c.toNat < 0x10000 then '\\' :: 'u' :: padded 4 (ofNatHex c.toNat)
  else '\\' :: 'U' :: padded 8 (ofNatHex c.toNat)

/-- Single quotes are preferred; double ones save the escapes of single ones. -/
def quoteFor (t : Text) : Char := if t.contains '\'' && !t.contains '"' then '"' else '\''

/-- A text in quotes. -/
def quoted (t : Text) : Text :=
  let quote := quoteFor t
  quote :: (t.flatMap (quotedChar quote) ++ [quote])

end FlowTalk.Text
