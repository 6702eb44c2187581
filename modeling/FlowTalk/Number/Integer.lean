import FlowTalk.Number.Decimal

/-! Integers from text. -/
namespace FlowTalk.IntText

/-- The integer that a text stands for: digits of any script after a sign, with white space around
them. A text with too many digits stands for none. -/
def read? (t : Text) : Option Int :=
  let (negative, t) :=
    FloatText.sign (Text.trimWhere FloatText.isAsciiSpace (t.map FloatText.asciiChar))
  match FloatText.withoutLowLines none t with
  | none => none
  | some digits =>
    if digits.isEmpty || !digits.all Char.isDigit then none
    else
      match Numeral.read digits with
      | .ok n => some (if negative then -(n : Int) else n)
      | .error .tooLong => none

end FlowTalk.IntText
