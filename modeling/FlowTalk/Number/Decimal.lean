import FlowTalk.Number.Basic
import FlowTalk.Number.Shortest
import FlowTalk.Numeral
import FlowTalk.Text.Basic
import FlowTalk.Text.Blank

/-! Floating-point numbers from decimal text. -/
namespace FlowTalk

/-- A decimal number in writing: its sign, its digits before and after the point, and its
exponent. -/
structure Written where
  negative : Bool
  whole : Text
  fraction : Text
  exponent : Int

namespace Decimal

/-- The nearest floating-point number. Far outside the range of exponents no power is computed. -/
def toFloat (d : Decimal) : Float :=
  let e := (Text.ofNat d.digits).length + d.exponent
  if d.digits = 0 ∨ e < -400 then 0.0
  else if 400 < e then Number.infinity
  else Float.ofScientific d.digits (d.exponent < 0) d.exponent.natAbs

end Decimal

namespace Written

def toDecimal (w : Written) : Decimal :=
  ⟨Numeral.value (w.whole ++ w.fraction), w.exponent - w.fraction.length⟩

def toFloat (w : Written) : Float :=
  if w.negative then -w.toDecimal.toFloat else w.toDecimal.toFloat

/-- An exponent after its mark; what follows it is left over. -/
def exponent? (t : Text) : Option (Int × Text) :=
  let read (t : Text) : Option (Nat × Text) :=
    let digits := t.takeWhile Char.isDigit
    if digits.isEmpty then none else some (Numeral.value digits, t.drop digits.length)
  match t with
  | '-' :: rest => (read rest).map fun (n, rest) => (-(n : Int), rest)
  | '+' :: rest => (read rest).map fun (n, rest) => ((n : Int), rest)
  | rest => (read rest).map fun (n, rest) => ((n : Int), rest)

end Written

namespace FloatText

/-- A sign at the front of a text; true if it is a minus. -/
def sign : Text → Bool × Text
  | '-' :: rest => (true, rest)
  | '+' :: rest => (false, rest)
  | rest => (false, rest)

/-- The ASCII form of spaces and digits beyond ASCII. -/
def asciiChar (c : Char) : Char :=
  if c.toNat < 127 then c
  else if isBlank c then ' '
  else
    match digitValue? c with
    | some d => Nat.digitChar d
    | none => c

def isAsciiSpace (c : Char) : Bool := c == ' ' || (9 ≤ c.toNat && c.toNat ≤ 13)

/-- A text without its low lines, each of which has to stand between two digits. -/
def withoutLowLines : Option Char → Text → Option Text
  | _, [] => some []
  | before, '_' :: rest =>
    if before.any Char.isDigit && rest.head?.any Char.isDigit then
      withoutLowLines (some '_') rest
    else none
  | _, c :: rest => (withoutLowLines (some c) rest).map (c :: ·)

/-- A number without sign: digits with at most one point among or beside them, then perhaps an
exponent. -/
def unsigned? (negative : Bool) (t : Text) : Option Written :=
  let whole := t.takeWhile Char.isDigit
  let (fraction, rest) :=
    match t.drop whole.length with
    | '.' :: rest =>
      let fraction := rest.takeWhile Char.isDigit
      (fraction, rest.drop fraction.length)
    | rest => ([], rest)
  if whole.isEmpty && fraction.isEmpty then none
  else
    match rest with
    | [] => some ⟨negative, whole, fraction, 0⟩
    | mark :: rest =>
      if mark == 'e' || mark == 'E' then
        match Written.exponent? rest with
        | some (e, []) => some ⟨negative, whole, fraction, e⟩
        | _ => none
      else none

/-- The number that a text stands for: digits of any script with a point and an exponent, or a word
for infinity or for no number, with white space around it. -/
def read? (t : Text) : Option Float :=
  let (negative, t) := sign (Text.trimWhere isAsciiSpace (t.map asciiChar))
  let word := t.map Char.toLower
  if word == "inf".toList || word == "infinity".toList then
    some (if negative then -Number.infinity else Number.infinity)
  else if word == "nan".toList then some Number.notNumber
  else (withoutLowLines none t).bind fun t => (unsigned? negative t).map Written.toFloat

end FloatText

end FlowTalk
