import FlowTalk.Number.Shortest
import FlowTalk.Text.Basic

/-! The written form of floating-point numbers. -/
namespace FlowTalk

/-- How numbers are written: the exponents of the leading digit for which the point stands among
the digits, and the words for what is not a finite number. -/
structure NumberStyle where
  plainFrom : Int
  plainTo : Int
  infinity : Text
  notNumber : Text

namespace NumberStyle

def zeros (n : Nat) : Text := List.replicate n '0'

/-- Digits with the point after the first `point` of them; at least one digit on each side. -/
def plain (digits : Text) (point : Int) : Text :=
  if point ≤ 0 then "0.".toList ++ zeros (-point).toNat ++ digits
  else if digits.length ≤ point then
    digits ++ zeros (point.toNat - digits.length) ++ ".0".toList
  else digits.take point.toNat ++ '.' :: digits.drop point.toNat

/-- A signed exponent of at least two digits. -/
def exponent (e : Int) : Text :=
  let magnitude := Text.ofNat e.natAbs
  'e' :: (if e < 0 then '-' else '+') :: (zeros (2 - magnitude.length) ++ magnitude)

/-- Digits with the point after the first of them, and the exponent of that digit. -/
def scientific (digits : Text) (e : Int) : Text :=
  (match digits with
    | [] => []
    | [d] => [d]
    | d :: rest => d :: '.' :: rest) ++ exponent e

/-- The digits of a number without the zeros at its end. -/
def significant (d : Decimal) : Text := Text.trimEndWhere (· == '0') (Text.ofNat d.digits)

/-- The exponent of the leading digit of a positive number. -/
def leadingExponent (d : Decimal) : Int := (Text.ofNat d.digits).length + d.exponent - 1

def ofDecimal (style : NumberStyle) (d : Decimal) : Text :=
  let e := leadingExponent d
  if style.plainFrom ≤ e ∧ e ≤ style.plainTo then plain (significant d) (e + 1)
  else scientific (significant d) e

/-- The magnitude of a number given by its bits. -/
def ofMagnitude (style : NumberStyle) (bits : Nat) : Text :=
  let x := Binary.ofBits bits
  if x.mantissa = 0 then "0.0".toList else style.ofDecimal x.shortest

/-- The written form of a floating-point number: the fewest digits that identify it. -/
def write (style : NumberStyle) (x : Float) : Text :=
  if x.isNaN then style.notNumber
  else
    let bits := x.toBits.toNat
    let sign : Text := if Nat.pow 2 63 ≤ bits then ['-'] else []
    sign ++ if x.isInf then style.infinity else style.ofMagnitude (bits % Nat.pow 2 63)

end NumberStyle

end FlowTalk
