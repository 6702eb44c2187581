import FlowTalk.Text.Ranges

/-! The fewest decimal digits that identify a binary floating-point number, by exact arithmetic. -/
namespace FlowTalk

/-- The number `mantissa * 2 ^ exponent`. Below a power of two the neighbours lie closer together. -/
structure Binary where
  mantissa : Nat
  exponent : Int
  closeBelow : Bool

/-- The number `digits * 10 ^ exponent`. -/
structure Decimal where
  digits : Nat
  exponent : Int
  deriving DecidableEq

namespace Binary

/-- The number that the bits of a finite floating-point number stand for, without its sign. -/
def ofBits (bits : Nat) : Binary :=
  let scale : Nat := bits / Nat.pow 2 52 % Nat.pow 2 11
  let fraction : Nat := bits % Nat.pow 2 52
  if scale = 0 then ⟨fraction, -1074, false⟩
  else ⟨Nat.pow 2 52 + fraction, (scale : Int) - 1075, fraction == 0 && 1 < scale⟩

/-- The order of `a * 10 ^ i` and `b * 2 ^ j`. -/
def compareScaled (a : Nat) (i : Int) (b : Nat) (j : Int) : Ordering :=
  compare (a * Nat.pow 10 i.toNat * Nat.pow 2 (-j).toNat)
    (b * Nat.pow 2 j.toNat * Nat.pow 10 (-i).toNat)

/-- Whether a decimal number is nearer to the binary one than to its neighbours. Half-way points
belong to the number with the even mantissa. -/
def identifiedBy (x : Binary) (d : Decimal) : Bool :=
  let low := 4 * x.mantissa - (if x.closeBelow then 1 else 2)
  let high := 4 * x.mantissa + 2
  let ends := x.mantissa % 2 == 0
  let above := compareScaled d.digits d.exponent low (x.exponent - 2)
  let below := compareScaled d.digits d.exponent high (x.exponent - 2)
  (above == .gt || (ends && above == .eq)) && (below == .lt || (ends && below == .eq))

/-- The largest multiple of `10 ^ i` up to the number, in units of `10 ^ i`. -/
def floorAt (x : Binary) (i : Int) : Nat :=
  x.mantissa * Nat.pow 2 x.exponent.toNat * Nat.pow 10 (-i).toNat /
    (Nat.pow 10 i.toNat * Nat.pow 2 (-x.exponent).toNat)

/-- The number of the decimal places before the point, or minus that of the zeros after it, by
search upwards from an estimate. -/
def placesFrom (x : Binary) : Nat → Int → Int
  | 0, k => k
  | fuel + 1, k =>
    if compareScaled 1 k x.mantissa x.exponent == .gt then k else placesFrom x fuel (k + 1)

/-- The least `k` with the number below `10 ^ k`. -/
def places (x : Binary) : Int :=
  let bits : Int := x.mantissa.log2 + x.exponent
  placesFrom x 4 (bits * 30103 / 100000 - 1)

/-- The better of the two neighbours of the number among the multiples of `10 ^ i`, if one of them
identifies it. Of two equally close ones the even one is better. -/
def neighbour? (x : Binary) (i : Int) : Option Decimal :=
  let low : Decimal := ⟨floorAt x i, i⟩
  let high : Decimal := ⟨floorAt x i + 1, i⟩
  match x.identifiedBy low, x.identifiedBy high with
  | true, true =>
    match compareScaled (2 * low.digits + 1) i (2 * x.mantissa) x.exponent with
    | .lt => some high
    | .gt => some low
    | .eq => some (if low.digits % 2 = 0 then low else high)
  | true, false => some low
  | false, true => some high
  | false, false => none

/-- Seventeen digits always suffice, so the exact value is never reached. -/
def shortest (x : Binary) : Decimal :=
  let k := x.places
  ((List.range 17).findSome? fun n : Nat => x.neighbour? (k - (n + 1 : Nat))).getD
    ⟨x.mantissa * Nat.pow 2 x.exponent.toNat * Nat.pow 5 (-x.exponent).toNat,
      -(-x.exponent).toNat⟩

end Binary

end FlowTalk
