import FlowTalk.Flow.Basic
import FlowTalk.Json.Value
import FlowTalk.Number.Decimal

/-! Positions from values. -/
namespace FlowTalk

/-- Why a value is no coordinate. -/
inductive CoordinateError where
  | notNumber
  | notNumeric
  | tooLarge
  deriving DecidableEq

/-- Why a value is no position. -/
inductive PositionError where
  | notIndexed
  | keyed
  | tooShort
  | coordinate (e : CoordinateError)
  deriving DecidableEq

namespace Number

/-- The nearest floating-point number to an integer, if there is a finite one. -/
def ofIntNearest? (n : Int) : Option Float :=
  let x := Decimal.toFloat ⟨n.natAbs, 0⟩
  if x.isInf then none else some (if n < 0 then -x else x)

def toFloat? : Number → Option Float
  | .int n => ofIntNearest? n
  | .float x => some x

end Number

namespace Position

def origin : Position := ⟨0.0, 0.0⟩

/-- A number, a truth value as one or zero, or the text of a number. -/
def coordinate : Json → Except CoordinateError Float
  | .num n =>
    match n.toFloat? with
    | some x => .ok x
    | none => .error .tooLarge
  | .bool b => .ok (if b then 1.0 else 0.0)
  | .str t =>
    match FloatText.read? t with
    | some x => .ok x
    | none => .error .notNumeric
  | _ => .error .notNumber

/-- The position of the first two of some values. The first is converted before the second is
looked for. -/
def ofItems : List Json → Except PositionError Position
  | [] => .error .tooShort
  | v :: rest => do
    let x ← (coordinate v).mapError .coordinate
    match rest with
    | [] => .error .tooShort
    | w :: _ =>
      let y ← (coordinate w).mapError .coordinate
      return ⟨x, y⟩

/-- The position that a value stands for; the items of a string are its characters. -/
def ofJson : Json → Except PositionError Position
  | .arr items => ofItems items
  | .str t => ofItems (t.map fun c => .str [c])
  | .obj _ => .error .keyed
  | _ => .error .notIndexed

end Position

end FlowTalk
