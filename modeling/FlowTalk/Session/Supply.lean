import FlowTalk.Flow.Basic
import FlowTalk.Number.Decimal

/-! Where fresh ids, places and times come from. -/
namespace FlowTalk

/-- What is left to chance: the digits of each fresh id and each random number. -/
structure Chance where
  digits : Nat → Text
  number : Nat → Float

/-- Ids that are numbered, and numbers that go round in sixteenths. -/
def Chance.counting : Chance where
  digits k := Text.padded 9 (Text.ofNatHex (k + 1))
  number k := Float.ofNat (5 * k % 16) / 16.0

/-- The clock when an id is made, in microseconds since the start of 1970, how much later the flow
is saved, how many ids and random numbers have been taken, and the chance that they come from. -/
structure Supply where
  clock : Int
  delay : Int := 0
  ids : Nat := 0
  draws : Nat := 0
  chance : Chance := .counting

namespace Supply

/-- The side of the area in which nodes without a position are placed. -/
def canvas : Float := 400.0

/-- The whole part of a finite floating-point number. -/
def wholePart (x : Float) : Int :=
  let bits := x.toBits.toNat
  let n : Int := (Binary.ofBits (bits % Nat.pow 2 63)).floorAt 0
  if Nat.pow 2 63 ≤ bits then -n else n

/-- The clock in milliseconds, by way of seconds as a floating-point number. -/
def milliseconds (s : Supply) : Int := wholePart (Float.ofInt s.clock / 1e6 * 1000.0)

/-- The clock when the flow is saved. -/
def saveClock (s : Supply) : Int := s.clock + s.delay

/-- A fresh id with a kind, a time and nine digits in it. -/
def freshId (kind : String) (s : Supply) : Text × Supply :=
  (kind.toList ++ '-' :: (Text.ofInt s.milliseconds ++ '-' :: (s.chance.digits s.ids).take 9),
    { s with ids := s.ids + 1 })

def freshNodeId (s : Supply) : Text × Supply := s.freshId "node"

def freshEdgeId (s : Supply) : Text × Supply := s.freshId "edge"

/-- A number between two bounds. -/
def uniform (low high : Float) (s : Supply) : Float × Supply :=
  (low + (high - low) * s.chance.number s.draws, { s with draws := s.draws + 1 })

/-- A place for a node without a position. -/
def randomPosition (s : Supply) : Position × Supply :=
  let (x, s) := s.uniform 0.0 canvas
  let (y, s) := s.uniform 0.0 canvas
  (⟨x, y⟩, s)

end Supply

end FlowTalk
