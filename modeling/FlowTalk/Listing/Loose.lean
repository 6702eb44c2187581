import FlowTalk.Json.Display
import FlowTalk.Listing.Basic

/-! Listings from values of any shape. -/
namespace FlowTalk.Listing

/-- The parts of a value that has parts: items, the names of an object, the characters of a
string. -/
def parts? : Json → Option (List Json)
  | .arr items => some items
  | .obj members => some (members.map fun m => .str m.1)
  | .str t => some (t.map fun c => .str [c])
  | _ => none

/-- The text of a field; empty if the value is no object or has no such field. -/
def fieldText (name : String) : Json → Text
  | .obj members => ((Json.field? name members).map Json.display).getD []
  | _ => []

/-- A value that has no parts where a list is expected. -/
inductive ShapeError where
  | notList

/-- A listing from the ids and labels of the parts of a value. A value that counts as false stands
for no nodes. -/
def ofLoose (v : Json) : Except ShapeError Listing :=
  if v.isFalsy then .ok []
  else
    match parts? v with
    | some vs => .ok (ofPairs (vs.map fun v => (fieldText "id" v, fieldText "label" v)))
    | none => .error .notList

/-- Why a value is not read as pairs. -/
inductive PairError where
  | notList
  | notPair
  deriving DecidableEq

/-- The two texts of a value with two parts. -/
def pair (v : Json) : Except PairError (Text × Text) :=
  match parts? v with
  | some [id, label] => .ok (id.display, label.display)
  | some _ => .error .notPair
  | none => .error .notList

/-- A listing from pairs of an id and a label. -/
def ofPairValues (v : Json) : Except PairError Listing :=
  match parts? v with
  | some vs => (vs.mapM pair).map ofPairs
  | none => .error .notList

end FlowTalk.Listing
