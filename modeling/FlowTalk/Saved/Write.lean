import FlowTalk.Flow.Basic
import FlowTalk.Json.Writer
import FlowTalk.Time

/-! Flows in writing. -/
namespace FlowTalk

/-- What is written of a flow: positions, the time, and how far each level is indented; without an
indentation all is on one line. -/
structure SaveOptions where
  positions : Bool := true
  timestamp : Bool := true
  indent : Option Int := some 2

namespace SaveOptions

/-- A negative indentation is none, but each item still has a line of its own. -/
def layout (o : SaveOptions) : Json.Layout := ⟨o.indent.map Int.toNat⟩

/-- An option that is not known or has a value of the wrong kind. -/
inductive OptionError where
  | refused (name : Text)

def set (o : SaveOptions) (name : Text) (v : Json) : Except OptionError SaveOptions :=
  if name = "include_positions".toList then .ok { o with positions := !v.isFalsy }
  else if name = "include_timestamp".toList then .ok { o with timestamp := !v.isFalsy }
  else if name = "indent".toList then
    match v with
    | .null => .ok { o with indent := none }
    | .num (.int n) => .ok { o with indent := some n }
    | .bool b => .ok { o with indent := some (if b then 1 else 0) }
    | _ => .error (.refused name)
  else .error (.refused name)

/-- The options that are given, and the usual ones for the rest. -/
def ofMembers (members : List (Text × Json)) : Except OptionError SaveOptions :=
  members.foldlM (fun o m => o.set m.1 m.2) {}

end SaveOptions

def Position.toJson (p : Position) : Json :=
  .obj [("x".toList, .float p.x), ("y".toList, .float p.y)]

namespace Node

def dataJson (n : Node) : Json := .obj [("label".toList, .str n.label)]

def toJson (n : Node) : Json :=
  .obj [("id".toList, .str n.id), ("position".toList, n.position.toJson),
    ("data".toList, n.dataJson)]

def savedJson (positions : Bool) (n : Node) : Json :=
  if positions then n.toJson
  else .obj [("id".toList, .str n.id), ("data".toList, n.dataJson)]

end Node

def Edge.toJson (e : Edge) : Json :=
  .obj [("id".toList, .str e.id), ("source".toList, .str e.source),
    ("target".toList, .str e.target)]

namespace Flow

/-- A flow with its name. -/
def toJson (f : Flow) : Json :=
  .obj [("id".toList, .str f.name), ("nodes".toList, .arr (f.allNodes.map Node.toJson)),
    ("edges".toList, .arr (f.allEdges.map Edge.toJson))]

/-- What is saved of a flow at a time. -/
def savedJson (o : SaveOptions) (clock : Int) (f : Flow) : Json :=
  .obj <|
    ("nodes".toList, .arr (f.allNodes.map (Node.savedJson o.positions))) ::
    ("edges".toList, .arr (f.allEdges.map Edge.toJson)) ::
    (if o.timestamp then [("savedAt".toList, .str (Time.timestamp clock))] else [])

/-- The text of a saved flow. -/
def savedText (o : SaveOptions) (clock : Int) (f : Flow) : Text :=
  Json.write o.layout (f.savedJson o clock)

end Flow

end FlowTalk
