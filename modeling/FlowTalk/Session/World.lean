import FlowTalk.Command
import FlowTalk.Flow.Position
import FlowTalk.Json.Display
import FlowTalk.Session.Supply

/-! Changes of a flow that take fresh ids, and commands carried out. -/
namespace FlowTalk

/-- A flow and the supply for its changes. -/
structure World where
  flow : Flow
  supply : Supply

/-- What a change comes to, and the world after it. -/
abbrev Changed (ε α : Type) := Except ε α × World

namespace World

/-- Adds a node with a fresh id at a position. -/
def createAt (label : Text) (position : Position) (w : World) : Changed FlowError Node :=
  let (id, supply) := w.supply.freshNodeId
  let n : Node := ⟨id, label, position⟩
  match w.flow.addNode n with
  | .ok flow => (.ok n, ⟨flow, supply⟩)
  | .error e => (.error e, { w with supply })

/-- A label, or the one of a node that is given none. -/
def labelOr (label : Text) (w : World) : Text :=
  if label.isEmpty then w.flow.listing.nextLabel else label

/-- Adds a node with a fresh id at a random place. -/
def create (label : Text) (w : World) : Changed FlowError Node :=
  let (position, supply) := w.supply.randomPosition
  createAt (w.labelOr label) position { w with supply }

/-- Why a node is not created. -/
inductive CreateError where
  | position (e : PositionError)
  | flow (e : FlowError)

/-- Adds a node at a place given by a value. An id is taken before the value is looked at. -/
def createAtValue (label : Text) (position : Json) (w : World) : Changed CreateError Node :=
  match Position.ofJson position with
  | .error e => (.error (.position e), { w with supply := w.supply.freshNodeId.2 })
  | .ok position =>
    let (r, w) := w.createAt (w.labelOr label) position
    (r.mapError .flow, w)

/-- Adds a node for a label and a position of any shape. A label that counts as false is none, and
a null is no position. -/
def createFrom (label position : Json) (w : World) : Changed CreateError Node :=
  let label := if label.isFalsy then [] else label.display
  match position with
  | .null =>
    let (r, w) := w.create label
    (r.mapError .flow, w)
  | position => w.createAtValue label position

/-- The first edge from one node to another, or a new one; whether it is new is told. -/
def connect (source target : Text) (w : World) : Changed FlowError (Edge × Bool) :=
  match w.flow.edgesFrom source target with
  | e :: _ => (.ok (e, false), w)
  | [] =>
    if !w.flow.hasNode source then (.error (.sourceMissing source), w)
    else if !w.flow.hasNode target then (.error (.targetMissing target), w)
    else
      let (id, supply) := w.supply.freshEdgeId
      let e : Edge := ⟨id, source, target⟩
      match w.flow.addEdge e with
      | .ok flow => (.ok (e, true), ⟨flow, supply⟩)
      | .error error => (.error error, { w with supply })

end World

/-- The id of what a command made or found. -/
inductive Detail where
  | node (id : Text)
  | edge (id : Text)
  deriving DecidableEq

/-- What is reported of a command. -/
structure Outcome where
  success : Bool
  message : Text
  detail : Option Detail := none
  deriving DecidableEq

namespace Outcome

def failure (message : Text) : Outcome := { success := false, message }

def done (message : Text) : Outcome := { success := true, message }

end Outcome

namespace Command

/-- A text in single quotes, as it is. -/
def named (t : Text) : Text := '\'' :: (t ++ ['\''])

def notFound (kind : String) (id : Text) : Outcome :=
  .failure (kind.toList ++ ' ' :: (named id ++ " not found.".toList))

/-- Carries out a change of the edges between two nodes, both of which must be there. -/
def betweenNodes (source target : Text) (w : World)
    (change : World → Changed FlowError Outcome) : Changed FlowError Outcome :=
  if !w.flow.hasNode source then (.ok (notFound "Source node" source), w)
  else if !w.flow.hasNode target then (.ok (notFound "Target node" target), w)
  else change w

def arrow (source target : Text) : Text := named source ++ " -> ".toList ++ named target

/-- Carries out a command. A command about a node that is not there fails and changes nothing. -/
def execute : Command → World → Changed FlowError Outcome
  | .add label, w =>
    let (r, w) := w.create label
    (r.map fun n =>
      { success := true
        message := "Node ".toList ++ named n.label ++ " added.".toList
        detail := some (.node n.id) }, w)
  | .delete id, w =>
    match w.flow.node? id with
    | none => (.ok (notFound "Node" id), w)
    | some n =>
      let count := (w.flow.allEdges.filter fun e => e.touches id).length
      match w.flow.removeNode id with
      | .ok flow =>
        (.ok (.done ("Node ".toList ++ named n.label ++ " deleted (".toList ++
          Text.ofNat count ++ " connection(s) removed).".toList)), { w with flow })
      | .error e => (.error e, w)
  | .update id label, w =>
    match w.flow.node? id with
    | none => (.ok (notFound "Node" id), w)
    | some n =>
      match w.flow.relabel id label with
      | .ok flow =>
        (.ok (.done ("Node ".toList ++ named n.label ++ " renamed to ".toList ++ named label ++
          ".".toList)), { w with flow })
      | .error e => (.error e, w)
  | .connect source target, w =>
    betweenNodes source target w fun w =>
      let (r, w) := w.connect source target
      (r.map fun (e, isNew) =>
        { success := true
          message :=
            if isNew then "Connected ".toList ++ arrow source target ++ ".".toList
            else "Nodes ".toList ++ named source ++ " and ".toList ++ named target ++
              " are already connected.".toList
          detail := some (.edge e.id) }, w)
  | .disconnect source target, w =>
    betweenNodes source target w fun w =>
      let (count, flow) := w.flow.disconnect source target
      (.ok (.done ("Removed ".toList ++ Text.ofNat count ++ " connection(s) ".toList ++
        arrow source target ++ ".".toList)), { w with flow })
  | .explain message, w => (.ok (.done message), w)
  | .unknown message, w => (.ok (.failure message), w)

end Command

end FlowTalk
