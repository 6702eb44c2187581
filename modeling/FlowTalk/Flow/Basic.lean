import FlowTalk.Flow.Table
import FlowTalk.Listing.Basic
import FlowTalk.Text.Quoted

/-! Flows: nodes, the edges between them, and for each node the edges that touch it. -/
namespace FlowTalk

structure Position where
  x : Float
  y : Float

structure Node where
  id : Text
  label : Text
  position : Position

structure Edge where
  id : Text
  source : Text
  target : Text
  deriving DecidableEq

namespace Edge

/-- Whether an edge goes from one node to another. -/
def connects (e : Edge) (source target : Text) : Bool := e.source == source && e.target == target

/-- Whether a node is one of the ends of an edge. -/
def touches (e : Edge) (node : Text) : Bool := e.source == node || e.target == node

/-- An edge in words. -/
def caption (e : Edge) : Text :=
  "FlowEdge(".toList ++ e.source ++ " -> ".toList ++ e.target ++ ")".toList

end Edge

/-- A node in words. -/
def Node.caption (n : Node) : Text :=
  "FlowNode(".toList ++ n.id ++ ", ".toList ++ Text.quoted n.label ++ ")".toList

/-- A flow diagram. `touching` holds under each node id the edges that touch the node, so that the
edges of a node are found without a scan of all edges. -/
structure Flow where
  name : Text
  nodes : Table Node
  edges : Table Edge
  touching : Table (List Edge)

/-- Why a change of a flow is refused. -/
inductive FlowError where
  | nodeExists (id : Text)
  | nodeMissing (id : Text)
  | sourceMissing (id : Text)
  | targetMissing (id : Text)
  | edgeExists (id : Text)
  deriving DecidableEq

def FlowError.message : FlowError → Text
  | nodeExists id => "Node with id ".toList ++ id ++ " already exists".toList
  | nodeMissing id => "Node ".toList ++ id ++ " not in graph".toList
  | sourceMissing id => "Source node ".toList ++ id ++ " not in graph".toList
  | targetMissing id => "Target node ".toList ++ id ++ " not in graph".toList
  | edgeExists id => "Edge with id ".toList ++ id ++ " already exists".toList

namespace Flow

def empty (name : Text) : Flow := ⟨name, [], [], []⟩

def allNodes (f : Flow) : List Node := f.nodes.values

def allEdges (f : Flow) : List Edge := f.edges.values

def node? (id : Text) (f : Flow) : Option Node := f.nodes.find? id

def edge? (id : Text) (f : Flow) : Option Edge := f.edges.find? id

def hasNode (id : Text) (f : Flow) : Bool := f.nodes.has id

/-- The nodes of a flow in their order, as commands see them. -/
def listing (f : Flow) : Listing := .ofPairs (f.allNodes.map fun n => (n.id, n.label))

/-- The edges from one node to another, read from the edges that touch the first. -/
def edgesFrom (source target : Text) (f : Flow) : List Edge :=
  ((f.touching.find? source).getD []).filter fun e => e.connects source target

def addNode (n : Node) (f : Flow) : Except FlowError Flow :=
  if f.hasNode n.id then .error (.nodeExists n.id)
  else .ok { f with nodes := f.nodes.put n.id n, touching := f.touching.put n.id [] }

def relabel (id label : Text) (f : Flow) : Except FlowError Flow :=
  if f.hasNode id then
    .ok { f with nodes := f.nodes.adjust id fun n => { n with label := label } }
  else .error (.nodeMissing id)

/-- Enters an edge among those that touch a node. -/
def touch (node : Text) (e : Edge) (touching : Table (List Edge)) : Table (List Edge) :=
  touching.adjust node fun es => es ++ [e]

def addEdge (e : Edge) (f : Flow) : Except FlowError Flow :=
  if !f.hasNode e.source then .error (.sourceMissing e.source)
  else if !f.hasNode e.target then .error (.targetMissing e.target)
  else if f.edges.has e.id then .error (.edgeExists e.id)
  else
    let touching := touch e.source e f.touching
    .ok { f with
      edges := f.edges.put e.id e
      touching := if e.source = e.target then touching else touch e.target e touching }

/-- Drops an edge from those that touch a node. -/
def untouch (node edge : Text) (touching : Table (List Edge)) : Table (List Edge) :=
  touching.adjust node fun es => es.filter fun e => e.id != edge

/-- Removes an edge; without the edge nothing changes. -/
def removeEdge (id : Text) (f : Flow) : Flow :=
  match f.edge? id with
  | none => f
  | some e =>
    { f with
      edges := f.edges.erase id
      touching := untouch e.target id (untouch e.source id f.touching) }

def removeEdges (es : List Edge) (f : Flow) : Flow :=
  es.foldl (fun f e => f.removeEdge e.id) f

/-- Removes a node with the edges that touch it. -/
def removeNode (id : Text) (f : Flow) : Except FlowError Flow :=
  if f.hasNode id then
    let f := f.removeEdges ((f.touching.find? id).getD [])
    .ok { f with nodes := f.nodes.erase id, touching := f.touching.erase id }
  else .error (.nodeMissing id)

/-- Removes the edges from one node to another, and says how many there were. -/
def disconnect (source target : Text) (f : Flow) : Nat × Flow :=
  let es := f.edgesFrom source target
  (es.length, f.removeEdges es)

def clear (f : Flow) : Flow := .empty f.name

/-- A flow in words. -/
def caption (f : Flow) : Text :=
  "FlowGraph(".toList ++ f.name ++ ", nodes=".toList ++ Text.ofNat f.nodes.length ++
    ", edges=".toList ++ Text.ofNat f.edges.length ++ ")".toList

end Flow

end FlowTalk
