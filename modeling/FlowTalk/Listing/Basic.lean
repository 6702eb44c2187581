import FlowTalk.Text.Basic

namespace FlowTalk

/-- A node as a command sees it: its id, its label and its place in the list, counted from zero. -/
structure Entry where
  id : Text
  label : Text
  index : Nat
  deriving DecidableEq

/-- The nodes of a flow in their order. -/
abbrev Listing := List Entry

namespace Listing

/-- The listing of some ids and labels, numbered in their order. -/
def ofPairs (pairs : List (Text × Text)) : Listing :=
  pairs.mapIdx fun i pair => ⟨pair.1, pair.2, i⟩

/-- The label of a node that is given none. -/
def nextLabel (nodes : Listing) : Text := "Node ".toList ++ Text.ofNat (nodes.length + 1)

def emptyMessage : Text := "The flow is currently empty. Add some nodes to get started!".toList

/-- The labels of the nodes, numbered from one, a line each. -/
def summaryLines (nodes : Listing) : List Text :=
  nodes.mapIdx fun i node => Text.ofNat (i + 1) ++ ". \"".toList ++ node.label ++ "\"".toList

/-- A description of the flow for its user. -/
def summary (nodes : Listing) : Text :=
  if nodes.isEmpty then emptyMessage
  else
    "Current flow structure:\n\nNodes:\n".toList ++ Text.joinWith "\n".toList nodes.summaryLines ++
      "\n\nTotal: ".toList ++ Text.ofNat nodes.length ++ " node(s)".toList

/-- What is said of a mention that no node answers. -/
def notFoundMessage (mention : Text) (nodes : Listing) : Text :=
  let available :=
    Text.joinWith ", ".toList (nodes.map fun node => "\"".toList ++ node.label ++ "\"".toList)
  "Node \"".toList ++ mention ++ "\" not found. Available nodes: ".toList ++
    (if available.isEmpty then "none".toList else available)

end Listing

end FlowTalk
