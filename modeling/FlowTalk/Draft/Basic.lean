import FlowTalk.Intent
import FlowTalk.Json.Value
import FlowTalk.Mention

namespace FlowTalk

/-- A command whose nodes are only mentioned. Which slots are filled depends on where the draft
comes from. -/
structure Draft where
  intent : Intent
  label : Option Text := none
  node : Option Mention := none
  source : Option Mention := none
  target : Option Mention := none
  message : Option Text := none
  deriving DecidableEq

namespace Draft

def add (label : Text) : Draft := { intent := .add, label := some label }

def delete (node : Mention) : Draft := { intent := .delete, node := some node }

def update (node : Mention) (label : Text) : Draft :=
  { intent := .update, node := some node, label := some label }

def connect (source target : Mention) : Draft :=
  { intent := .connect, source := some source, target := some target }

def disconnect (source target : Mention) : Draft :=
  { intent := .disconnect, source := some source, target := some target }

def explain (message : Text) : Draft := { intent := .explain, message := some message }

def unknown (message : Text) : Draft := { intent := .unknown, message := some message }

/-- The member of an object for a slot, if the slot is filled. -/
def slotField (name : String) (slot : Option Text) : List (Text × Json) :=
  match slot with
  | some t => [(name.toList, .str t)]
  | none => []

/-- The message that carries a draft. -/
def toJson (d : Draft) : Json :=
  .obj <| ("type".toList, .str d.intent.tag) ::
    (slotField "nodeId" (d.node.map Mention.text) ++
      slotField "nodeLabel" d.label ++
      slotField "sourceNodeId" (d.source.map Mention.text) ++
      slotField "targetNodeId" (d.target.map Mention.text) ++
      slotField "message" d.message)

end Draft

end FlowTalk
