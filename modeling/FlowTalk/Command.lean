import FlowTalk.Intent
import FlowTalk.Json.Value

namespace FlowTalk

/-- One requested change of a flow, with the ids of the nodes it is about, or a message. -/
inductive Command where
  | add (label : Text)
  | delete (node : Text)
  | update (node label : Text)
  | connect (source target : Text)
  | disconnect (source target : Text)
  | explain (message : Text)
  | unknown (message : Text)
  deriving DecidableEq

namespace Command

def intent : Command → Intent
  | add _ => .add
  | delete _ => .delete
  | update _ _ => .update
  | connect _ _ => .connect
  | disconnect _ _ => .disconnect
  | explain _ => .explain
  | unknown _ => .unknown

/-- Whether a command may change the flow. -/
def mutates : Command → Bool
  | explain _ | unknown _ => false
  | _ => true

/-- The fields of a command beside its type. -/
def fields : Command → List (Text × Json)
  | add label => [("nodeLabel".toList, .str label)]
  | delete node => [("nodeId".toList, .str node)]
  | update node label => [("nodeId".toList, .str node), ("nodeLabel".toList, .str label)]
  | connect source target | disconnect source target =>
    [("sourceNodeId".toList, .str source), ("targetNodeId".toList, .str target)]
  | explain message | unknown message => [("message".toList, .str message)]

/-- The message that carries a command. -/
def toJson (c : Command) : Json :=
  .obj (("type".toList, .str c.intent.tag) :: c.fields)

end Command

end FlowTalk
