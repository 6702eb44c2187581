import FlowTalk.Command
import FlowTalk.Lookup.Resolve
import FlowTalk.Utterance.Detector

/-! From a draft to a command, and from an utterance to a command. -/
namespace FlowTalk

def edgeNotFoundMessage : Text := "Could not find one or both nodes to connect/disconnect.".toList

/-- The command for the node that a mention stands for, or the report that there is none. -/
def withNode (mention : Mention) (nodes : Listing) (command : Text → Command) :
    Except NumeralError Command :=
  (Lookup.resolve mention nodes).map fun
    | some node => command node.id
    | none => .unknown (nodes.notFoundMessage mention.text)

/-- The command for the ends of an edge, or the report that one of them is missing. -/
def withEnds (source target : Option Mention) (nodes : Listing)
    (command : Text → Text → Command) : Except NumeralError Command :=
  match source, target with
  | some source, some target => do
    let s ← Lookup.resolve source nodes
    let t ← Lookup.resolve target nodes
    match s, t with
    | some s, some t => return command s.id t.id
    | _, _ => return .unknown edgeNotFoundMessage
  | _, _ => .ok (.unknown edgeNotFoundMessage)

/-- The label of a draft without outer white space; empty if there is none. -/
def Draft.trimmedLabel (d : Draft) : Text := Text.trim (d.label.getD [])

/-- The command that a draft stands for. A mention that no node answers makes it unknown. -/
def Draft.build (d : Draft) (nodes : Listing) : Except NumeralError Command :=
  match d.intent with
  | .add =>
    let label := d.trimmedLabel
    .ok (.add (if label.isEmpty then nodes.nextLabel else label))
  | .delete =>
    match d.node with
    | none => .ok (.unknown (nodes.notFoundMessage []))
    | some node => withNode node nodes .delete
  | .update =>
    let label := d.trimmedLabel
    match d.node with
    | none => .ok (.unknown Usage.update)
    | some node =>
      if label.isEmpty then .ok (.unknown Usage.update)
      else withNode node nodes fun id => .update id label
  | .connect => withEnds d.source d.target nodes .connect
  | .disconnect => withEnds d.source d.target nodes .disconnect
  | .explain => .ok (.explain (d.message.getD []))
  | .unknown =>
    match d.message with
    | some (c :: rest) => .ok (.unknown (c :: rest))
    | _ => .ok (.unknown Usage.anything)

/-- The command for an utterance about some nodes. -/
def interpret (t : Text) (nodes : Listing) : Except NumeralError Command := do
  let draft ← Utterance.understand t nodes
  draft.build nodes

end FlowTalk
