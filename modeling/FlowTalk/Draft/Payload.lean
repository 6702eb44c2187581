import FlowTalk.Draft.Basic
import FlowTalk.Json.Display

/-! Drafts from messages. -/
namespace FlowTalk

/-- A slot of a draft, and the field of a message that fills it. -/
inductive Slot where
  | node
  | label
  | source
  | target
  | message
  deriving DecidableEq

namespace Slot

def name : Slot → String
  | node => "nodeId"
  | label => "nodeLabel"
  | source => "sourceNodeId"
  | target => "targetNodeId"
  | message => "message"

end Slot

/-- The slots that a message about a command has to fill. -/
def Intent.required : Intent → List Slot
  | .add => [.label]
  | .delete => [.node]
  | .update => [.node, .label]
  | .connect | .disconnect => [.source, .target]
  | .explain => [.message]
  | .unknown => []

/-- Why a value is no message about a command. -/
inductive PayloadError where
  | notObject
  | unknownType (type : Json)
  | notText (slot : Slot)
  | missing (intent : Intent) (slot : Slot)

namespace PayloadError

def message : PayloadError → Text
  | notObject => "Command payload must be a JSON object.".toList
  | unknownType type => "Unknown command type: ".toList ++ type.quoted
  | notText slot => "Field '".toList ++ slot.name.toList ++ "' must be a string.".toList
  | missing intent slot =>
    "'".toList ++ intent.tag ++ "' requires '".toList ++ slot.name.toList ++ "'.".toList

end PayloadError

namespace Draft

/-- The text that a message has for a slot; a null is no text. -/
def slotText (members : List (Text × Json)) (slot : Slot) :
    Except PayloadError (Option Text) :=
  match Json.field? slot.name members with
  | none | some .null => .ok none
  | some (.str t) => .ok (some t)
  | some _ => .error (.notText slot)

/-- The mention in a text, trimmed; an empty text mentions nothing. -/
def mentioned : Option Text → Option Mention
  | some (c :: rest) => some (.phrase (Text.trim (c :: rest)))
  | _ => none

/-- A label, trimmed; an empty text is none. -/
def labelled : Option Text → Option Text
  | some (c :: rest) => some (Text.trim (c :: rest))
  | _ => none

/-- Whether there is more than white space. -/
def isGiven (text : Option Text) : Bool := !(Text.trim (text.getD [])).isEmpty

/-- The draft that a message stands for: what it has for slots are texts, and those that its type
requires are not blank. -/
def ofMembers (members : List (Text × Json)) : Except PayloadError Draft := do
  let type := (Json.field? "type" members).getD .null
  let intent ←
    match type with
    | .str t => (Intent.ofTag? t).elim (.error (.unknownType type)) .ok
    | _ => .error (.unknownType type)
  let node ← slotText members .node
  let label ← slotText members .label
  let source ← slotText members .source
  let target ← slotText members .target
  let message ← slotText members .message
  let text : Slot → Option Text
    | .node => node
    | .label => label
    | .source => source
    | .target => target
    | .message => message
  match intent.required.find? fun slot => !isGiven (text slot) with
  | some slot => .error (.missing intent slot)
  | none =>
    .ok {
      intent
      label := labelled label
      node := mentioned node
      source := mentioned source
      target := mentioned target
      message }

/-- The draft that a value stands for. -/
def ofPayload : Json → Except PayloadError Draft
  | .obj members => ofMembers members
  | _ => .error .notObject

end Draft

end FlowTalk
