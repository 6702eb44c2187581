import FlowTalk.Lookup.Basic
import FlowTalk.Mention
import FlowTalk.Utterance.Ordinal

/-! The node that a mention stands for. Ids and labels that agree are tried before numbers, and
keywords last, so that a likeness never hides a node that was named exactly. -/
namespace FlowTalk.Lookup

/-- The node that a text stands for; whether it may be a node number is a choice. -/
def resolveText (ordinals : Bool) (t : Text) (nodes : Listing) :
    Except NumeralError (Option Entry) :=
  let t := Text.trim t
  if t.isEmpty then .ok none
  else
    match byId t nodes with
    | some node => .ok (some node)
    | none =>
      match byLabel t nodes with
      | some node => .ok (some node)
      | none =>
        if ordinals then
          (ordinal? t).map fun
            | some n => byOrdinal n nodes
            | none => byKeywords t nodes
        else .ok (byKeywords t nodes)

/-- A number stands for a place in the list, a given label never does. -/
def resolve (m : Mention) (nodes : Listing) : Except NumeralError (Option Entry) :=
  match m with
  | .ordinal n _ => .ok (byOrdinal n nodes)
  | .label t => resolveText false t nodes
  | .phrase t => resolveText true t nodes

end FlowTalk.Lookup
