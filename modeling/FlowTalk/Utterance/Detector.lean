import FlowTalk.Draft.Basic
import FlowTalk.Listing.Basic
import FlowTalk.Utterance.Phrase
import FlowTalk.Utterance.Usage

/-! From an utterance to a draft: the first detector that accepts its head writes the draft. -/
namespace FlowTalk.Utterance
open Vocabulary

/-- A draft, unless a number in the utterance is too long to be read. -/
abbrev Drafting := Except NumeralError Draft

def asksToAdd (head : Text) : Bool :=
  (leadsWith addVerbs).occursIn head && !edgeWord.occursIn head && nodeWord.occursIn head

def asksToDelete (head : Text) : Bool :=
  (leadsWith deleteVerbs).occursIn head && !edgeWord.occursIn head

def asksToUpdate (head : Text) : Bool :=
  (leadsWith updateVerbs).occursIn head && !edgeWord.occursIn head

def asksToConnect (head : Text) : Bool :=
  (leadsWith connectVerbs).occursIn head ||
    ((leadsWith addVerbs).occursIn head && edgeWord.occursIn head)

def asksToDisconnect (head : Text) : Bool :=
  (leadsWith disconnectVerbs).occursIn head ||
    ((leadsWith deleteVerbs).occursIn head && edgeWord.occursIn head)

def asksToExplain (head : Text) : Bool := (leadsWith explainVerbs).occursIn head

/-- The first label, among the places for one, that is not empty once it is cleaned. -/
def firstLabel (t : Text) : List Pattern → Text
  | [] => []
  | p :: rest =>
    match p.search t with
    | none => firstLabel t rest
    | some m =>
      let label := cleanLabel (m.piece 1)
      if label.isEmpty then firstLabel t rest else label

def newLabel (t : Text) : Text :=
  match quotations t with
  | quoted :: _ => if quoted.isEmpty then firstLabel t newLabels else quoted
  | [] => firstLabel t newLabels

def draftAdd (t : Text) (nodes : Listing) : Drafting :=
  let label := newLabel t
  .ok (.add (if label.isEmpty then nodes.nextLabel else label))

/-- A label given as such, quoted or after a naming word. -/
def givenLabel? (t : Text) : Option Text :=
  let named := (namedLabel.search t).bind fun m =>
    let label := cleanLabel (m.piece 1)
    if label.isEmpty then none else some label
  match quotations t with
  | quoted :: _ => if quoted.isEmpty then named else some quoted
  | [] => named

def draftDelete (t : Text) (_ : Listing) : Drafting :=
  match givenLabel? t with
  | some label => .ok (.delete (.label label))
  | none =>
    match nodeNumber.search t with
    | some m =>
      (Numeral.read (m.piece 1)).map fun n => .delete (.ofOrdinal n m.body)
    | none =>
      (mention? false (after deleteVerbs t)).map fun
        | some node => .delete node
        | none => .unknown Usage.delete

/-- The node and the new label of an update. -/
def updateSlots (body : Text) : Except NumeralError (Option Mention × Text) :=
  match updateSplit.matchFront body with
  | some m => (mention? true (m.piece 1)).map fun node => (node, cleanLabel (m.piece 2))
  | none =>
    match (quotations body).getLast? with
    | some quoted =>
      (mention? true (quotation.replace " ".toList body)).map fun node => (node, quoted)
    | none => .ok (none, [])

def draftUpdate (t : Text) (_ : Listing) : Drafting :=
  (updateSlots (after updateVerbs t)).map fun
    | (some node, label) => if label.isEmpty then .unknown Usage.update else .update node label
    | (none, _) => .unknown Usage.update

/-- The text that names the ends of an edge: after the verb, or after the edge word if the verb
does not say that it is about an edge. -/
def edgeBody (group : List String) (t : Text) : Text :=
  let body :=
    if (leadsWith group).occursIn (head t) then leadingEdgeWord.erase (after group t)
    else
      match edgeWord.search (head t) with
      | some m => Text.trim (t.drop (m.head.length + m.body.length))
      | none => []
  leadingBetween.erase body

/-- The two nodes that a text mentions. -/
def ends (body : Text) : Except NumeralError (Option (Mention × Mention)) :=
  match pairSplit.matchFront body with
  | some m => do
    let source ← mention? false (m.piece 1)
    let target ← mention? false (m.piece 2)
    return source.bind fun s => target.map fun t => (s, t)
  | none =>
    match twoNumbers.search body with
    | some m => do
      let source ← Numeral.read (m.piece 1)
      let target ← Numeral.read (m.piece 2)
      return some (.ofOrdinal source [], .ofOrdinal target [])
    | none => .ok none

def draftConnect (t : Text) (_ : Listing) : Drafting :=
  (ends (edgeBody connectVerbs t)).map fun
    | some (source, target) => .connect source target
    | none => .unknown Usage.connect

def draftDisconnect (t : Text) (_ : Listing) : Drafting :=
  (ends (edgeBody disconnectVerbs t)).map fun
    | some (source, target) => .disconnect source target
    | none => .unknown Usage.disconnect

def draftExplain (_ : Text) (nodes : Listing) : Drafting := .ok (.explain nodes.summary)

/-- A kind of command with the heads that ask for it and the draft that it makes. -/
structure Detector where
  intent : Intent
  accepts : Text → Bool
  draft : Text → Listing → Drafting

def detectors : List Detector :=
  [⟨.add, asksToAdd, draftAdd⟩,
    ⟨.delete, asksToDelete, draftDelete⟩,
    ⟨.update, asksToUpdate, draftUpdate⟩,
    ⟨.connect, asksToConnect, draftConnect⟩,
    ⟨.disconnect, asksToDisconnect, draftDisconnect⟩,
    ⟨.explain, asksToExplain, draftExplain⟩]

/-- The detector for a head. -/
def detect (head : Text) : Option Detector := detectors.find? fun d => d.accepts head

/-- The draft for an utterance about some nodes. -/
def understand (t : Text) (nodes : Listing) : Drafting :=
  let t := Text.trim t
  match detect (head t) with
  | some d => d.draft t nodes
  | none => .ok (.unknown Usage.anything)

end FlowTalk.Utterance
