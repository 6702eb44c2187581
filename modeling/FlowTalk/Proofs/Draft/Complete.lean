import FlowTalk.Proofs.Draft.Payload
import FlowTalk.Proofs.Interpret.Build
import FlowTalk.Proofs.Utterance.Slots

/-! Drafts lack nothing but nodes. Whether a draft comes from an utterance or from a message, the
slots that its command needs are filled, and only a mention that no node answers keeps the draft
from becoming the command. -/
namespace FlowTalk

variable {t label : Text} {nodes : Listing} {d : Draft} {c : Command} {m source target : Mention}
  {text : Option Text} {v : Json}

theorem trim_summary_ne_nil (nodes : Listing) : Text.trim nodes.summary ≠ [] := by
  rw [Listing.summary]
  split
  · exact Text.trim_ne_nil_iff.2 ⟨'T', by decide, by decide⟩
  · exact Text.trim_ne_nil_iff.2 ⟨'C', by simp, by decide⟩

namespace Draft

/-- There is a text, and more than white space in it. -/
def Filled (text : Option Text) : Prop := ∃ t, text = some t ∧ Text.trim t ≠ []

/-- The slots that the command of a draft needs are filled. -/
def Complete (d : Draft) : Prop :=
  match d.intent with
  | .add => Filled d.label
  | .delete => Filled (d.node.map Mention.text)
  | .update => Filled (d.node.map Mention.text) ∧ Filled d.label
  | .connect | .disconnect =>
    Filled (d.source.map Mention.text) ∧ Filled (d.target.map Mention.text)
  | .explain => Filled d.message
  | .unknown => True

theorem filled_some (h : Text.trim t ≠ []) : Filled (some t) := ⟨t, rfl, h⟩

theorem complete_update (hm : Text.trim m.text ≠ []) (hlabel : Text.trim label ≠ []) :
    (Draft.update m label).Complete := ⟨filled_some hm, filled_some hlabel⟩

theorem complete_unknown (message : Text) : (Draft.unknown message).Complete := trivial

theorem isGiven_iff_filled : isGiven text = true ↔ Filled text := by
  cases text with
  | none => simp [isGiven, Filled, Text.trim_ne_nil_iff]
  | some t => simp [isGiven, Filled]

theorem filled_labelled (h : isGiven text = true) : Filled (labelled text) := by
  obtain ⟨t, rfl, ht⟩ := isGiven_iff_filled.1 h
  cases t with
  | nil => exact absurd rfl ht
  | cons c rest => exact filled_some (by rwa [Text.trim_trim])

theorem filled_mentioned (h : isGiven text = true) :
    Filled ((mentioned text).map Mention.text) := by
  obtain ⟨t, rfl, ht⟩ := isGiven_iff_filled.1 h
  cases t with
  | nil => exact absurd rfl ht
  | cons c rest => exact filled_some (by rwa [Mention.text, Text.trim_trim])

/-- What a message has to give for its type is what the command needs. -/
theorem complete_ofPayload (h : ofPayload v = .ok d) : d.Complete := by
  cases v with
  | obj members =>
    obtain ⟨i, text, hgiven, rfl⟩ := ofMembers_eq_ok h
    cases i with
    | add => exact filled_labelled (hgiven .label (by simp [Intent.required]))
    | delete => exact filled_mentioned (hgiven .node (by simp [Intent.required]))
    | update =>
      exact ⟨filled_mentioned (hgiven .node (by simp [Intent.required])),
        filled_labelled (hgiven .label (by simp [Intent.required]))⟩
    | connect | disconnect =>
      exact ⟨filled_mentioned (hgiven .source (by simp [Intent.required])),
        filled_mentioned (hgiven .target (by simp [Intent.required]))⟩
    | explain => exact isGiven_iff_filled.1 (hgiven .message (by simp [Intent.required]))
    | unknown => trivial
  | null | bool _ | num _ | str _ | arr _ => cases h

end Draft

namespace Utterance
open Vocabulary Draft

theorem complete_draftAdd (h : draftAdd t nodes = .ok d) : d.Complete := by
  obtain rfl := Except.ok.inj h
  refine filled_some ?_
  by_cases hempty : (newLabel t).isEmpty = true
  · rw [if_pos hempty, trim_nextLabel]
    exact nextLabel_ne_nil nodes
  · rw [if_neg hempty, trim_newLabel]
    simpa using hempty

theorem complete_draftDelete (h : draftDelete t nodes = .ok d) : d.Complete := by
  rcases draftDelete_cases h with ⟨label, hlabel, rfl⟩ | ⟨found, n, hs, _, rfl⟩ | ⟨m, hm, rfl⟩ |
    rfl
  · obtain ⟨hne, htrim⟩ := trim_givenLabel? hlabel
    exact filled_some (by rwa [Mention.text, htrim])
  · exact filled_some (trim_text_of_nodeNumber hs n)
  · exact filled_some (trim_text_of_mention? hm)
  · exact complete_unknown _

theorem complete_draftUpdate (h : draftUpdate t nodes = .ok d) : d.Complete := by
  rcases draftUpdate_cases h with ⟨m, label, hslots, hne, rfl⟩ | rfl
  · rcases updateSlots_cases hslots with ⟨found, _, hm, hlabel⟩ | ⟨hm, hlast⟩
    · have htrim := trim_cleanLabel (found.piece 2)
      rw [← hlabel] at htrim
      exact complete_update (trim_text_of_mention? hm) (by rwa [htrim])
    · have htrim := trim_of_mem_quotations (List.mem_of_getLast? hlast)
      exact complete_update (trim_text_of_mention? hm) (by rwa [htrim])
  · exact complete_unknown _

theorem filled_ends {body : Text} (h : ends body = .ok (some (source, target))) :
    Text.trim source.text ≠ [] ∧ Text.trim target.text ≠ [] := by
  rcases ends_cases h with ⟨found, _, hsource, htarget⟩ | ⟨_, n, n', _, _, _, rfl, rfl⟩
  · exact ⟨trim_text_of_mention? hsource, trim_text_of_mention? htarget⟩
  · exact ⟨trim_text_ofOrdinal_nil n, trim_text_ofOrdinal_nil n'⟩

theorem complete_understand (h : understand t nodes = .ok d) : d.Complete := by
  rcases understand_cases h with rfl | ⟨found, hmem, _, h⟩
  · exact complete_unknown _
  · simp only [detectors, List.mem_cons, List.not_mem_nil, or_false] at hmem
    rcases hmem with rfl | rfl | rfl | rfl | rfl | rfl
    · exact complete_draftAdd h
    · have hdraft : draftDelete (Text.trim t) nodes = .ok d := h
      exact complete_draftDelete hdraft
    · have hdraft : draftUpdate (Text.trim t) nodes = .ok d := h
      exact complete_draftUpdate hdraft
    · have hdraft : draftConnect (Text.trim t) nodes = .ok d := h
      rcases draftConnect_cases hdraft with ⟨_, _, hends, rfl⟩ | rfl
      · exact ⟨filled_some (filled_ends hends).1, filled_some (filled_ends hends).2⟩
      · exact complete_unknown _
    · have hdraft : draftDisconnect (Text.trim t) nodes = .ok d := h
      rcases draftDisconnect_cases hdraft with ⟨_, _, hends, rfl⟩ | rfl
      · exact ⟨filled_some (filled_ends hends).1, filled_some (filled_ends hends).2⟩
      · exact complete_unknown _
    · obtain rfl := Except.ok.inj h
      exact filled_some (trim_summary_ne_nil nodes)

end Utterance

namespace Draft

/-- The command is the one that a draft asks for, made of the slots of the draft. -/
def Fulfilled (nodes : Listing) (d : Draft) (c : Command) : Prop :=
  match d.intent with
  | .add => ∃ label, d.label = some label ∧ c = .add (Text.trim label)
  | .delete => ∃ m e, d.node = some m ∧ Lookup.resolve m nodes = .ok (some e) ∧ c = .delete e.id
  | .update => ∃ m e label, d.node = some m ∧ d.label = some label ∧
      Lookup.resolve m nodes = .ok (some e) ∧ c = .update e.id (Text.trim label)
  | .connect => ∃ s t e e', d.source = some s ∧ d.target = some t ∧
      Lookup.resolve s nodes = .ok (some e) ∧ Lookup.resolve t nodes = .ok (some e') ∧
      c = .connect e.id e'.id
  | .disconnect => ∃ s t e e', d.source = some s ∧ d.target = some t ∧
      Lookup.resolve s nodes = .ok (some e) ∧ Lookup.resolve t nodes = .ok (some e') ∧
      c = .disconnect e.id e'.id
  | .explain => ∃ message, d.message = some message ∧ c = .explain message
  | .unknown => c.intent = .unknown

theorem Filled.ne_none {m? : Option Mention} (h : Filled (m?.map Mention.text)) : m? ≠ none := by
  rintro rfl
  obtain ⟨_, hnone, _⟩ := h
  cases hnone

theorem Complete.not_lacks (h : d.Complete) : ¬ d.Lacks := by
  rw [Complete] at h
  rw [Lacks]
  cases hi : d.intent with
  | add | explain | unknown => simp
  | delete =>
    rw [hi] at h
    exact h.ne_none
  | update =>
    rw [hi] at h
    obtain ⟨hnode, label, hlabel, hne⟩ := h
    simpa [trimmedLabel, hlabel, hne] using hnode.ne_none
  | connect | disconnect =>
    rw [hi] at h
    exact not_or.2 ⟨h.1.ne_none, h.2.ne_none⟩

/-- A complete draft is turned into a message only because of a mention. -/
theorem Complete.fulfilled_or_unresolved (h : d.Complete) (hb : d.build nodes = .ok c) :
    d.Fulfilled nodes c ∨
      c.intent = .unknown ∧ ∃ m ∈ d.needed, Lookup.resolve m nodes = .ok none := by
  have hslots := h
  rw [Complete] at hslots
  rw [Fulfilled]
  rcases build_cases hb with ⟨hi, rfl⟩ | ⟨hi, m, e, hm, he, rfl⟩ | ⟨hi, m, e, hm, _, he, rfl⟩ |
    ⟨hi, hends⟩ | ⟨hi, hends⟩ | ⟨hi, rfl⟩ | ⟨message, _, rfl, hwhy⟩
  · rw [hi] at hslots ⊢
    obtain ⟨label, hlabel, hne⟩ := hslots
    exact Or.inl ⟨label, hlabel, by simp [trimmedLabel, hlabel, hne]⟩
  · rw [hi]
    exact Or.inl ⟨m, e, hm, he, rfl⟩
  · rw [hi] at hslots ⊢
    obtain ⟨_, label, hlabel, _⟩ := hslots
    exact Or.inl ⟨m, e, label, hm, hlabel, he, by simp [trimmedLabel, hlabel]⟩
  · rw [hi]
    exact Or.inl hends
  · rw [hi]
    exact Or.inl hends
  · rw [hi] at hslots ⊢
    obtain ⟨message, hmessage, _⟩ := hslots
    exact Or.inl ⟨message, hmessage, by rw [hmessage]; rfl⟩
  · rcases hwhy with hi | hlacks | hunresolved
    · rw [hi]
      exact Or.inl rfl
    · exact absurd hlacks h.not_lacks
    · exact Or.inr ⟨rfl, hunresolved⟩

end Draft

/-- A draft, of an utterance or of a message, has what the command of its intent needs, and none of
it is blank. It is built into that command unless a mention that the command needs is of no
node. -/
theorem draft_complete (h : (∃ t listing, Utterance.understand t listing = .ok d) ∨
    ∃ v, Draft.ofPayload v = .ok d) :
    d.Complete ∧ ¬ d.Lacks ∧ ∀ nodes c, d.build nodes = .ok c → d.Fulfilled nodes c ∨
      c.intent = .unknown ∧ ∃ m ∈ d.needed, Lookup.resolve m nodes = .ok none := by
  have hcomplete : d.Complete := by
    rcases h with ⟨t, listing, hdraft⟩ | ⟨v, hdraft⟩
    · exact Utterance.complete_understand hdraft
    · exact Draft.complete_ofPayload hdraft
  exact ⟨hcomplete, hcomplete.not_lacks, fun nodes c => hcomplete.fulfilled_or_unresolved⟩

/-- A message for an edge between two nodes. -/
def linkMessage : Json := .obj [("type".toList, .text "connect_nodes"),
  ("sourceNodeId".toList, .text "a"), ("targetNodeId".toList, .text " b ")]

def linkDraft : Draft := .connect (.phrase "a".toList) (.phrase "b".toList)

def loneNode : Listing := .ofPairs [("a".toList, "Start".toList)]

/-- Quotes around white space give no label, so the number behind them is the node. The draft of a
message names both of its nodes, and is built into a report if one of them is missing. -/
theorem draft_complete_blank_quotes :
    Utterance.understand "delete \"  \" node 7".toList [] =
        .ok (.delete (.ordinal 7 "node 7".toList)) ∧
      (Draft.delete (.ordinal 7 "node 7".toList)).Complete ∧
      Draft.ofPayload linkMessage = .ok linkDraft ∧
      linkDraft.Complete ∧
      linkDraft.build loneNode = .ok (.unknown edgeNotFoundMessage) ∧
      ∃ m ∈ linkDraft.needed, Lookup.resolve m loneNode = .ok none := by
  have hdraft : Utterance.understand "delete \"  \" node 7".toList [] =
      .ok (.delete (.ordinal 7 "node 7".toList)) := by decide +kernel
  have hpayload : Draft.ofPayload linkMessage = .ok linkDraft := rfl
  have hbuild : linkDraft.build loneNode = .ok (.unknown edgeNotFoundMessage) := by
    decide +kernel
  obtain ⟨hcomplete, _, hbuilt⟩ := draft_complete (Or.inr ⟨_, hpayload⟩)
  refine ⟨hdraft, (draft_complete (Or.inl ⟨_, _, hdraft⟩)).1, hpayload, hcomplete, hbuild, ?_⟩
  rcases hbuilt _ _ hbuild with ⟨_, _, _, _, _, _, _, _, hcommand⟩ | ⟨_, hunresolved⟩
  · cases hcommand
  · exact hunresolved

end FlowTalk
