import FlowTalk.Draft.Payload
import FlowTalk.Proofs.Json.RoundTrip

/-! Which messages are drafts, and which drafts they are. Messages that carry drafts are read back. -/
namespace FlowTalk.Draft

variable {members : List (Text × Json)} {d : Draft} {i : Intent} {text : Slot → Option Text}

/-- The draft of an intent whose slots have the given texts. -/
def ofSlots (i : Intent) (text : Slot → Option Text) : Draft where
  intent := i
  label := labelled (text .label)
  node := mentioned (text .node)
  source := mentioned (text .source)
  target := mentioned (text .target)
  message := text .message

/-- A message of a known type is a draft if its slots hold texts and the required ones are not
blank. -/
theorem ofMembers_of_slots (htype : Json.field? "type" members = some (.str i.tag))
    (hslots : ∀ slot, slotText members slot = .ok (text slot))
    (hgiven : ∀ slot ∈ i.required, isGiven (text slot) = true) :
    ofMembers members = .ok (ofSlots i text) := by
  rw [ofMembers]
  simp only [htype, Option.getD_some, Intent.ofTag?_tag, Option.elim_some, hslots, bind,
    Except.bind]
  split
  · next slot hfound =>
    have hblank := List.find?_some hfound
    have hslot := hgiven slot (List.mem_of_find?_eq_some hfound)
    cases slot <;> simp [hslot] at hblank
  · rfl

/-- One text for each slot. -/
def bySlot (node label source target message : Option Text) : Slot → Option Text
  | .node => node
  | .label => label
  | .source => source
  | .target => target
  | .message => message

/-- Only such messages are drafts. -/
theorem ofMembers_eq_ok (h : ofMembers members = .ok d) :
    ∃ i text, (∀ slot ∈ i.required, isGiven (text slot) = true) ∧ d = ofSlots i text := by
  rw [ofMembers] at h
  cases htype : (Json.field? "type" members).getD .null with
  | str t =>
    simp only [htype] at h
    obtain ⟨i, _, h⟩ := bind_eq_ok.1 h
    obtain ⟨node, _, h⟩ := bind_eq_ok.1 h
    obtain ⟨label, _, h⟩ := bind_eq_ok.1 h
    obtain ⟨source, _, h⟩ := bind_eq_ok.1 h
    obtain ⟨target, _, h⟩ := bind_eq_ok.1 h
    obtain ⟨message, _, h⟩ := bind_eq_ok.1 h
    refine ⟨i, bySlot node label source target message, ?_, ?_⟩
    · intro slot hslot
      split at h
      · cases h
      · next hnone =>
        have hgiven := List.find?_eq_none.1 hnone slot hslot
        cases slot <;> simpa [bySlot] using hgiven
    · split at h
      · cases h
      · exact (Except.ok.inj h).symm
  | null | bool _ | num _ | arr _ | obj _ =>
    simp only [htype] at h
    cases h

/-! The message that carries a draft -/

theorem slotField_names (name : String) (slot : Option Text) :
    ((slotField name slot).map Prod.fst).Sublist [name.toList] := by
  cases slot with
  | none => simp [slotField]
  | some t => simp [slotField]

theorem slotField_values {name : String} {slot : Option Text} {m : Text × Json}
    (hm : m ∈ slotField name slot) : ∃ t, m.2 = .str t := by
  cases slot with
  | none => cases hm
  | some t => exact ⟨t, by rw [List.mem_singleton.1 hm]⟩

theorem exact_toJson (d : Draft) : Json.Exact Json.maxDepth d.toJson := by
  refine .obj ?_ fun m hm => ?_
  · -- the names of the slots that are filled, in their order
    have hnames : ["type".toList, "nodeId".toList, "nodeLabel".toList, "sourceNodeId".toList,
      "targetNodeId".toList, "message".toList].Nodup := by decide
    refine hnames.sublist (.cons_cons _ ?_)
    simp only [List.map_append]
    exact ((((slotField_names _ _).append (slotField_names _ _)).append
      (slotField_names _ _)).append (slotField_names _ _)).append (slotField_names _ _)
  · obtain ⟨t, ht⟩ : ∃ t, m.2 = .str t := by
      simp only [List.mem_cons, List.mem_append] at hm
      rcases hm with rfl | (((hm | hm) | hm) | hm) | hm
      · exact ⟨_, rfl⟩
      all_goals exact slotField_values hm
    rw [ht]
    exact .str t

/-- The message is read back as it was written. -/
theorem read_message (l : Json.Layout) (d : Draft) :
    Json.read (Json.write l d.toJson) = .ok d.toJson := Json.read_write d.exact_toJson

end FlowTalk.Draft
