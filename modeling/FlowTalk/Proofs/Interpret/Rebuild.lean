import FlowTalk.Proofs.Draft.Complete
import FlowTalk.Proofs.Lookup.Ranking

/-! A command that an utterance is taken for survives as a message: the message is accepted as a
draft, and the draft is built into the command again, among the same nodes. -/
namespace FlowTalk

variable {t id : Text} {nodes : Listing} {d : Draft} {c : Command} {e : Entry}

namespace Command

/-- The text that a command gives for a slot. -/
def text : Command → Slot → Option Text
  | delete node, .node | update node _, .node => some node
  | add label, .label | update _ label, .label => some label
  | connect source _, .source | disconnect source _, .source => some source
  | connect _ target, .target | disconnect _ target, .target => some target
  | explain message, .message | unknown message, .message => some message
  | _, _ => none

/-- A command that can be built: its nodes are listed, its label is trimmed, and neither its label
nor its message is empty. -/
structure WellFormed (nodes : Listing) (c : Command) : Prop where
  listed : ∀ id ∈ c.nodeIds, ∃ e ∈ nodes, e.id = id
  label : ∀ label ∈ c.label?, label ≠ [] ∧ Text.trim label = label
  explained : ∀ message, c = .explain message → Text.trim message ≠ []
  reported : ∀ message, c = .unknown message → message ≠ []

theorem slotText_toJson (c : Command) (slot : Slot) :
    Draft.slotText (("type".toList, .str c.intent.tag) :: c.fields) slot = .ok (c.text slot) := by
  cases c <;> cases slot <;> rfl

/-- The message of a command is accepted if what it has to give is not blank. -/
theorem ofPayload_toJson (h : ∀ slot ∈ c.intent.required, Draft.isGiven (c.text slot) = true) :
    Draft.ofPayload c.toJson = .ok (.ofSlots c.intent c.text) :=
  Draft.ofMembers_of_slots rfl c.slotText_toJson h

end Command

namespace Draft

theorem isGiven_some (h : Text.trim t ≠ []) : isGiven (some t) = true :=
  isGiven_iff_filled.2 (filled_some h)

theorem mentioned_some (h : Text.trim t ≠ []) :
    mentioned (some t) = some (.phrase (Text.trim t)) := by
  cases t with
  | nil => exact absurd rfl h
  | cons a rest => rfl

theorem labelled_some (h : Text.trim t ≠ []) : labelled (some t) = some (Text.trim t) := by
  cases t with
  | nil => exact absurd rfl h
  | cons a rest => rfl

theorem isGiven_of_trimmed (hne : t ≠ []) (htrim : Text.trim t = t) : isGiven (some t) = true :=
  isGiven_some (htrim.symm ▸ hne)

theorem mentioned_of_trimmed (hne : t ≠ []) (htrim : Text.trim t = t) :
    mentioned (some t) = some (.phrase t) := by
  rw [mentioned_some (htrim.symm ▸ hne), htrim]

theorem labelled_of_trimmed (hne : t ≠ []) (htrim : Text.trim t = t) :
    labelled (some t) = some t := by
  rw [labelled_some (htrim.symm ▸ hne), htrim]

end Draft

namespace Lookup

/-- An id is looked up before anything else that it may look like. The node need not be the one
that was meant, but it has the id. -/
theorem resolve_id (he : e ∈ nodes) (hne : e.id ≠ []) (htrim : Text.trim e.id = e.id) :
    ∃ e', resolve (.phrase e.id) nodes = .ok (some e') ∧ e'.id = e.id := by
  have hsome : (nodes.find? fun node => node.id == e.id).isSome = true :=
    List.find?_isSome.2 ⟨e, he, by simp⟩
  obtain ⟨e', hfind⟩ := Option.isSome_iff_exists.1 hsome
  have hid : byId (Text.trim e.id) nodes = some e' := by simp [byId, htrim, hne, hfind]
  refine ⟨e', resolveText_of_named (by rwa [htrim]) (by rw [hid]; rfl), ?_⟩
  simpa using List.find?_some hfind

end Lookup

variable (hids : ∀ e ∈ nodes, e.id ≠ [] ∧ Text.trim e.id = e.id)
include hids

theorem resolve_nodeId (h : ∃ e ∈ nodes, e.id = id) :
    id ≠ [] ∧ Text.trim id = id ∧
      ∃ e, Lookup.resolve (.phrase id) nodes = .ok (some e) ∧ e.id = id := by
  obtain ⟨e, he, rfl⟩ := h
  obtain ⟨hne, htrim⟩ := hids e he
  exact ⟨hne, htrim, Lookup.resolve_id he hne htrim⟩

theorem Command.WellFormed.isGiven (h : c.WellFormed nodes) :
    ∀ slot ∈ c.intent.required, Draft.isGiven (c.text slot) = true := by
  have hnode : ∀ id ∈ c.nodeIds, Draft.isGiven (some id) = true := fun id hid =>
    Draft.isGiven_of_trimmed (resolve_nodeId hids (h.listed id hid)).1
      (resolve_nodeId hids (h.listed id hid)).2.1
  have hlabel : ∀ label ∈ c.label?, Draft.isGiven (some label) = true := fun label hlabel =>
    Draft.isGiven_of_trimmed (h.label label hlabel).1 (h.label label hlabel).2
  cases c with
  | add label => simpa [intent, Intent.required, text] using hlabel label rfl
  | delete node => simpa [intent, Intent.required, text] using hnode node (by simp [nodeIds])
  | update node label =>
    simpa [intent, Intent.required, text] using
      ⟨hnode node (by simp [nodeIds]), hlabel label rfl⟩
  | connect source target | disconnect source target =>
    simpa [intent, Intent.required, text] using
      ⟨hnode source (by simp [nodeIds]), hnode target (by simp [nodeIds])⟩
  | explain message =>
    have hmessage := h.explained message rfl
    simpa [intent, Intent.required, text, Draft.isGiven] using hmessage
  | unknown message => simp [intent, Intent.required]

/-- Each slot of the draft leads back to what the command had. -/
theorem Command.WellFormed.build_ofSlots (h : c.WellFormed nodes) :
    (Draft.ofSlots c.intent c.text).build nodes = .ok c := by
  have hnode : ∀ id ∈ c.nodeIds, Draft.mentioned (some id) = some (.phrase id) ∧
      ∃ e, Lookup.resolve (.phrase id) nodes = .ok (some e) ∧ e.id = id := fun id hid => by
    obtain ⟨hne, htrim, hfound⟩ := resolve_nodeId hids (h.listed id hid)
    exact ⟨Draft.mentioned_of_trimmed hne htrim, hfound⟩
  cases c with
  | add label =>
    obtain ⟨hne, htrim⟩ := h.label label rfl
    simp [Draft.build, Draft.ofSlots, intent, text, Draft.trimmedLabel,
      Draft.labelled_of_trimmed hne htrim, htrim, hne]
  | delete node =>
    obtain ⟨hmention, e, he, rfl⟩ := hnode node (by simp [nodeIds])
    simp [Draft.build, Draft.ofSlots, intent, text, hmention, withNode, he, Except.map]
  | update node label =>
    obtain ⟨hmention, e, he, rfl⟩ := hnode node (by simp [nodeIds])
    obtain ⟨hne, htrim⟩ := h.label label rfl
    simp [Draft.build, Draft.ofSlots, intent, text, hmention, Draft.trimmedLabel,
      Draft.labelled_of_trimmed hne htrim, htrim, hne, withNode, he, Except.map]
  | connect source target | disconnect source target =>
    obtain ⟨hsource, s, hs, rfl⟩ := hnode source (by simp [nodeIds])
    obtain ⟨htarget, e, he, rfl⟩ := hnode target (by simp [nodeIds])
    simp [Draft.build, Draft.ofSlots, intent, text, hsource, htarget, withEnds, hs, he, bind,
      Except.bind, pure, Except.pure]
  | explain message => rfl
  | unknown message =>
    cases message with
    | nil => exact absurd rfl (h.reported [] rfl)
    | cons a rest => rfl

omit hids

theorem Draft.Complete.wellFormed_build (h : d.Complete) (hb : d.build nodes = .ok c) :
    c.WellFormed nodes := by
  refine ⟨Draft.nodeIds_build hb, Draft.label_build hb, ?_, ?_⟩
  · rintro message rfl
    have hexplain : d.intent = .explain ∧ message = d.message.getD [] := by
      simpa using Draft.build_cases hb
    rw [Draft.Complete, hexplain.1] at h
    obtain ⟨said, hsaid, hne⟩ := h
    rwa [hexplain.2, hsaid]
  · rintro message rfl
    have hreport := Draft.build_cases hb
    simp only [reduceCtorEq, and_false, exists_false, false_or, Command.unknown.injEq] at hreport
    obtain ⟨_, hne, rfl, _⟩ := hreport
    exact hne

/-- What an utterance is taken for can be sent and read again: the message of the command is
accepted, as a draft of the same intent, and that draft is built into the command. An id of the
listing is found even if it reads like a number or is the label of another node. -/
theorem interpret_rebuilt (hids : ∀ e ∈ nodes, e.id ≠ [] ∧ Text.trim e.id = e.id)
    (h : interpret t nodes = .ok c) :
    ∃ d, Draft.ofPayload c.toJson = .ok d ∧ d.intent = c.intent ∧ d.build nodes = .ok c := by
  obtain ⟨d, hd, hb⟩ := bind_eq_ok.1 h
  have hwell := (Utterance.complete_understand hd).wellFormed_build hb
  exact ⟨.ofSlots c.intent c.text, Command.ofPayload_toJson (hwell.isGiven hids), rfl,
    hwell.build_ofSlots hids⟩

/-- Two nodes with one id, which is a number and the label of a third. -/
def lookalikes : Listing :=
  .ofPairs [("x".toList, "2".toList), ("2".toList, "Menu".toList), ("2".toList, "End".toList)]

theorem interpret_rebuilt_lookalikes :
    (∀ e ∈ lookalikes, e.id ≠ [] ∧ Text.trim e.id = e.id) ∧
      interpret "rename node 3 to x".toList lookalikes = .ok (.update "2".toList "x".toList) ∧
      ∃ d, Draft.ofPayload (Command.update "2".toList "x".toList).toJson = .ok d ∧
        d.intent = .update ∧ d.build lookalikes = .ok (.update "2".toList "x".toList) := by
  have hids : ∀ e ∈ lookalikes, e.id ≠ [] ∧ Text.trim e.id = e.id := by decide
  have hcommand : interpret "rename node 3 to x".toList lookalikes =
      .ok (.update "2".toList "x".toList) := by decide +kernel
  exact ⟨hids, hcommand, interpret_rebuilt hids hcommand⟩

end FlowTalk
