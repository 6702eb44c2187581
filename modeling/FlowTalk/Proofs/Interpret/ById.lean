import FlowTalk.Proofs.Interpret.Rebuild

/-! Nodes that a message names by their ids. The message is accepted. An id without outer white space
is found before anything that looks like it; from any other the white space is cut, and what is left
may be of another node. -/
namespace FlowTalk

variable {nodes : Listing} {m m' : Mention} {t id source target : Text} {e : Entry} {c : Command}
  {members : List (Text × Json)}

namespace Lookup

/-- A mention is of a node with an id. -/
def Finds (nodes : Listing) (m : Mention) (id : Text) : Prop :=
  ∃ e, resolve m nodes = .ok (some e) ∧ e.id = id

/-- No node has an id that is left when outer white space is cut from another, but what is left leads
to a node with the other id all the same: it is the label, the number or a keyword of it. -/
def Regains (nodes : Listing) (id : Text) : Prop :=
  (∀ e ∈ nodes, e.id ≠ Text.trim id) ∧ ∃ e, e.id = id ∧
    (byLabel (Text.trim id) nodes = some e ∨ byLabel (Text.trim id) nodes = none ∧
      ((∃ n : Nat, ordinal? id = .ok (some n) ∧ byOrdinal n nodes = some e) ∨
        ordinal? id = .ok none ∧ byKeywords (Text.trim id) nodes = some e))

/-- What is looked up where no id is the text. -/
theorem resolve_phrase_of_no_id (hne : Text.trim t ≠ []) (hid : byId (Text.trim t) nodes = none) :
    resolve (.phrase t) nodes = .ok (some e) ↔
      byLabel (Text.trim t) nodes = some e ∨ byLabel (Text.trim t) nodes = none ∧
        ((∃ n : Nat, ordinal? t = .ok (some n) ∧ byOrdinal n nodes = some e) ∨
          ordinal? t = .ok none ∧ byKeywords (Text.trim t) nodes = some e) := by
  cases hlabel : byLabel (Text.trim t) nodes with
  | some first => simp [resolve, resolveText, hne, hid, hlabel]
  | none =>
    rcases hnumber : ordinal? t with error | _ | n <;>
      simp [resolve, resolveText, hne, hid, hlabel, ordinal?_trim, hnumber, Except.map]

theorem byId_eq_none_iff (hne : t ≠ []) : byId t nodes = none ↔ ∀ e ∈ nodes, e.id ≠ t := by
  simp [byId, hne]

theorem resolve_of_byId (hid : byId (Text.trim t) nodes = some e) :
    resolve (.phrase t) nodes = .ok (some e) := by
  have hne : Text.trim t ≠ [] := by
    rintro hnil
    simp [hnil, byId] at hid
  exact resolveText_of_named hne (by rw [hid]; rfl)

theorem id_of_byId (hid : byId t nodes = some e) : e.id = t := by
  by_cases ht : t.isEmpty = true
  · simp [byId, ht] at hid
  · rw [byId, if_neg ht] at hid
    simpa using List.find?_some hid

/-- An id without outer white space is found. One with outer white space is cut to another text,
which is the id of no node that is found for it. -/
theorem finds_trim_iff (he : ∃ e ∈ nodes, e.id = id) (hne : Text.trim id ≠ []) :
    Finds nodes (.phrase (Text.trim id)) id ↔ Text.trim id = id ∨ Regains nodes id := by
  by_cases htrim : Text.trim id = id
  · obtain ⟨e, he, rfl⟩ := he
    rw [htrim]
    exact iff_of_true (resolve_id he (htrim ▸ hne) htrim) (Or.inl rfl)
  · have hcut : Text.trim (Text.trim id) = Text.trim id := Text.trim_trim id
    rw [or_iff_right htrim, Regains, ← byId_eq_none_iff hne]
    cases hid : byId (Text.trim id) nodes with
    | some first =>
      have hfirst : resolve (.phrase (Text.trim id)) nodes = .ok (some first) :=
        resolve_of_byId (hcut.symm ▸ hid)
      have hother : first.id ≠ id := fun h => htrim ((id_of_byId hid).symm.trans h)
      simp [Finds, hfirst, hother]
    | none =>
      have hrest := fun e => resolve_phrase_of_no_id (t := Text.trim id) (e := e)
        (hcut.symm ▸ hne) (hcut.symm ▸ hid)
      simp only [hcut, ordinal?_trim] at hrest
      simp only [Finds, hrest, true_and, and_comm]

end Lookup

/-! The command is built if its nodes are found -/

theorem withNode_eq_ok_iff {command : Text → Command} (hinj : Function.Injective command)
    (hknown : ∀ message, command id ≠ .unknown message) :
    withNode m nodes command = .ok (command id) ↔ Lookup.Finds nodes m id := by
  constructor
  · intro h
    rcases withNode_cases h with ⟨e, he, hid⟩ | ⟨_, hunknown⟩
    · exact ⟨e, he, (hinj hid).symm⟩
    · exact absurd hunknown (hknown _)
  · rintro ⟨e, he, rfl⟩
    simp [withNode, he, Except.map]

theorem withEnds_eq_ok_iff {command : Text → Text → Command}
    (hinj : ∀ {s t s' t'}, command s t = command s' t' → s = s' ∧ t = t')
    (hknown : ∀ message, command source target ≠ .unknown message) :
    withEnds (some m) (some m') nodes command = .ok (command source target) ↔
      Lookup.Finds nodes m source ∧ Lookup.Finds nodes m' target := by
  constructor
  · intro h
    rcases withEnds_cases h with ⟨_, _, e, e', ⟨rfl⟩, ⟨rfl⟩, he, he', hids⟩ | ⟨_, hunknown⟩
    · obtain ⟨hs, ht⟩ := hinj hids
      exact ⟨⟨e, he, hs.symm⟩, ⟨e', he', ht.symm⟩⟩
    · exact absurd hunknown (hknown _)
  · rintro ⟨⟨e, he, rfl⟩, ⟨e', he', rfl⟩⟩
    simp [withEnds, he, he', bind, Except.bind, pure, Except.pure]

namespace Command

/-- A message names a command: its type and what it requires are there, word for word, and the other
slots have texts or are not there. -/
structure NamedBy (members : List (Text × Json)) (c : Command) : Prop where
  type : Json.field? "type" members = some (.str c.intent.tag)
  required : ∀ slot ∈ c.intent.required, Draft.slotText members slot = .ok (c.text slot)
  texts : ∀ slot, ∃ text, Draft.slotText members slot = .ok text

/-- A command as it is carried out: a new label has no outer white space. -/
def trimmed : Command → Command
  | update node label => update node (Text.trim label)
  | c => c

theorem NamedBy.ofPayload (h : c.NamedBy members)
    (hgiven : ∀ slot ∈ c.intent.required, Draft.isGiven (c.text slot) = true) :
    ∃ text, (∀ slot ∈ c.intent.required, text slot = c.text slot) ∧
      Draft.ofPayload (.obj members) = .ok (.ofSlots c.intent text) := by
  choose text htext using h.texts
  have hrequired : ∀ slot ∈ c.intent.required, text slot = c.text slot := fun slot hslot =>
    Except.ok.inj ((htext slot).symm.trans (h.required slot hslot))
  exact ⟨text, hrequired, Draft.ofMembers_of_slots h.type htext fun slot hslot =>
    (hrequired slot hslot).symm ▸ hgiven slot hslot⟩

end Command

/-- What a command about nodes requires is not blank if the ids and the label are not. -/
theorem Command.isGiven_required (hids : ∀ id ∈ c.nodeIds, Text.trim id ≠ [])
    (hlabel : ∀ label ∈ c.label?, Text.trim label ≠ []) (hnodes : c.nodeIds ≠ []) :
    ∀ slot ∈ c.intent.required, Draft.isGiven (c.text slot) = true := by
  cases c with
  | add | explain | unknown => exact absurd rfl hnodes
  | delete node =>
    simpa [intent, Intent.required, text] using Draft.isGiven_some (hids node (by simp [nodeIds]))
  | update node label =>
    simpa [intent, Intent.required, text] using
      ⟨Draft.isGiven_some (hids node (by simp [nodeIds])), Draft.isGiven_some (hlabel label rfl)⟩
  | connect source target | disconnect source target =>
    simpa [intent, Intent.required, text] using
      ⟨Draft.isGiven_some (hids source (by simp [nodeIds])),
        Draft.isGiven_some (hids target (by simp [nodeIds]))⟩

/-- A draft with the slots of a command is built into it if its nodes are found under what is left
of their ids. -/
theorem Command.build_ofSlots_iff {text : Slot → Option Text} (hnodes : c.nodeIds ≠ [])
    (htext : ∀ slot ∈ c.intent.required, text slot = c.text slot)
    (hids : ∀ id ∈ c.nodeIds, Text.trim id ≠ [])
    (hlabel : ∀ label ∈ c.label?, Text.trim label ≠ []) :
    (Draft.ofSlots c.intent text).build nodes = .ok c.trimmed ↔
      ∀ id ∈ c.nodeIds, Lookup.Finds nodes (.phrase (Text.trim id)) id := by
  have hmention : ∀ id ∈ c.nodeIds, Draft.mentioned (some id) = some (.phrase (Text.trim id)) :=
    fun id hid => Draft.mentioned_some (hids id hid)
  cases c with
  | add | explain | unknown => exact absurd rfl hnodes
  | delete node =>
    have hnode : text .node = some node := htext .node (by simp [intent, Intent.required])
    have hslot := hmention node (by simp [nodeIds])
    simp only [Draft.build, Draft.ofSlots, intent, hnode, hslot, trimmed, nodeIds,
      List.forall_mem_singleton]
    exact withNode_eq_ok_iff (fun _ _ h => delete.inj h) (by simp)
  | update node label =>
    have hnode : text .node = some node := htext .node (by simp [intent, Intent.required])
    have hnew : text .label = some label := htext .label (by simp [intent, Intent.required])
    have hslot := hmention node (by simp [nodeIds])
    have hgiven : Text.trim label ≠ [] := hlabel label rfl
    simp only [Draft.build, Draft.ofSlots, Draft.trimmedLabel, intent, hnode, hslot, hnew,
      Draft.labelled_some hgiven, Option.getD_some, Text.trim_trim, List.isEmpty_iff, hgiven,
      if_false, trimmed, nodeIds, List.forall_mem_singleton]
    exact withNode_eq_ok_iff (fun _ _ h => (update.inj h).1) (by simp)
  | connect source target | disconnect source target =>
    have hsource : text .source = some source :=
      htext .source (by simp [intent, Intent.required])
    have htarget : text .target = some target :=
      htext .target (by simp [intent, Intent.required])
    have hslot := hmention source (by simp [nodeIds])
    have hslot' := hmention target (by simp [nodeIds])
    simp only [Draft.build, Draft.ofSlots, intent, hsource, htarget, hslot, hslot', trimmed,
      nodeIds, List.forall_mem_cons, List.not_mem_nil, false_imp_iff, implies_true, and_true]
    refine withEnds_eq_ok_iff ?_ ?_
    · simp
    · simp

/-- A message that names a command with its nodes by their ids, which are not blank, is accepted. It
is built into that very command exactly if no id has outer white space, or, where one has, if the
text without it is the id of no node and still leads to a node with the id. -/
theorem build_namedBy_iff (hnamed : c.NamedBy members) (hnodes : c.nodeIds ≠ [])
    (hids : ∀ id ∈ c.nodeIds, Text.trim id ≠ [] ∧ ∃ e ∈ nodes, e.id = id)
    (hlabel : ∀ label ∈ c.label?, Text.trim label ≠ []) :
    ∃ d, Draft.ofPayload (.obj members) = .ok d ∧ d.intent = c.intent ∧
      (d.build nodes = .ok c.trimmed ↔
        ∀ id ∈ c.nodeIds, Text.trim id = id ∨ Lookup.Regains nodes id) := by
  have hgiven : ∀ id ∈ c.nodeIds, Text.trim id ≠ [] := fun id hid => (hids id hid).1
  obtain ⟨text, htext, hdraft⟩ :=
    hnamed.ofPayload (Command.isGiven_required hgiven hlabel hnodes)
  refine ⟨.ofSlots c.intent text, hdraft, rfl, ?_⟩
  rw [Command.build_ofSlots_iff hnodes htext hgiven hlabel]
  exact forall₂_congr fun id hid => Lookup.finds_trim_iff (hids id hid).2 (hgiven id hid)

/-- An id that is the label of another node, and one that is the label of its own node but for case
and white space. -/
def crossed : Listing :=
  .ofPairs [("x".toList, "2".toList), ("2".toList, "Menu 2".toList), (" Menu ".toList, "menu".toList)]

def crossedMessage : List (Text × Json) :=
  [("type".toList, .text "connect_nodes"), ("nodeLabel".toList, .null),
    ("sourceNodeId".toList, .text "2"), ("targetNodeId".toList, .text " Menu ")]

theorem build_namedBy_iff_crossed :
    (Command.connect "2".toList " Menu ".toList).NamedBy crossedMessage ∧
      (∀ id ∈ ["2".toList, " Menu ".toList], Text.trim id ≠ [] ∧ ∃ e ∈ crossed, e.id = id) ∧
      ∃ d, Draft.ofPayload (.obj crossedMessage) = .ok d ∧
        d.build crossed = .ok (.connect "2".toList " Menu ".toList) := by
  have hnamed : (Command.connect "2".toList " Menu ".toList).NamedBy crossedMessage :=
    ⟨rfl, fun slot _ => by cases slot <;> rfl, fun slot => by cases slot <;> exact ⟨_, rfl⟩⟩
  have hids : ∀ id ∈ ["2".toList, " Menu ".toList],
      Text.trim id ≠ [] ∧ ∃ e ∈ crossed, e.id = id := by decide
  have hregains : Lookup.Regains crossed " Menu ".toList :=
    ⟨by decide, ⟨" Menu ".toList, "menu".toList, 2⟩, rfl, Or.inl (by decide +kernel)⟩
  obtain ⟨d, hdraft, _, hbuild⟩ := build_namedBy_iff hnamed (List.cons_ne_nil _ _) hids nofun
  refine ⟨hnamed, hids, d, hdraft, hbuild.2 ?_⟩
  simpa [Command.nodeIds] using ⟨Or.inl (by decide), Or.inr hregains⟩

/-- An id with a blank in front of a word in the label of another node. -/
def endings : Listing :=
  .ofPairs [("a".toList, "The end call".toList), (" end".toList, "Stop".toList)]

def endMessage : List (Text × Json) :=
  [("type".toList, .text "delete_node"), ("nodeId".toList, .text " end")]

/-- The other node is deleted. -/
theorem build_namedBy_endings :
    (Command.delete " end".toList).NamedBy endMessage ∧ Text.trim " end".toList ≠ [] ∧
      (∃ e ∈ endings, e.id = " end".toList) ∧
      ∃ d, Draft.ofPayload (.obj endMessage) = .ok d ∧
        d.build endings = .ok (.delete "a".toList) :=
  ⟨⟨rfl, fun slot _ => by cases slot <;> rfl, fun slot => by cases slot <;> exact ⟨_, rfl⟩⟩,
    by decide, by decide, .delete (.phrase "end".toList), rfl, by decide +kernel⟩

end FlowTalk
