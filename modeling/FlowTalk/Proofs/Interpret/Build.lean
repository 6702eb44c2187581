import FlowTalk.Interpret
import FlowTalk.Proofs.Lookup.Resolve
import FlowTalk.Proofs.Text.Digit

/-! What a draft is built into: a command about nodes that the lookup found, or a message. -/
namespace FlowTalk

variable {nodes : Listing} {d : Draft} {c : Command} {m : Mention}

theorem withNode_cases {command : Text → Command} (h : withNode m nodes command = .ok c) :
    (∃ e, Lookup.resolve m nodes = .ok (some e) ∧ c = command e.id) ∨
      Lookup.resolve m nodes = .ok none ∧ c = .unknown (nodes.notFoundMessage m.text) := by
  obtain ⟨found, hfound, h⟩ := map_eq_ok.1 h
  cases found with
  | some e => exact Or.inl ⟨e, hfound, h.symm⟩
  | none => exact Or.inr ⟨hfound, h.symm⟩

theorem withEnds_cases {source target : Option Mention} {command : Text → Text → Command}
    (h : withEnds source target nodes command = .ok c) :
    (∃ s t e e', source = some s ∧ target = some t ∧ Lookup.resolve s nodes = .ok (some e) ∧
        Lookup.resolve t nodes = .ok (some e') ∧ c = command e.id e'.id) ∨
      ((source = none ∨ target = none) ∨
        ∃ m ∈ source.toList ++ target.toList, Lookup.resolve m nodes = .ok none) ∧
        c = .unknown edgeNotFoundMessage := by
  cases source with
  | none => exact Or.inr ⟨Or.inl (Or.inl rfl), (Except.ok.inj h).symm⟩
  | some s =>
    cases target with
    | none => exact Or.inr ⟨Or.inl (Or.inr rfl), (Except.ok.inj h).symm⟩
    | some t =>
      obtain ⟨e, hsource, h⟩ := bind_eq_ok.1 h
      obtain ⟨e', htarget, h⟩ := bind_eq_ok.1 h
      cases e with
      | none => exact Or.inr ⟨Or.inr ⟨s, by simp, hsource⟩, (Except.ok.inj h).symm⟩
      | some e =>
        cases e' with
        | none => exact Or.inr ⟨Or.inr ⟨t, by simp, htarget⟩, (Except.ok.inj h).symm⟩
        | some e' => exact Or.inl ⟨s, t, e, e', rfl, rfl, hsource, htarget, (Except.ok.inj h).symm⟩

namespace Draft

/-- The mentions that the command of a draft needs. -/
def needed (d : Draft) : List Mention :=
  match d.intent with
  | .delete | .update => d.node.toList
  | .connect | .disconnect => d.source.toList ++ d.target.toList
  | .add | .explain | .unknown => []

/-- A slot is empty without which there is no command of the intent of a draft. -/
def Lacks (d : Draft) : Prop :=
  match d.intent with
  | .delete => d.node = none
  | .update => d.node = none ∨ d.trimmedLabel = []
  | .connect | .disconnect => d.source = none ∨ d.target = none
  | .add | .explain | .unknown => False

end Draft

theorem notFoundMessage_ne_nil (text : Text) (nodes : Listing) :
    nodes.notFoundMessage text ≠ [] := by
  intro h
  have hwhole := (List.append_eq_nil_iff.1 h).1
  have hfront := (List.append_eq_nil_iff.1 (List.append_eq_nil_iff.1 hwhole).1).1
  exact absurd hfront (by decide)

theorem usage_ne_nil : Usage.update ≠ [] ∧ Usage.anything ≠ [] := by decide +kernel

theorem Draft.build_unknown {text : Text} (h : text ≠ []) (nodes : Listing) :
    (Draft.unknown text).build nodes = .ok (.unknown text) := by
  cases text with
  | nil => exact absurd rfl h
  | cons c rest => rfl

/-- All that a draft can be built into. There is a message instead of the command only if the
draft asks for nothing, lacks a slot, or mentions a node that is not found. -/
theorem Draft.build_cases (h : d.build nodes = .ok c) :
    (d.intent = .add ∧
        c = .add (if d.trimmedLabel.isEmpty then nodes.nextLabel else d.trimmedLabel)) ∨
      (d.intent = .delete ∧ ∃ m e, d.node = some m ∧ Lookup.resolve m nodes = .ok (some e) ∧
        c = .delete e.id) ∨
      (d.intent = .update ∧ ∃ m e, d.node = some m ∧ d.trimmedLabel ≠ [] ∧
        Lookup.resolve m nodes = .ok (some e) ∧ c = .update e.id d.trimmedLabel) ∨
      (d.intent = .connect ∧ ∃ s t e e', d.source = some s ∧ d.target = some t ∧
        Lookup.resolve s nodes = .ok (some e) ∧ Lookup.resolve t nodes = .ok (some e') ∧
        c = .connect e.id e'.id) ∨
      (d.intent = .disconnect ∧ ∃ s t e e', d.source = some s ∧ d.target = some t ∧
        Lookup.resolve s nodes = .ok (some e) ∧ Lookup.resolve t nodes = .ok (some e') ∧
        c = .disconnect e.id e'.id) ∨
      (d.intent = .explain ∧ c = .explain (d.message.getD [])) ∨
      ∃ message, message ≠ [] ∧ c = .unknown message ∧
        (d.intent = .unknown ∨ d.Lacks ∨ ∃ m ∈ d.needed, Lookup.resolve m nodes = .ok none) := by
  have hends : edgeNotFoundMessage ≠ [] := by decide
  have husage := usage_ne_nil
  rw [build] at h
  cases hi : d.intent with
  | add =>
    rw [hi] at h
    exact Or.inl ⟨rfl, (Except.ok.inj h).symm⟩
  | delete =>
    rw [hi] at h
    cases hn : d.node with
    | none =>
      rw [hn] at h
      simp [← Except.ok.inj h, Lacks, hi, hn, notFoundMessage_ne_nil]
    | some m =>
      rw [hn] at h
      rcases withNode_cases h with ⟨e, he, rfl⟩ | ⟨hm, rfl⟩
      · exact Or.inr (Or.inl ⟨rfl, m, e, rfl, he, rfl⟩)
      · simp [needed, hi, hn, hm, notFoundMessage_ne_nil]
  | update =>
    rw [hi] at h
    cases hn : d.node with
    | none =>
      rw [hn] at h
      simp [← Except.ok.inj h, Lacks, hi, hn, husage]
    | some m =>
      rw [hn] at h
      by_cases hlabel : d.trimmedLabel = []
      · simp only [hlabel, List.isEmpty_nil, if_true] at h
        simp [← Except.ok.inj h, Lacks, hi, hlabel, husage]
      · simp only [List.isEmpty_iff, hlabel, if_false] at h
        rcases withNode_cases h with ⟨e, he, rfl⟩ | ⟨hm, rfl⟩
        · exact Or.inr (Or.inr (Or.inl ⟨rfl, m, e, rfl, hlabel, he, rfl⟩))
        · simp [needed, hi, hn, hm, notFoundMessage_ne_nil]
  | connect =>
    rw [hi] at h
    rcases withEnds_cases h with hfound | ⟨hwhy, rfl⟩
    · exact Or.inr (Or.inr (Or.inr (Or.inl ⟨rfl, hfound⟩)))
    · simpa [Lacks, needed, hi, hends] using hwhy
  | disconnect =>
    rw [hi] at h
    rcases withEnds_cases h with hfound | ⟨hwhy, rfl⟩
    · exact Or.inr (Or.inr (Or.inr (Or.inr (Or.inl ⟨rfl, hfound⟩))))
    · simpa [Lacks, needed, hi, hends] using hwhy
  | explain =>
    rw [hi] at h
    simp [← Except.ok.inj h]
  | unknown =>
    rw [hi] at h
    rcases hm : d.message with _ | _ | ⟨x, rest⟩
    · rw [hm] at h
      simp [← Except.ok.inj h, husage]
    · rw [hm] at h
      simp [← Except.ok.inj h, husage]
    · rw [hm] at h
      simp [← Except.ok.inj h]

namespace Command

/-- The nodes that a command is about. -/
def nodeIds : Command → List Text
  | delete node | update node _ => [node]
  | connect source target | disconnect source target => [source, target]
  | add _ | explain _ | unknown _ => []

/-- The label that a command gives to a node. -/
def label? : Command → Option Text
  | add label | update _ label => some label
  | _ => none

end Command

theorem nextLabel_ne_nil (nodes : Listing) : nodes.nextLabel ≠ [] := by
  intro h
  have hfront := (List.append_eq_nil_iff.1 h).2
  exact ofNat_ne_nil _ hfront

theorem trim_nextLabel (nodes : Listing) : Text.trim nodes.nextLabel = nodes.nextLabel := by
  have hfirst : nodes.nextLabel.head? = some 'N' := rfl
  have hlast : nodes.nextLabel.getLast? = (Text.ofNat (nodes.length + 1)).getLast? :=
    List.getLast?_append_of_ne_nil _ (ofNat_ne_nil _)
  refine Text.trim_eq_self (fun c hc => ?_) (fun c hc => ?_)
  · obtain rfl : 'N' = c := by simpa [hfirst] using hc
    decide
  · rw [hlast] at hc
    exact isBlank_of_mem_decimals c (mem_decimals_of_mem_ofNat _ c (List.mem_of_getLast? hc))

theorem trim_trimmedLabel (d : Draft) : Text.trim d.trimmedLabel = d.trimmedLabel :=
  Text.trim_trim _

/-- Only nodes that are listed get into a command. -/
theorem Draft.nodeIds_build (h : d.build nodes = .ok c) :
    ∀ id ∈ c.nodeIds, ∃ e ∈ nodes, e.id = id := by
  rcases build_cases h with ⟨_, rfl⟩ | ⟨_, m, e, _, he, rfl⟩ | ⟨_, m, e, _, _, he, rfl⟩ |
    ⟨_, s, t, e, e', _, _, he, he', rfl⟩ | ⟨_, s, t, e, e', _, _, he, he', rfl⟩ | ⟨_, rfl⟩ |
    ⟨_, _, rfl, _⟩
  · simp [Command.nodeIds]
  · simpa [Command.nodeIds] using ⟨e, Lookup.mem_of_resolve he, rfl⟩
  · simpa [Command.nodeIds] using ⟨e, Lookup.mem_of_resolve he, rfl⟩
  · simpa [Command.nodeIds] using
      ⟨⟨e, Lookup.mem_of_resolve he, rfl⟩, ⟨e', Lookup.mem_of_resolve he', rfl⟩⟩
  · simpa [Command.nodeIds] using
      ⟨⟨e, Lookup.mem_of_resolve he, rfl⟩, ⟨e', Lookup.mem_of_resolve he', rfl⟩⟩
  · simp [Command.nodeIds]
  · simp [Command.nodeIds]

/-- A label that a command gives is there and has no outer white space. -/
theorem Draft.label_build (h : d.build nodes = .ok c) :
    ∀ label ∈ c.label?, label ≠ [] ∧ Text.trim label = label := by
  rcases build_cases h with ⟨_, rfl⟩ | ⟨_, m, e, _, he, rfl⟩ | ⟨_, m, e, _, hne, he, rfl⟩ |
    ⟨_, s, t, e, e', _, _, he, he', rfl⟩ | ⟨_, s, t, e, e', _, _, he, he', rfl⟩ | ⟨_, rfl⟩ |
    ⟨_, _, rfl, _⟩
  · intro label hlabel
    obtain rfl := Option.some.inj hlabel
    by_cases hne : d.trimmedLabel = []
    · rw [hne]
      exact ⟨nextLabel_ne_nil nodes, trim_nextLabel nodes⟩
    · simp only [List.isEmpty_iff, hne, if_false]
      exact ⟨hne, trim_trimmedLabel d⟩
  · simp [Command.label?]
  · intro label hlabel
    obtain rfl := Option.some.inj hlabel
    exact ⟨hne, trim_trimmedLabel d⟩
  · simp [Command.label?]
  · simp [Command.label?]
  · simp [Command.label?]
  · simp [Command.label?]

end FlowTalk
