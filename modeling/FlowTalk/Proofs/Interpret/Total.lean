import FlowTalk.Proofs.Lookup.Resolve
import FlowTalk.Proofs.Utterance.ByNumber
import FlowTalk.Proofs.Utterance.Drafts

/-! Interpretation fails on a node number that is too long, and on nothing else. -/
namespace FlowTalk

variable {t : Text} {nodes : Listing} {d : Draft} {m : Mention} {labelWords : Bool}

namespace Draft

/-- The nodes that a draft mentions. -/
def mentions (d : Draft) : List Mention :=
  d.node.toList ++ d.source.toList ++ d.target.toList

/-- All mentions of a draft can be looked up. -/
def Settled (d : Draft) : Prop := ∀ m ∈ d.mentions, m.Settled

theorem settled_delete (h : m.Settled) : (delete m).Settled := by
  simpa [Settled, mentions, delete] using h

theorem settled_update {label : Text} (h : m.Settled) : (update m label).Settled := by
  simpa [Settled, mentions, update] using h

theorem settled_connect {source target : Mention} (h : source.Settled ∧ target.Settled) :
    (connect source target).Settled := by
  simpa [Settled, mentions, connect] using h

theorem settled_disconnect {source target : Mention} (h : source.Settled ∧ target.Settled) :
    (disconnect source target).Settled := by
  simpa [Settled, mentions, disconnect] using h

theorem settled_unknown (message : Text) : (unknown message).Settled := by
  simp [Settled, mentions, unknown]

end Draft

namespace Utterance

theorem settled_of_mention? (h : mention? labelWords t = .ok (some m)) : m.Settled := by
  rcases mention?_cases h with ⟨_, _, _, _, rfl⟩ | ⟨_, _, ⟨n, _, rfl⟩ | ⟨hnumber, rfl⟩⟩
  · trivial
  · trivial
  · exact hnumber

theorem settled_of_ends {body : Text} {source target : Mention}
    (h : ends body = .ok (some (source, target))) : source.Settled ∧ target.Settled := by
  rcases ends_cases h with ⟨_, _, hsource, htarget⟩ | ⟨_, _, _, _, _, _, rfl, rfl⟩
  · exact ⟨settled_of_mention? hsource, settled_of_mention? htarget⟩
  · exact ⟨trivial, trivial⟩

theorem settled_draftDelete (h : draftDelete t nodes = .ok d) : d.Settled := by
  rcases draftDelete_cases h with ⟨_, _, rfl⟩ | ⟨_, _, _, _, rfl⟩ | ⟨m, hm, rfl⟩ | rfl
  · exact Draft.settled_delete trivial
  · exact Draft.settled_delete trivial
  · exact Draft.settled_delete (settled_of_mention? hm)
  · exact Draft.settled_unknown _

theorem settled_draftUpdate (h : draftUpdate t nodes = .ok d) : d.Settled := by
  rcases draftUpdate_cases h with ⟨m, label, hslots, _, rfl⟩ | rfl
  · rcases updateSlots_cases hslots with ⟨_, _, hm, _⟩ | ⟨hm, _⟩
    · exact Draft.settled_update (settled_of_mention? hm)
    · exact Draft.settled_update (settled_of_mention? hm)
  · exact Draft.settled_unknown _

theorem settled_understand (h : understand t nodes = .ok d) : d.Settled := by
  rcases understand_cases h with rfl | ⟨found, hmem, _, h⟩
  · exact Draft.settled_unknown _
  · simp only [detectors, List.mem_cons, List.not_mem_nil, or_false] at hmem
    rcases hmem with rfl | rfl | rfl | rfl | rfl | rfl
    · cases h
      simp [Draft.Settled, Draft.mentions, Draft.add]
    · have hdraft : draftDelete (Text.trim t) nodes = .ok d := h
      exact settled_draftDelete hdraft
    · have hdraft : draftUpdate (Text.trim t) nodes = .ok d := h
      exact settled_draftUpdate hdraft
    · have hdraft : draftConnect (Text.trim t) nodes = .ok d := h
      rcases draftConnect_cases hdraft with ⟨_, _, hends, rfl⟩ | rfl
      · exact Draft.settled_connect (settled_of_ends hends)
      · exact Draft.settled_unknown _
    · have hdraft : draftDisconnect (Text.trim t) nodes = .ok d := h
      rcases draftDisconnect_cases hdraft with ⟨_, _, hends, rfl⟩ | rfl
      · exact Draft.settled_disconnect (settled_of_ends hends)
      · exact Draft.settled_unknown _
    · cases h
      simp [Draft.Settled, Draft.mentions, Draft.explain]

end Utterance

theorem withNode_ok (h : m.Settled) (nodes : Listing) (command : Text → Command) :
    ∃ c, withNode m nodes command = .ok c := by
  obtain ⟨found, hfound⟩ := Lookup.resolve_ok h nodes
  exact ⟨_, map_eq_ok.2 ⟨found, hfound, rfl⟩⟩

theorem withEnds_ok {source target : Option Mention} (hs : ∀ m ∈ source, m.Settled)
    (ht : ∀ m ∈ target, m.Settled) (nodes : Listing) (command : Text → Text → Command) :
    ∃ c, withEnds source target nodes command = .ok c := by
  cases source with
  | none => exact ⟨_, rfl⟩
  | some source =>
    cases target with
    | none => exact ⟨_, rfl⟩
    | some target =>
      obtain ⟨s, hsource⟩ := Lookup.resolve_ok (hs source rfl) nodes
      obtain ⟨t, htarget⟩ := Lookup.resolve_ok (ht target rfl) nodes
      simp only [withEnds, hsource, htarget]
      cases s with
      | none => exact ⟨_, rfl⟩
      | some s =>
        cases t with
        | none => exact ⟨_, rfl⟩
        | some t => exact ⟨_, rfl⟩

theorem Draft.build_ok (h : d.Settled) (nodes : Listing) : ∃ c, d.build nodes = .ok c := by
  have hnode : ∀ m, d.node = some m → m.Settled := fun m hm => h m (by simp [mentions, hm])
  have hends : ∀ command, ∃ c, withEnds d.source d.target nodes command = .ok c :=
    withEnds_ok (fun m hm => h m (by simp [mentions, Option.mem_def.1 hm]))
      (fun m hm => h m (by simp [mentions, Option.mem_def.1 hm])) nodes
  rw [build]
  cases d.intent with
  | add | explain => exact ⟨_, rfl⟩
  | delete =>
    cases hn : d.node with
    | none => exact ⟨_, rfl⟩
    | some m => exact withNode_ok (hnode m hn) nodes _
  | update =>
    cases hn : d.node with
    | none => exact ⟨_, rfl⟩
    | some m =>
      by_cases hlabel : d.trimmedLabel.isEmpty = true
      · exact ⟨_, if_pos hlabel⟩
      · obtain ⟨c, hc⟩ := withNode_ok (hnode m hn) nodes fun id => .update id d.trimmedLabel
        exact ⟨c, (if_neg hlabel).trans hc⟩
  | connect => exact hends .connect
  | disconnect => exact hends .disconnect
  | unknown =>
    rcases d.message with _ | _ | ⟨c, rest⟩
    · exact ⟨_, rfl⟩
    · exact ⟨_, rfl⟩
    · exact ⟨_, rfl⟩

theorem reads_interpret (t : Text) (nodes : Listing) :
    Reads (interpret t nodes) (Utterance.numerals t) := by
  have hread := (Utterance.reads_understand t nodes).bind fun d hd => by
    have hbuild := Draft.build_ok (Utterance.settled_understand hd) nodes
    have hdone : Reads (d.build nodes) [] := by simpa [Reads] using hbuild
    exact hdone
  rw [List.append_nil] at hread
  exact hread

/-- Whatever the nodes are, an utterance has a command unless it gives a run of more than
`maxDigits` digits as a node number. -/
theorem interpret_ok_iff (t : Text) (nodes : Listing) :
    ((∃ c, interpret t nodes = .ok c) ↔
        ∀ ds ∈ Utterance.numerals t, ds.length ≤ maxDigits) ∧
      ∀ ds ∈ Utterance.numerals t, AllDigits ds ∧ ds <:+: t :=
  ⟨reads_interpret t nodes, Utterance.runsOf_numerals t⟩

theorem interpret_deleteNode_ok {n : Nat} (hn : n ≠ 0) (nodes : Listing) :
    (∃ c, interpret (Utterance.deleteNode (List.replicate n '1')) nodes = .ok c) ↔
      n ≤ maxDigits := by
  have hne : List.replicate n '1' ≠ [] := by simpa using hn
  have hds : ∀ c ∈ List.replicate n '1', c ∈ decimals := by
    intro c hc
    rw [List.eq_of_mem_replicate hc]
    decide
  have hread : (∃ c, _) ↔ _ :=
    reads_interpret (Utterance.deleteNode (List.replicate n '1')) nodes
  rw [hread, Utterance.numerals_deleteNode hne hds]
  simp

theorem interpret_deleteNode_too_long :
    ¬ ∃ c, interpret (Utterance.deleteNode (List.replicate 4301 '1')) [] = .ok c := by
  rw [interpret_deleteNode_ok (by decide) []]
  decide

end FlowTalk
