import FlowTalk.Lookup.Resolve
import FlowTalk.Proofs.Except
import FlowTalk.Proofs.Text.Trim

/-! The node that a mention stands for is one of the listing, and a mention that was taken from an
utterance can always be looked up. -/
namespace FlowTalk

/-- A phrase that was found not to be a node number. -/
def Mention.Settled : Mention → Prop
  | .phrase t => FlowTalk.ordinal? t = .ok none
  | .ordinal _ _ | .label _ => True

theorem ordinal?_trim (t : Text) : ordinal? (Text.trim t) = ordinal? t := by
  rw [ordinal?, ordinal?, Text.trim_trim]

namespace Lookup

variable {t : Text} {nodes : Listing} {node : Entry} {n : Int} {m : Mention} {ordinals : Bool}

theorem mem_of_byId (h : byId t nodes = some node) : node ∈ nodes := by
  by_cases ht : t.isEmpty = true
  · simp [byId, ht] at h
  · rw [byId, if_neg ht] at h
    exact List.mem_of_find?_eq_some h

theorem mem_of_byOrdinal (h : byOrdinal n nodes = some node) : node ∈ nodes := by
  by_cases hn : n < 1
  · simp [byOrdinal, hn] at h
  · rw [byOrdinal, if_neg hn] at h
    exact List.mem_of_getElem? h

theorem mem_of_byLabel (h : byLabel t nodes = some node) : node ∈ nodes := by
  by_cases ht : (Text.trim t).isEmpty = true
  · simp [byLabel, ht] at h
  · rw [byLabel, if_neg ht] at h
    exact List.mem_of_find?_eq_some h

theorem mem_of_byKeywords (h : byKeywords t nodes = some node) : node ∈ nodes := by
  by_cases hw : (keywords t).isEmpty = true
  · simp [byKeywords, hw] at h
  · simp only [byKeywords, hw, Bool.false_eq_true, if_false] at h
    cases hall : nodes.find? fun node => (keywords t).all (mentions node) with
    | some first =>
      obtain rfl : first = node := by simpa [hall] using h
      exact List.mem_of_find?_eq_some hall
    | none =>
      rw [hall] at h
      exact List.mem_of_find?_eq_some h

/-- A text is looked up under its ids and labels, then as a number or by its keywords. -/
theorem resolveText_cases (ordinals : Bool) (t : Text) (nodes : Listing) :
    resolveText ordinals t nodes = .ok none ∨
      (∃ node ∈ nodes, resolveText ordinals t nodes = .ok (some node)) ∨
      resolveText ordinals t nodes =
        if ordinals then
          (ordinal? t).map fun
            | some n => byOrdinal n nodes
            | none => byKeywords (Text.trim t) nodes
        else .ok (byKeywords (Text.trim t) nodes) := by
  by_cases ht : (Text.trim t).isEmpty = true
  · exact Or.inl (by simp [resolveText, ht])
  · cases hid : byId (Text.trim t) nodes with
    | some node =>
      exact Or.inr (Or.inl ⟨node, mem_of_byId hid, by simp [resolveText, ht, hid]⟩)
    | none =>
      cases hlabel : byLabel (Text.trim t) nodes with
      | some node =>
        exact Or.inr (Or.inl ⟨node, mem_of_byLabel hlabel, by simp [resolveText, ht, hid, hlabel]⟩)
      | none =>
        refine Or.inr (Or.inr ?_)
        cases ordinals with
        | false => simp [resolveText, ht, hid, hlabel]
        | true =>
          rcases hn : ordinal? t with e | _ | n <;>
            simp [resolveText, ht, hid, hlabel, ordinal?_trim, hn, Except.map]

theorem mem_of_resolveText (h : resolveText ordinals t nodes = .ok (some node)) :
    node ∈ nodes := by
  rcases resolveText_cases ordinals t nodes with hnone | ⟨first, hfirst, hsome⟩ | hrest
  · rw [hnone] at h
    cases h
  · rw [hsome] at h
    cases h
    exact hfirst
  · rw [hrest] at h
    cases ordinals with
    | false => exact mem_of_byKeywords (Except.ok.inj h)
    | true =>
      obtain ⟨number, _, h⟩ := map_eq_ok.1 h
      cases number with
      | some n => exact mem_of_byOrdinal h
      | none => exact mem_of_byKeywords h

theorem mem_of_resolve (h : resolve m nodes = .ok (some node)) : node ∈ nodes := by
  cases m with
  | ordinal n said => exact mem_of_byOrdinal (Except.ok.inj h)
  | label said => exact mem_of_resolveText h
  | phrase said => exact mem_of_resolveText h

theorem resolveText_ok (h : ordinals = true → ∃ number, ordinal? t = .ok number) :
    ∃ found, resolveText ordinals t nodes = .ok found := by
  rcases resolveText_cases ordinals t nodes with hnone | ⟨first, _, hsome⟩ | hrest
  · exact ⟨none, hnone⟩
  · exact ⟨some first, hsome⟩
  · rw [hrest]
    cases ordinals with
    | false => exact ⟨_, rfl⟩
    | true =>
      obtain ⟨number, hnumber⟩ := h rfl
      exact ⟨_, map_eq_ok.2 ⟨number, hnumber, rfl⟩⟩

theorem resolve_ok (h : m.Settled) (nodes : Listing) : ∃ found, resolve m nodes = .ok found := by
  cases m with
  | ordinal n said => exact ⟨_, rfl⟩
  | label said => exact resolveText_ok (by simp)
  | phrase said => exact resolveText_ok fun _ => ⟨none, h⟩

end Lookup

end FlowTalk
