import FlowTalk.Pattern.Words
import FlowTalk.Proofs.Pattern.Search

/-! Characters that a pattern cannot do without. -/
namespace FlowTalk.Pattern

variable {p q : Pattern} {accepts : Char → Bool} {b : Option Char} {t : Text} {m : Match}

/-- Every way of the pattern takes a character of a class. -/
def Demands (accepts : Char → Bool) (p : Pattern) : Prop :=
  ∀ s t u, p.Takes s t → s.Advances u t → ∃ c ∈ u, accepts c = true

theorem demands_char : (char accepts).Demands accepts := by
  rintro s t u ⟨c, rest, hr, hc, rfl⟩ hu
  obtain rfl := hu.unique (.step hr)
  exact ⟨c, by simp, hc⟩

theorem Demands.append_left (hp : p.Demands accepts) : (p ++ q).Demands accepts := by
  rintro s t u ⟨m, hm, hmt⟩ hu
  obtain ⟨v, hv⟩ := hm.advances
  obtain ⟨w, hw⟩ := hmt.advances
  obtain rfl := hu.unique (hv.trans hw)
  obtain ⟨c, hc, haccepts⟩ := hp s m v hm hv
  exact ⟨c, by simp [hc], haccepts⟩

theorem Demands.append_right (hq : q.Demands accepts) : (p ++ q).Demands accepts := by
  rintro s t u ⟨m, hm, hmt⟩ hu
  obtain ⟨v, hv⟩ := hm.advances
  obtain ⟨w, hw⟩ := hmt.advances
  obtain rfl := hu.unique (hv.trans hw)
  obtain ⟨c, hc, haccepts⟩ := hq m t w hmt hw
  exact ⟨c, by simp [hc], haccepts⟩

theorem Demands.or (hp : p.Demands accepts) (hq : q.Demands accepts) :
    (p ||| q).Demands accepts := by
  rintro s t u (h | h) hu
  · exact hp s t u h hu
  · exact hq s t u h hu

theorem Demands.capture {slot : Nat} (hp : p.Demands accepts) :
    (capture slot p).Demands accepts := by
  rintro s t u ⟨m, hm, rfl⟩ hu
  obtain ⟨v, hv⟩ := hm.advances
  obtain rfl := hu.unique (hv.record slot)
  exact hp s m u hm hv

/-- So what is matched has such a character. -/
theorem Demands.exists_mem_body (hp : p.Demands accepts) (h : m.Of p b t) :
    ∃ c ∈ m.body, accepts c = true := by
  obtain ⟨s, htakes, hbody, _⟩ := h.advances
  exact hp _ s m.body htakes hbody

theorem Demands.not_of (hp : p.Demands accepts) (h : ∀ c ∈ t, accepts c = false) :
    ¬ m.Of p b t := by
  intro hm
  obtain ⟨c, hc, haccepts⟩ := hp.exists_mem_body hm
  rw [h c (hm.body_isInfix.subset hc)] at haccepts
  cases haccepts

theorem Demands.search_eq_none (hp : p.Demands accepts) (h : ∀ c ∈ t, accepts c = false) :
    p.search t = none :=
  Option.eq_none_iff_forall_ne_some.2 fun _ hm => hp.not_of h (search_sound hm)

theorem Demands.matchFront_eq_none (hp : p.Demands accepts) (h : ∀ c ∈ t, accepts c = false) :
    p.matchFront t = none :=
  Option.eq_none_iff_forall_ne_some.2 fun _ hm => hp.not_of h (matchFront_sound hm)

end FlowTalk.Pattern
