import FlowTalk.Pattern.Basic
import Mathlib.Logic.Relation

/-! What a pattern may take from a text, without regard to which way is tried first. Matching only
ever takes such a way. -/
namespace FlowTalk

/-- The way between two places takes the piece `u`, and what it captures is taken on it. -/
structure Place.Advances (s : Place) (u : Text) (t : Place) : Prop where
  rest : s.rest = u ++ t.rest
  taken : t.taken = s.taken + u.length
  before : t.before = u.getLast?.or s.before
  captured : ∀ c ∈ t.captures, c ∈ s.captures ∨ c.piece <:+: u

namespace Place.Advances

variable {s t m : Place} {u v : Text}

theorem refl (s : Place) : s.Advances [] s := ⟨rfl, rfl, rfl, fun _ => Or.inl⟩

theorem step {c : Char} {rest : Text} (h : s.rest = c :: rest) :
    s.Advances [c] (s.step c rest) := ⟨h, rfl, rfl, fun _ => Or.inl⟩

theorem trans (h : s.Advances u m) (h' : m.Advances v t) : s.Advances (u ++ v) t := by
  refine ⟨?_, ?_, ?_, ?_⟩
  · rw [h.rest, h'.rest, List.append_assoc]
  · rw [h'.taken, h.taken, List.length_append, Nat.add_assoc]
  · rw [h'.before, h.before, List.getLast?_append, Option.or_assoc]
  · intro c hc
    rcases h'.captured c hc with hm | hv
    · rcases h.captured c hm with hs | hu
      · exact Or.inl hs
      · exact Or.inr (hu.trans (List.prefix_append u v).isInfix)
    · exact Or.inr (hv.trans (List.suffix_append u v).isInfix)

/-- What was taken is what a capture of the way holds. -/
theorem take_eq (h : s.Advances u t) : s.rest.take (t.taken - s.taken) = u := by
  simp [h.rest, h.taken]

theorem record (h : s.Advances u t) (slot : Nat) : s.Advances u (Place.record slot s t) := by
  refine ⟨h.rest, h.taken, h.before, ?_⟩
  intro c hc
  rcases List.mem_cons.1 hc with rfl | hc
  · exact Or.inr (h.take_eq ▸ List.infix_refl _)
  · exact h.captured c hc

theorem unique (h : s.Advances u t) (h' : s.Advances v t) : u = v :=
  h.take_eq.symm.trans h'.take_eq

end Place.Advances

namespace Pattern

/-- The places that a pattern may lead to. -/
def Takes : Pattern → Place → Place → Prop
  | .nothing, s, t => t = s
  | .char accepts, s, t => ∃ c rest, s.rest = c :: rest ∧ accepts c = true ∧ t = s.step c rest
  | .seq first second, s, t => ∃ m, first.Takes s m ∧ second.Takes m t
  | .either first second, s, t => first.Takes s t ∨ second.Takes s t
  | .many _ body, s, t => Relation.ReflTransGen body.Takes s t
  | .notAhead body, s, t => body.run s some = none ∧ t = s
  | .notAfterWord, s, t => s.afterWord = false ∧ t = s
  | .boundary, s, t => s.atBoundary = true ∧ t = s
  | .start, s, t => s.before = none ∧ t = s
  | .finish, s, t => s.atFinish = true ∧ t = s
  | .capture slot body, s, t => ∃ m, body.Takes s m ∧ t = Place.record slot s m

variable {p : Pattern} {s t : Place} {next : Place → Option Place} {u : Text}

/-- The rounds of a repetition lead where some rounds of its body lead. -/
theorem rounds_sound {round : Place → (Place → Option Place) → Option Place}
    {R : Place → Place → Prop}
    (hround : ∀ {s t next}, round s next = some t → ∃ m, R s m ∧ next m = some t)
    {greedy : Bool} {fuel : Text} (h : rounds round greedy next fuel s = some t) :
    ∃ m, Relation.ReflTransGen R s m ∧ next m = some t := by
  induction fuel generalizing s with
  | nil => exact ⟨s, .refl, h⟩
  | cons c fuel ih =>
    have hone : round s (rounds round greedy next fuel) = some t →
        ∃ m, Relation.ReflTransGen R s m ∧ next m = some t := by
      intro h
      obtain ⟨m, hm, h⟩ := hround h
      obtain ⟨m', hm', h⟩ := ih h
      exact ⟨m', .head hm hm', h⟩
    cases greedy with
    | true =>
      cases hr : round s (rounds round true next fuel) with
      | some t' =>
        obtain rfl : t' = t := by simpa [rounds, hr] using h
        exact hone hr
      | none => exact ⟨s, .refl, by simpa [rounds, hr] using h⟩
    | false =>
      cases hn : next s with
      | some t' =>
        obtain rfl : t' = t := by simpa [rounds, hn] using h
        exact ⟨s, .refl, hn⟩
      | none => exact hone (by simpa [rounds, hn] using h)

theorem run_sound (h : p.run s next = some t) : ∃ m, p.Takes s m ∧ next m = some t := by
  induction p generalizing s t next with
  | nothing => exact ⟨s, rfl, h⟩
  | char accepts =>
    cases hr : s.rest with
    | nil => simp [run, hr] at h
    | cons c rest =>
      by_cases hc : accepts c = true
      · exact ⟨_, ⟨c, rest, hr, hc, rfl⟩, by simpa [run, hr, hc] using h⟩
      · simp [run, hr, hc] at h
  | seq first second ih₁ ih₂ =>
    obtain ⟨m, hm, h⟩ := ih₁ h
    obtain ⟨m', hm', h⟩ := ih₂ h
    exact ⟨m', ⟨m, hm, hm'⟩, h⟩
  | either first second ih₁ ih₂ =>
    cases hr : first.run s next with
    | some t' =>
      obtain rfl : t' = t := by simpa [run, hr] using h
      obtain ⟨m, hm, hn⟩ := ih₁ hr
      exact ⟨m, Or.inl hm, hn⟩
    | none =>
      obtain ⟨m, hm, hn⟩ := ih₂ (by simpa [run, hr] using h)
      exact ⟨m, Or.inr hm, hn⟩
  | many greedy body ih => exact rounds_sound ih h
  | notAhead body ih =>
    cases hr : body.run s some with
    | some t' => simp [run, hr] at h
    | none => exact ⟨s, ⟨hr, rfl⟩, by simpa [run, hr] using h⟩
  | notAfterWord =>
    cases hw : s.afterWord with
    | true => simp [run, hw] at h
    | false => exact ⟨s, ⟨hw, rfl⟩, by simpa [run, hw] using h⟩
  | boundary =>
    cases hb : s.atBoundary with
    | true => exact ⟨s, ⟨hb, rfl⟩, by simpa [run, hb] using h⟩
    | false => simp [run, hb] at h
  | start =>
    cases hb : s.before with
    | none => exact ⟨s, ⟨hb, rfl⟩, by simpa [run, hb] using h⟩
    | some c => simp [run, hb] at h
  | finish =>
    cases hf : s.atFinish with
    | true => exact ⟨s, ⟨hf, rfl⟩, by simpa [run, hf] using h⟩
    | false => simp [run, hf] at h
  | capture slot body ih =>
    obtain ⟨m, hm, h⟩ := ih h
    exact ⟨_, ⟨m, hm, rfl⟩, h⟩

theorem Takes.advances (h : p.Takes s t) : ∃ u, s.Advances u t := by
  induction p generalizing s t with
  | nothing =>
    obtain rfl := h
    exact ⟨[], .refl t⟩
  | char accepts =>
    obtain ⟨c, rest, hr, _, rfl⟩ := h
    exact ⟨[c], .step hr⟩
  | seq first second ih₁ ih₂ =>
    obtain ⟨m, h₁, h₂⟩ := h
    obtain ⟨u, hu⟩ := ih₁ h₁
    obtain ⟨v, hv⟩ := ih₂ h₂
    exact ⟨u ++ v, hu.trans hv⟩
  | either first second ih₁ ih₂ =>
    rcases h with h | h
    · exact ih₁ h
    · exact ih₂ h
  | many greedy body ih =>
    change Relation.ReflTransGen body.Takes s t at h
    induction h with
    | refl => exact ⟨[], .refl s⟩
    | tail _ hround hprev =>
      obtain ⟨u, hu⟩ := hprev
      obtain ⟨v, hv⟩ := ih hround
      exact ⟨u ++ v, hu.trans hv⟩
  | notAhead body ih =>
    obtain ⟨_, rfl⟩ := h
    exact ⟨[], .refl t⟩
  | notAfterWord | boundary | start | finish =>
    obtain ⟨_, rfl⟩ := h
    exact ⟨[], .refl t⟩
  | capture slot body ih =>
    obtain ⟨m, hm, rfl⟩ := h
    obtain ⟨u, hu⟩ := ih hm
    exact ⟨u, hu.record slot⟩

/-- The pattern only matches at the front of the text. -/
def AtStart (p : Pattern) : Prop := ∀ s t, p.Takes s t → s.before = none

/-- The pattern only matches up to the end of the text. -/
def AtFinish (p : Pattern) : Prop := ∀ s t, p.Takes s t → t.atFinish = true

theorem atStart_start : start.AtStart := fun _ _ h => h.1

/-- What the pattern captures satisfies `P`. -/
def CapturesOnly (P : Text → Prop) : Pattern → Prop
  | .seq first second | .either first second => first.CapturesOnly P ∧ second.CapturesOnly P
  | .many _ body => body.CapturesOnly P
  | .capture _ body => (∀ s u t, body.Takes s t → s.Advances u t → P u) ∧ body.CapturesOnly P
  | _ => True

theorem Takes.captures {P : Text → Prop} (h : p.Takes s t) (hp : p.CapturesOnly P)
    (hs : ∀ c ∈ s.captures, P c.piece) : ∀ c ∈ t.captures, P c.piece := by
  induction p generalizing s t with
  | nothing =>
    obtain rfl := h
    exact hs
  | char accepts =>
    obtain ⟨c, rest, _, _, rfl⟩ := h
    exact hs
  | seq first second ih₁ ih₂ =>
    obtain ⟨m, h₁, h₂⟩ := h
    exact ih₂ h₂ hp.2 (ih₁ h₁ hp.1 hs)
  | either first second ih₁ ih₂ =>
    rcases h with h | h
    · exact ih₁ h hp.1 hs
    · exact ih₂ h hp.2 hs
  | many greedy body ih =>
    change Relation.ReflTransGen body.Takes s t at h
    induction h with
    | refl => exact hs
    | tail _ hround hprev => exact ih hround hp hprev
  | notAhead body ih =>
    obtain ⟨_, rfl⟩ := h
    exact hs
  | notAfterWord | boundary | start | finish =>
    obtain ⟨_, rfl⟩ := h
    exact hs
  | capture slot body ih =>
    obtain ⟨m, hm, rfl⟩ := h
    obtain ⟨u, hu⟩ := hm.advances
    intro c hc
    rcases List.mem_cons.1 hc with rfl | hc
    · have hpiece : P u := hp.1 s u m hm hu
      rwa [← hu.take_eq] at hpiece
    · exact ih hm hp.2 hs c hc

end Pattern

end FlowTalk
