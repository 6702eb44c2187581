import FlowTalk.Pattern.Words
import FlowTalk.Proofs.Pattern.Takes

/-! What classes of characters take, and what patterns made of phrases capture. -/
namespace FlowTalk.Pattern

variable {p q : Pattern} {s t : Place} {u : Text} {P : Text → Prop}

theorem AtStart.append (h : p.AtStart) : (p ++ q).AtStart := by
  rintro s t ⟨m, hm, _⟩
  exact h s m hm

theorem atFinish_append_finish : (p ++ finish).AtFinish := by
  rintro s t ⟨m, _, hfinish, rfl⟩
  exact hfinish

theorem takes_many_char {accepts : Char → Bool} {greedy : Bool}
    (h : (many greedy (char accepts)).Takes s t) :
    ∃ u, s.Advances u t ∧ ∀ c ∈ u, accepts c = true := by
  change Relation.ReflTransGen (char accepts).Takes s t at h
  induction h with
  | refl => exact ⟨[], .refl s, by simp⟩
  | tail _ hround hprev =>
    obtain ⟨u, hu, hall⟩ := hprev
    obtain ⟨c, rest, hr, hc, rfl⟩ := hround
    refine ⟨u ++ [c], hu.trans (.step hr), ?_⟩
    intro d hd
    rcases List.mem_append.1 hd with hd | hd
    · exact hall d hd
    · obtain rfl := List.mem_singleton.1 hd
      exact hc

/-- One round or more of a class of characters takes only such characters, and at least one. -/
theorem takes_some1_char {accepts : Char → Bool} (h : (some1 (char accepts)).Takes s t)
    (hu : s.Advances u t) : u ≠ [] ∧ ∀ c ∈ u, accepts c = true := by
  obtain ⟨m, ⟨c, rest, hr, hc, rfl⟩, hm⟩ := h
  obtain ⟨v, hv, hall⟩ := takes_many_char hm
  obtain rfl := hu.unique ((Place.Advances.step hr).trans hv)
  refine ⟨by simp, ?_⟩
  intro d hd
  rcases List.mem_cons.1 hd with rfl | hd
  · exact hc
  · exact hall d hd

@[simp]
theorem capturesOnly_append :
    (p ++ q).CapturesOnly P ↔ p.CapturesOnly P ∧ q.CapturesOnly P := Iff.rfl

@[simp]
theorem capturesOnly_or : (p ||| q).CapturesOnly P ↔ p.CapturesOnly P ∧ q.CapturesOnly P := Iff.rfl

@[simp]
theorem capturesOnly_char (accepts : Char → Bool) : (char accepts).CapturesOnly P := trivial

@[simp]
theorem capturesOnly_boundary : boundary.CapturesOnly P := trivial

@[simp]
theorem capturesOnly_start : start.CapturesOnly P := trivial

@[simp]
theorem capturesOnly_finish : finish.CapturesOnly P := trivial

@[simp]
theorem capturesOnly_many {greedy : Bool} :
    (many greedy p).CapturesOnly P ↔ p.CapturesOnly P := Iff.rfl

@[simp]
theorem capturesOnly_some1 : (some1 p).CapturesOnly P ↔ p.CapturesOnly P := by simp [some1]

@[simp]
theorem capturesOnly_optional : (optional p).CapturesOnly P ↔ p.CapturesOnly P := by
  simp [optional, CapturesOnly]

@[simp]
theorem capturesOnly_phrase (s : String) : (phrase s).CapturesOnly P := by
  rw [phrase]
  induction s.toList with
  | nil => trivial
  | cons c cs ih =>
    refine ⟨?_, ih⟩
    split
    · simp [blanks, blank]
    · simp [letter]

@[simp]
theorem capturesOnly_oneOf (ss : List String) : (oneOf ss).CapturesOnly P := by
  rw [oneOf, choice]
  induction ss with
  | nil => trivial
  | cons s ss ih => exact ⟨capturesOnly_phrase s, ih⟩

end FlowTalk.Pattern
