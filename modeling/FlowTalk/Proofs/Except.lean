import Mathlib.Data.List.Forall2

/-! Computations that may fail, taken apart where they succeed and where they do not. -/
namespace FlowTalk

variable {ε ε' α β σ : Type} {x : Except ε α}

theorem bind_eq_ok {f : α → Except ε β} {b : β} :
    x >>= f = .ok b ↔ ∃ a, x = .ok a ∧ f a = .ok b := by
  cases x with
  | error e => simp [bind, Except.bind]
  | ok a => simp [bind, Except.bind]

theorem bind_eq_error {f : α → Except ε β} {e : ε} :
    x >>= f = .error e ↔ x = .error e ∨ ∃ a, x = .ok a ∧ f a = .error e := by
  cases x with
  | error e' => simp [bind, Except.bind]
  | ok a => simp [bind, Except.bind]

theorem map_eq_ok {f : α → β} {b : β} : x.map f = .ok b ↔ ∃ a, x = .ok a ∧ f a = b := by
  cases x with
  | error e => simp [Except.map]
  | ok a => simp [Except.map]

/-- A sequence of steps commutes with changes of what they read and give if each step does. -/
theorem bind_eq_map_bind {x' : Except ε α} {f : α → α} {g : β → β} {k k' : α → Except ε β}
    (hx : x' = x.map f) (hk : ∀ a, k' (f a) = (k a).map g) : x' >>= k' = (x >>= k).map g := by
  subst hx
  cases x with
  | error e => rfl
  | ok a => exact hk a

theorem mapError_eq_ok {f : ε → ε'} {a : α} : x.mapError f = .ok a ↔ x = .ok a := by
  cases x with
  | error e => exact ⟨nofun, nofun⟩
  | ok b =>
    constructor
    · rintro ⟨⟩
      rfl
    · rintro ⟨⟩
      rfl

/-- Each step of a fold keeps a property where it succeeds, so the fold does. -/
theorem foldlM_keeps {P : σ → Prop} {step : σ → α → Except ε σ}
    (hstep : ∀ {s t : σ} {a : α}, P s → step s a = .ok t → P t) {as : List α} {s t : σ}
    (hs : P s) (h : as.foldlM step s = .ok t) : P t := by
  induction as generalizing s with
  | nil =>
    obtain rfl : s = t := by simpa [pure, Except.pure] using h
    exact hs
  | cons a as ih =>
    rw [List.foldlM_cons, bind_eq_ok] at h
    obtain ⟨u, hu, h⟩ := h
    exact ih (hstep hs hu) h

/-- A fold fails with the first step that does. -/
theorem foldlM_eq_error {step : σ → α → Except ε σ} {as : List α} {s : σ} {e : ε} :
    as.foldlM step s = .error e ↔ ∃ before a after t, as = before ++ a :: after ∧
      before.foldlM step s = .ok t ∧ step t a = .error e := by
  constructor
  · intro h
    induction as generalizing s with
    | nil => cases h
    | cons a as ih =>
      rw [List.foldlM_cons, bind_eq_error] at h
      rcases h with ha | ⟨u, ha, h⟩
      · exact ⟨[], a, as, s, rfl, rfl, ha⟩
      · obtain ⟨before, b, after, t, rfl, hbefore, hb⟩ := ih h
        exact ⟨a :: before, b, after, t, rfl, bind_eq_ok.2 ⟨u, ha, hbefore⟩, hb⟩
  · rintro ⟨before, a, after, t, rfl, hbefore, ha⟩
    rw [List.foldlM_append, bind_eq_error]
    refine Or.inr ⟨t, hbefore, ?_⟩
    rw [List.foldlM_cons, bind_eq_error]
    exact Or.inl ha

/-- A fold succeeds if each step does where the property holds, which is about what has still to be
done. -/
theorem foldlM_ok {P : List α → σ → Prop} {step : σ → α → Except ε σ}
    (hstep : ∀ {a : α} {as : List α} {s : σ}, P (a :: as) s → ∃ t, step s a = .ok t ∧ P as t)
    {as : List α} {s : σ} (hs : P as s) : ∃ t, as.foldlM step s = .ok t ∧ P [] t := by
  induction as generalizing s with
  | nil => exact ⟨s, rfl, hs⟩
  | cons a as ih =>
    obtain ⟨t, ht, hp⟩ := hstep hs
    obtain ⟨u, hu, hp⟩ := ih hp
    refine ⟨u, ?_, hp⟩
    rw [List.foldlM_cons, bind_eq_ok]
    exact ⟨t, ht, hu⟩

/-- If each step takes an item for one more of the things that the state is made of, a fold takes the
items for as many, one by one. What is required of the things is required of every front of them. -/
theorem foldlM_eq_ok {P : List β → Prop} {R : α → β → Prop} (made : List β → σ)
    {step : σ → α → Except ε σ} (hfront : ∀ {bs more : List β}, P (bs ++ more) → P bs)
    (hstep : ∀ {bs : List β} {a : α} {t : σ}, P bs →
      (step (made bs) a = .ok t ↔ ∃ b, R a b ∧ P (bs ++ [b]) ∧ t = made (bs ++ [b])))
    {as : List α} {bs : List β} {t : σ} (hbs : P bs) :
    as.foldlM step (made bs) = .ok t ↔
      ∃ more, List.Forall₂ R as more ∧ P (bs ++ more) ∧ t = made (bs ++ more) := by
  induction as generalizing bs with
  | nil =>
    have hnil : ([] : List α).foldlM step (made bs) = .ok (made bs) := rfl
    simp [hnil, hbs, eq_comm]
  | cons a as ih =>
    rw [List.foldlM_cons, bind_eq_ok]
    constructor
    · rintro ⟨s, hs, hrest⟩
      obtain ⟨b, hb, hP, rfl⟩ := (hstep hbs).1 hs
      obtain ⟨more, hmore, hP, rfl⟩ := (ih hP).1 hrest
      rw [List.append_assoc] at hP ⊢
      exact ⟨b :: more, .cons hb hmore, hP, rfl⟩
    · rintro ⟨_, hall, hP, rfl⟩
      cases hall with
      | @cons _ b _ more hb hmore =>
        rw [List.append_cons bs b more] at hP ih ⊢
        have hfirst : P (bs ++ [b]) := hfront hP
        exact ⟨made (bs ++ [b]), (hstep hbs).2 ⟨b, hb, hfirst, rfl⟩,
          (ih hfirst).2 ⟨more, hmore, hP, rfl⟩⟩

end FlowTalk
