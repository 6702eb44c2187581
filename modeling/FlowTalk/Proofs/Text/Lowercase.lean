import FlowTalk.Text.Blank
import FlowTalk.Text.Lowercase

/-! What lower-casing leaves as it is: some characters, white space and what it separates. -/
namespace FlowTalk

/-- The lower-case form of the character is the character, wherever it stands. -/
def KeepsCase (c : Char) : Prop := lowerChar c = c ∧ c ≠ 'Σ' ∧ c ≠ 'İ'

instance (c : Char) : Decidable (KeepsCase c) := instDecidableAnd

variable {t : Text} {c : Char}

/-- Where no character has a form that depends on its neighbours, each is replaced by itself. -/
theorem lowerFrom_eq_map {f : Char → Char}
    (h : ∀ c ∈ t, lowerChar c = f c ∧ c ≠ 'Σ' ∧ c ≠ 'İ') (afterCased : Bool) :
    lowerFrom afterCased t = t.map f := by
  induction t generalizing afterCased with
  | nil => rfl
  | cons c rest ih =>
    obtain ⟨hlower, hsigma, hdotted⟩ := h c (by simp)
    rw [lowerFrom, ih fun d hd => h d (by simp [hd])]
    simp [lowerAt, hlower, hsigma, hdotted]

theorem lower_eq_map {f : Char → Char}
    (h : ∀ c ∈ t, lowerChar c = f c ∧ c ≠ 'Σ' ∧ c ≠ 'İ') : lower t = t.map f :=
  lowerFrom_eq_map h false

theorem lower_eq_self (h : ∀ c ∈ t, KeepsCase c) : lower t = t := by
  simpa using lower_eq_map (f := id) h

/-- Either a code point is its own lower-case form, or it stands in a run. -/
theorem lowerIn_cases (runs : List CaseRun) (n : Nat) : lowerIn runs n = n ∨
    ∃ r ∈ runs, ∃ i ≤ (r.last - r.first) / r.stride, n = r.first + i * r.stride ∧
      lowerIn runs n = r.image + i * r.stride := by
  induction runs with
  | nil => exact Or.inl rfl
  | cons r rest ih =>
    rw [lowerIn]
    split
    · exact Or.inl rfl
    · split
      · split
        · next hfirst hlast hmod =>
          have hmul := Nat.div_mul_cancel (Nat.dvd_of_mod_eq_zero hmod)
          refine Or.inr ⟨r, by simp, (n - r.first) / r.stride, Nat.div_le_div_right (by omega), ?_⟩
          rw [hmul]
          omega
        · exact Or.inl rfl
      · rcases ih with ih | ⟨r', hr', hrun⟩
        · exact Or.inl ih
        · exact Or.inr ⟨r', by simp [hr'], hrun⟩

theorem toNat_ofNat {n : Nat} (hn : n < 55296 ∨ 57343 < n ∧ n < 1114112) :
    (Char.ofNat n).toNat = n := by
  have hchar : Nat.isValidChar n := by
    rw [Nat.isValidChar]
    omega
  rw [Char.ofNat, dif_pos hchar]
  rfl

/-- A blank has no case, and no sigma looks past it. -/
structure Caseless (c : Char) : Prop where
  keeps : KeepsCase c
  uncased : isCased c = false
  seen : isCaseIgnorable c = false

theorem caseless_of_isBlank (h : isBlank c = true) : Caseless c := by
  have hall : ∀ r ∈ blankRanges, ∀ n ∈ List.range' r.1 (r.2 + 1 - r.1),
      lowerIn caseRuns n = n ∧ casedRanges.covers n = false ∧ ignorableRanges.covers n = false ∧
        n ≠ 931 ∧ n ≠ 304 := by
    decide +kernel
  obtain ⟨r, hr, hfirst, hlast⟩ := Ranges.exists_of_covers h
  obtain ⟨hlower, hcased, hignored, hsigma, hdotted⟩ :=
    hall r hr c.toNat (List.mem_range'_1.2 ⟨hfirst, by omega⟩)
  refine ⟨⟨?_, ?_, ?_⟩, hcased, hignored⟩
  · rw [lowerChar, hlower, Char.ofNat_toNat]
  · rintro rfl
    exact hsigma rfl
  · rintro rfl
    exact hdotted rfl

theorem beforeCased_append_cons (hc : Caseless c) (x y : Text) :
    beforeCased (x ++ c :: y) = beforeCased x := by
  induction x with
  | nil => simp [beforeCased, hc.seen, hc.uncased]
  | cons d x ih =>
    by_cases hd : isCaseIgnorable d = true
    · simpa [beforeCased, hd] using ih
    · simp [beforeCased, hd]

theorem lowerAt_append_cons (hc : Caseless c) (afterCased : Bool) (d : Char) (x y : Text) :
    lowerAt afterCased d (x ++ c :: y) = lowerAt afterCased d x := by
  rw [lowerAt, lowerAt, beforeCased_append_cons hc]

/-- The two sides of a blank are lowered on their own. -/
theorem lowerFrom_append_cons (hc : Caseless c) (afterCased : Bool) (x y : Text) :
    lowerFrom afterCased (x ++ c :: y) = lowerFrom afterCased x ++ c :: lower y := by
  induction x generalizing afterCased with
  | nil =>
    obtain ⟨hlower, hsigma, hdotted⟩ := hc.keeps
    simp [lowerFrom, lowerAt, hsigma, hdotted, hlower, hc.seen, hc.uncased, lower]
  | cons d x ih => simp [lowerFrom, lowerAt_append_cons hc, ih]

theorem lower_append_cons (hc : isBlank c = true) (x y : Text) :
    lower (x ++ c :: y) = lower x ++ c :: lower y :=
  lowerFrom_append_cons (caseless_of_isBlank hc) false x y

theorem length_lowerAt (afterCased : Bool) (d : Char) (rest : Text) :
    (lowerAt afterCased d rest).length = 1 + if d == 'İ' then 1 else 0 := by
  by_cases hd : d = 'İ'
  · subst hd
    rfl
  · rw [lowerAt, if_neg hd]
    split
    · split <;> simp [hd]
    · simp [hd]

/-- Only a dotted capital I takes more room in lower case. -/
theorem length_lower (t : Text) : (lower t).length = t.length + t.count 'İ' := by
  have hfrom : ∀ afterCased, (lowerFrom afterCased t).length = t.length + t.count 'İ' := by
    induction t with
    | nil => simp [lowerFrom]
    | cons c rest ih =>
      intro afterCased
      rw [lowerFrom, List.length_append, length_lowerAt, ih, List.length_cons, List.count_cons]
      omega
  exact hfrom false

end FlowTalk
