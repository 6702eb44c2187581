import FlowTalk.Proofs.Text.Lowercase

/-! Whatever stands in a text in lower case keeps its case when it is lowered again. -/
namespace FlowTalk

variable {t : Text} {c d : Char} {runs : List CaseRun} {first last stride i : Nat}

/-- No code point of an interval, taken in steps, has another form in the runs. A run that meets the
interval passes over its code points if both take every second one. -/
def fixes : List CaseRun → Nat → Nat → Nat → Bool
  | [], _, _, _ => true
  | run :: rest, first, last, stride =>
    last.blt run.first ||
      ((run.last.blt first || run.stride == 2 && (stride == 2 || first == last) &&
        (first + run.first) % 2 == 1) && fixes rest first last stride)

theorem lowerIn_of_fixes (h : fixes runs first last stride = true)
    (hi : first + i * stride ≤ last) : lowerIn runs (first + i * stride) = first + i * stride := by
  induction runs with
  | nil => rfl
  | cons run rest ih =>
    simp only [fixes, Bool.or_eq_true, Bool.and_eq_true, beq_iff_eq, Nat.blt_eq] at h
    rw [lowerIn]
    split
    · rfl
    · rcases h with hbefore | ⟨hmeets, hrest⟩
      · omega
      · split
        · rw [if_neg]
          rcases hmeets with hbehind | ⟨⟨hrun, hstride⟩, hparity⟩
          · omega
          · rw [hrun]
            rcases hstride with rfl | rfl
            · omega
            · omega
        · exact ih hrest

/-- The images of a run have no other form, and they are characters, none of them the dotted
capital. -/
def CaseRun.Settled (r : CaseRun) : Prop :=
  fixes caseRuns r.image (r.image + (r.last - r.first)) r.stride = true ∧
    (304 < r.image ∨ r.image + (r.last - r.first) < 304) ∧
    (r.image + (r.last - r.first) < 55296 ∨
      57343 < r.image ∧ r.image + (r.last - r.first) < 1114112)

instance (r : CaseRun) : Decidable r.Settled := instDecidableAnd

theorem settled_caseRuns : ∀ r ∈ caseRuns, r.Settled := by decide +kernel

theorem CaseRun.Settled.keepsCase {r : CaseRun} (h : r.Settled)
    (hi : i ≤ (r.last - r.first) / r.stride) : KeepsCase (Char.ofNat (r.image + i * r.stride)) := by
  obtain ⟨hfixes, hdotted, hvalid⟩ := h
  have hle : i * r.stride ≤ r.last - r.first :=
    Nat.le_trans (Nat.mul_le_mul_right _ hi) (Nat.div_mul_le_self _ _)
  have hcode : (Char.ofNat (r.image + i * r.stride)).toNat = r.image + i * r.stride :=
    toNat_ofNat (by omega)
  have hsame := lowerIn_of_fixes hfixes (i := i) (by omega)
  refine ⟨?_, ?_, ?_⟩
  · rw [lowerChar, hcode, hsame]
  · intro hsigma
    have hcapital : r.image + i * r.stride = 931 := by
      rw [← hcode, hsigma]
      rfl
    rw [hcapital] at hsame
    exact absurd hsame (by decide)
  · intro hcapital
    rw [hcapital] at hcode
    have hcode : 304 = r.image + i * r.stride := hcode
    omega

theorem keepsCase_lowerChar (hsigma : c ≠ 'Σ') (hdotted : c ≠ 'İ') : KeepsCase (lowerChar c) := by
  rcases lowerIn_cases caseRuns c.toNat with hself | ⟨r, hr, i, hi, _, himage⟩
  · have hsame : lowerChar c = c := by rw [lowerChar, hself, Char.ofNat_toNat]
    rw [hsame]
    exact ⟨hsame, hsigma, hdotted⟩
  · rw [lowerChar, himage]
    exact (settled_caseRuns r hr).keepsCase hi

theorem keepsCase_of_mem_lowerAt {afterCased : Bool} {rest : Text}
    (hd : d ∈ lowerAt afterCased c rest) : KeepsCase d := by
  rw [lowerAt] at hd
  split at hd
  · split at hd
    · obtain rfl := List.mem_singleton.1 hd
      decide
    · obtain rfl := List.mem_singleton.1 hd
      decide
  · next hsigma =>
    split at hd
    · rcases List.mem_cons.1 hd with rfl | hd
      · decide
      · obtain rfl := List.mem_singleton.1 hd
        decide
    · next hdotted =>
      obtain rfl := List.mem_singleton.1 hd
      exact keepsCase_lowerChar hsigma hdotted

theorem keepsCase_of_mem_lowerFrom (afterCased : Bool) (hc : c ∈ lowerFrom afterCased t) :
    KeepsCase c := by
  induction t generalizing afterCased with
  | nil => simp [lowerFrom] at hc
  | cons d rest ih =>
    rw [lowerFrom] at hc
    rcases List.mem_append.1 hc with hc | hc
    · exact keepsCase_of_mem_lowerAt hc
    · exact ih _ hc

theorem keepsCase_of_mem_lower (hc : c ∈ lower t) : KeepsCase c :=
  keepsCase_of_mem_lowerFrom false hc

end FlowTalk
