import FlowTalk.Proofs.Number.Near

/-! Rounding a rational number to the nearest floating-point number. -/
namespace FlowTalk
open Float.Model Float.Model.UnpackedFloat

variable {x : Binary} {q y : ℚ} {m r : ℕ} {e : ℤ} {em : ExtendedMantissa} {accuracy : Accuracy}
  {sign : Sign}

/-! Bits below the mantissa -/

/-- A mantissa with its round bit, which stands for one half. -/
def kept (em : ExtendedMantissa) : ℚ := em.mantissa + em.roundBit.toNat / 2

@[simp]
theorem kept_false {sticky : Bool} : kept ⟨m, false, sticky⟩ = m := by simp [kept]

@[simp]
theorem kept_true {sticky : Bool} : kept ⟨m, true, sticky⟩ = m + 1 / 2 := by simp [kept]

/-- What is kept of a number in units of its last place. The sticky bit stands for anything less
than a half beyond. -/
structure CutFrom (em : ExtendedMantissa) (y : ℚ) : Prop where
  low : kept em ≤ y
  high : y < kept em + 1 / 2
  exact_iff : em.stickyBit = false ↔ y = kept em

namespace CutFrom

theorem roundBit_le (em : ExtendedMantissa) : (em.roundBit.toNat : ℚ) ≤ 1 :=
  Nat.cast_le_one.2 em.roundBit.toNat_le

theorem mantissa_le (h : CutFrom em y) : em.mantissa ≤ y := by
  have hlow := h.low
  have hround : (0 : ℚ) ≤ em.roundBit.toNat := Nat.cast_nonneg _
  rw [kept] at hlow
  linarith

theorem lt_mantissa_add_one (h : CutFrom em y) : y < em.mantissa + 1 := by
  have hhigh := h.high
  have hround := roundBit_le em
  rw [kept] at hhigh
  linarith

theorem kept_shiftRightOne (em : ExtendedMantissa) : kept em.shiftRightOne = em.mantissa / 2 := by
  have hround : ((em.mantissa % 2 != 0).toNat : ℚ) = (em.mantissa % 2 : ℕ) := by
    rcases Nat.mod_two_eq_zero_or_one em.mantissa with h | h
    · simp [h]
    · simp [h]
  have hmantissa : (em.mantissa : ℚ) = 2 * (em.mantissa / 2 : ℕ) + (em.mantissa % 2 : ℕ) := by
    exact_mod_cast (Nat.div_add_mod em.mantissa 2).symm
  rw [kept, ExtendedMantissa.shiftRightOne, hround, hmantissa]
  ring

/-- The last bit of the mantissa becomes the round bit. -/
theorem shiftRightOne (h : CutFrom em y) : CutFrom em.shiftRightOne (y / 2) := by
  have hle := h.mantissa_le
  have hlt := h.lt_mantissa_add_one
  refine ⟨?_, ?_, ?_⟩
  · rw [kept_shiftRightOne]
    linarith
  · rw [kept_shiftRightOne]
    linarith
  · rw [kept_shiftRightOne, ExtendedMantissa.shiftRightOne, Bool.or_eq_false_iff, h.exact_iff]
    have hlow := h.low
    constructor
    · rintro ⟨hround, hexact⟩
      rw [hexact, kept, hround]
      simp
    · intro hhalf
      have hround : em.roundBit = false := by
        cases hr : em.roundBit with
        | false => rfl
        | true =>
          rw [kept, hr, Bool.toNat_true, Nat.cast_one] at hlow
          linarith
      refine ⟨hround, ?_⟩
      rw [kept, hround, Bool.toNat_false, Nat.cast_zero]
      linarith

theorem shiftRight (h : CutFrom em y) (n : ℕ) : CutFrom (em >>> n) (y / 2 ^ n) := by
  induction n with
  | zero =>
    rw [pow_zero, div_one]
    exact h
  | succ n ih =>
    rw [pow_succ, ← div_div]
    exact ih.shiftRightOne

theorem exact (m : ℕ) : CutFrom (.ofMantissaAndAccuracy m .exact) m := by
  refine ⟨?_, ?_, ?_⟩
  · simp [ExtendedMantissa.ofMantissaAndAccuracy]
  · simp [ExtendedMantissa.ofMantissaAndAccuracy]
  · simp [ExtendedMantissa.ofMantissaAndAccuracy]

theorem inexact {t : ℚ} (m : ℕ) (hpos : 0 < t) (hless : t < 1) :
    CutFrom (.ofMantissaAndAccuracy m (.inexact (compare t (1 / 2)))) (m + t) := by
  rcases lt_trichotomy t (1 / 2) with h | h | h
  · rw [compare_lt_iff_lt.2 h]
    change CutFrom ⟨m, false, true⟩ _
    refine ⟨?_, ?_, ?_⟩
    · simpa using hpos.le
    · simpa using h
    · simpa using hpos.ne'
  · rw [compare_eq_iff_eq.2 h, h]
    change CutFrom ⟨m, true, false⟩ _
    refine ⟨?_, ?_, ?_⟩
    · simp
    · simp
    · simp
  · rw [compare_gt_iff_gt.2 h]
    change CutFrom ⟨m, true, true⟩ _
    refine ⟨?_, ?_, ?_⟩
    · simpa using h.le
    · rw [kept_true]
      linarith
    · simpa using h.ne'

/-- The rest of a division says how the quotient goes on. -/
theorem div (a b : ℕ) (hb : 0 < b) :
    CutFrom (.ofMantissaAndAccuracy (a / b) (accuracyOfFraction (a % b) b)) (a / b) := by
  have hpos : (0 : ℚ) < b := Nat.cast_pos.2 hb
  have hquotient : (a : ℚ) / b = (a / b : ℕ) + (a % b : ℕ) / b := by
    have hdiv : (a : ℚ) = b * (a / b : ℕ) + (a % b : ℕ) := by
      exact_mod_cast (Nat.div_add_mod a b).symm
    field_simp
    linarith
  rw [hquotient, accuracyOfFraction]
  by_cases hzero : a % b = 0
  · rw [if_pos hzero, hzero, Nat.cast_zero, zero_div, add_zero]
    exact exact _
  · have hrest : (0 : ℚ) < (a % b : ℕ) := Nat.cast_pos.2 (Nat.pos_of_ne_zero hzero)
    have hless : ((a % b : ℕ) : ℚ) < b := Nat.cast_lt.2 (Nat.mod_lt a hb)
    have hcompare : compare (2 * (a % b)) b = compare (((a % b : ℕ) : ℚ) / b) (1 / 2) := by
      refine Binary.compare_eq_of_scaled (c := 2 * b) (by positivity) ?_ ?_
      · field_simp
        push_cast
        ring
      · field_simp
    rw [if_neg hzero, hcompare]
    exact inexact _ (div_pos hrest hpos) ((div_lt_one hpos).2 hless)

end CutFrom

/-! The nearest integer -/

/-- An integer nearest to a number. Of two it is the even one. -/
structure Nearest (y : ℚ) (r : ℕ) : Prop where
  low : r - 1 / 2 ≤ y
  high : y ≤ r + 1 / 2
  strict : r % 2 = 1 → r - 1 / 2 < y ∧ y < r + 1 / 2

theorem Nearest.le {r r' : ℕ} (h : Nearest y r) (h' : Nearest y r') : r ≤ r' := by
  by_contra hlt
  rw [not_le] at hlt
  have hlow := h.low
  have hhigh := h'.high
  have hnext : (r' : ℚ) + 1 ≤ r := by exact_mod_cast hlt
  have hr : (r : ℚ) = r' + 1 := by linarith
  have hsucc : r = r' + 1 := by exact_mod_cast hr
  rcases Nat.mod_two_eq_zero_or_one r with heven | hodd
  · have hodd' : r' % 2 = 1 := by omega
    have hstrict := (h'.strict hodd').2
    linarith
  · have hstrict := (h.strict hodd).1
    linarith

theorem Nearest.eq {r r' : ℕ} (h : Nearest y r) (h' : Nearest y r') : r = r' :=
  Nat.le_antisymm (h.le h') (h'.le h)

theorem CutFrom.nearest (h : CutFrom em y) : Nearest y em.roundedMantissa := by
  obtain ⟨m, round, sticky⟩ := em
  obtain ⟨hlow, hhigh, hexact⟩ := h
  cases round with
  | false =>
    rw [kept_false] at hlow hhigh
    have hrounded : ExtendedMantissa.roundedMantissa ⟨m, false, sticky⟩ = m := by
      cases sticky <;> rfl
    rw [hrounded]
    exact ⟨by linarith, by linarith, fun _ => ⟨by linarith, by linarith⟩⟩
  | true =>
    rw [kept_true] at hlow hhigh hexact
    cases sticky with
    | true =>
      change Nearest y (m + 1)
      have hne : y ≠ m + 1 / 2 := fun hy => by simpa using hexact.2 hy
      have hlt : (m : ℚ) + 1 / 2 < y := lt_of_le_of_ne hlow hne.symm
      refine ⟨?_, ?_, fun _ => ⟨?_, ?_⟩⟩
      all_goals
        push_cast
        linarith
    | false =>
      change Nearest y (m + m % 2)
      have hy : y = m + 1 / 2 := hexact.1 rfl
      rcases Nat.mod_two_eq_zero_or_one m with heven | hodd
      · rw [heven, add_zero]
        exact ⟨by linarith, by linarith, fun h => by omega⟩
      · rw [hodd]
        refine ⟨?_, ?_, fun h => by omega⟩
        · push_cast
          linarith
        · push_cast
          linarith

/-! Floating-point numbers -/

/-- A positive floating-point number in its one form. -/
structure Binary.Canonical (x : Binary) : Prop where
  pos : 0 < x.mantissa
  mantissa_lt : x.mantissa < 2 ^ 53
  exponent_ge : -1074 ≤ x.exponent
  normal : 2 ^ 52 ≤ x.mantissa ∨ x.exponent = -1074
  closeBelow_iff : x.closeBelow = true ↔ x.mantissa = 2 ^ 52 ∧ -1074 < x.exponent

/-- The exponent that a mantissa is shifted to. -/
theorem targetExponent_eq (m : ℕ) (e : ℤ) :
    Format.binary64.targetExponent (totalExponent m e) = max (m.log2 + e - 52) (-1074) := by
  simp only [Format.targetExponent, totalExponent, Format.mantissaBits, Format.minExponent]
  norm_num
  omega

/-- Shifting to an exponent that is not smaller cuts off from the same number. -/
theorem CutFrom.shift (h : CutFrom (.ofMantissaAndAccuracy m accuracy) (q / 2 ^ e))
    (hle : e ≤ max (m.log2 + e - 52) (-1074)) :
    ∃ em, shiftToTargetExponent .binary64 m e accuracy =
        (em, max ((m.log2 : ℤ) + e - 52) (-1074)) ∧
      CutFrom em (q / 2 ^ max ((m.log2 : ℤ) + e - 52) (-1074)) := by
  generalize htarget : max ((m.log2 : ℤ) + e - 52) (-1074) = target at hle ⊢
  have hsum : e + ((target - e).toNat : ℤ) = target := by omega
  refine ⟨ExtendedMantissa.ofMantissaAndAccuracy m accuracy >>> (target - e).toNat, ?_, ?_⟩
  · rw [shiftToTargetExponent, targetExponent_eq, htarget, shiftToExponent, hsum]
  · have hscale : q / 2 ^ target = q / 2 ^ e / 2 ^ (target - e).toNat := by
      rw [div_div, ← zpow_natCast, ← zpow_add₀ two_ne_zero, hsum]
    rw [hscale]
    exact h.shiftRight _

/-- A mantissa that fits is not shifted. -/
theorem shift_of_lt (hm : m < 2 ^ 53) (he : -1074 ≤ e) :
    shiftToTargetExponent .binary64 m e .exact = (⟨m, false, false⟩, e) := by
  have hlog : m.log2 ≤ 52 := by
    rcases Nat.eq_zero_or_pos m with rfl | hpos
    · simp
    · have := (Nat.log2_lt hpos.ne').2 hm
      omega
  have hshift : (max ((m.log2 : ℤ) + e - 52) (-1074) - e).toNat = 0 := by omega
  rw [shiftToTargetExponent, targetExponent_eq, shiftToExponent, hshift]
  exact Prod.ext rfl (add_zero e)

/-- A mantissa that has grown by one digit is halved. -/
theorem shift_two_pow (he : -1074 ≤ e) :
    shiftToTargetExponent .binary64 (2 ^ 53) e .exact = (⟨2 ^ 52, false, false⟩, e + 1) := by
  have hshift : (max (((2 ^ 53 : ℕ).log2 : ℤ) + e - 52) (-1074) - e).toNat = 1 := by
    rw [Nat.log2_two_pow]
    omega
  rw [shiftToTargetExponent, targetExponent_eq, shiftToExponent, hshift]
  rfl

/-- The power of two below a number in units of a place. -/
theorem CutFrom.log2_bounds (h : CutFrom (.ofMantissaAndAccuracy m accuracy) (q / 2 ^ e)) :
    (m ≠ 0 → (2 : ℚ) ^ (m.log2 + e) ≤ q) ∧ q < 2 ^ (m.log2 + e + 1) := by
  have hmantissa : (ExtendedMantissa.ofMantissaAndAccuracy m accuracy).mantissa = m := by
    cases accuracy with
    | exact => rfl
    | inexact o => cases o <;> rfl
  have hscale : (0 : ℚ) < 2 ^ e := by positivity
  have hle := h.mantissa_le
  have hlt := h.lt_mantissa_add_one
  rw [hmantissa, le_div_iff₀ hscale] at hle
  rw [hmantissa, div_lt_iff₀ hscale] at hlt
  constructor
  · intro hne
    have hpow : ((2 ^ m.log2 : ℕ) : ℚ) ≤ m := Nat.cast_le.2 (Nat.log2_self_le hne)
    rw [zpow_add₀ two_ne_zero, zpow_natCast]
    push_cast at hpow
    exact (mul_le_mul_of_nonneg_right hpow hscale.le).trans hle
  · have hpow : ((m + 1 : ℕ) : ℚ) ≤ (2 ^ (m.log2 + 1) : ℕ) := Nat.cast_le.2 Nat.lt_log2_self
    rw [add_right_comm, zpow_add₀ two_ne_zero, ← Nat.cast_succ, zpow_natCast]
    push_cast at hpow ⊢
    exact hlt.trans_le (mul_le_mul_of_nonneg_right hpow hscale.le)

namespace Binary

theorem halfBelow_le (x : Binary) : x.halfBelow ≤ 1 / 2 := by
  rw [halfBelow]
  split <;> norm_num

theorem Near.nearest (h : x.Near q) : Nearest (q / 2 ^ x.exponent) x.mantissa := by
  have hscale : (0 : ℚ) < 2 ^ x.exponent := by positivity
  have hhalf := halfBelow_le x
  obtain ⟨habove, hbelow, hstrict⟩ := h
  rw [← le_div_iff₀ hscale] at habove
  rw [← div_le_iff₀ hscale] at hbelow
  refine ⟨by linarith, hbelow, fun hodd => ?_⟩
  obtain ⟨habove, hbelow⟩ := hstrict hodd
  rw [← lt_div_iff₀ hscale] at habove
  rw [← div_lt_iff₀ hscale] at hbelow
  exact ⟨by linarith, hbelow⟩

theorem Near.lt (h : x.Near q) (hx : x.Canonical) : q < 2 ^ (x.exponent + 53) := by
  have hscale : (0 : ℚ) < 2 ^ x.exponent := by positivity
  have hmantissa : (x.mantissa : ℚ) + 1 ≤ 2 ^ 53 := by exact_mod_cast hx.mantissa_lt
  have hbelow := h.below
  rw [zpow_add₀ two_ne_zero]
  nlinarith

/-- A number near a power of two may lie below it, where the places are half as wide. -/
theorem Near.below_two_pow (h : x.Near q) (hx : x.Canonical) (he : -1074 < x.exponent)
    (hq : q < 2 ^ (x.exponent + 52)) :
    x.mantissa = 2 ^ 52 ∧ (2 ^ 52 - 1 / 4) * 2 ^ x.exponent ≤ q := by
  have hscale : (0 : ℚ) < 2 ^ x.exponent := by positivity
  have hhalf := halfBelow_le x
  have habove := h.above
  have hlarge : 2 ^ 52 ≤ x.mantissa := hx.normal.resolve_right (by omega)
  rw [zpow_add₀ two_ne_zero] at hq
  have hmantissa : x.mantissa = 2 ^ 52 := by
    by_contra hne
    have hmore : (2 : ℚ) ^ 52 + 1 ≤ x.mantissa := by
      exact_mod_cast Nat.lt_of_le_of_ne hlarge (Ne.symm hne)
    nlinarith
  have hclose : x.closeBelow = true := hx.closeBelow_iff.2 ⟨hmantissa, he⟩
  rw [hmantissa, halfBelow, if_pos hclose] at habove
  exact ⟨hmantissa, by exact_mod_cast habove⟩

/-- A number near another one is shifted to the same exponent, or to the next smaller one. -/
theorem Near.target (hq : x.Near q) (hx : x.Canonical)
    (h : CutFrom (.ofMantissaAndAccuracy m accuracy) (q / 2 ^ e))
    (hle : e ≤ max (m.log2 + e - 52) (-1074)) :
    max ((m.log2 : ℤ) + e - 52) (-1074) = x.exponent ∨
      max ((m.log2 : ℤ) + e - 52) (-1074) = x.exponent - 1 ∧ -1074 < x.exponent ∧
        q < 2 ^ (x.exponent + 52) := by
  have hge := hx.exponent_ge
  obtain ⟨hlow, hhigh⟩ := h.log2_bounds
  have hless : ∀ i : ℤ, -1074 ≤ i → q < 2 ^ (i + 53) → max ((m.log2 : ℤ) + e - 52) (-1074) ≤ i := by
    intro i hi hqi
    by_cases hm : m = 0
    · subst hm
      simp only [Nat.log2_zero, Nat.cast_zero, zero_add] at hle ⊢
      omega
    · have hpow : m.log2 + e < i + 53 :=
        (zpow_lt_zpow_iff_right₀ one_lt_two).1 ((hlow hm).trans_lt hqi)
      omega
  have hmore : ∀ i : ℤ, (2 : ℚ) ^ (i + 52) ≤ q → i ≤ max ((m.log2 : ℤ) + e - 52) (-1074) := by
    intro i hqi
    have hpow : i + 52 < m.log2 + e + 1 :=
      (zpow_lt_zpow_iff_right₀ one_lt_two).1 (hqi.trans_lt hhigh)
    omega
  have hupper := hless x.exponent hge (hq.lt hx)
  by_cases hmin : x.exponent = -1074
  · left
    omega
  · have hlarge : -1074 < x.exponent := by omega
    by_cases hbelow : q < 2 ^ (x.exponent + 52)
    · right
      have hscale : (0 : ℚ) < 2 ^ x.exponent := by positivity
      have hpow : (2 : ℚ) ^ (x.exponent - 1 + 52) ≤ q := by
        obtain ⟨_, hclose⟩ := hq.below_two_pow hx hlarge hbelow
        rw [show x.exponent - 1 + 52 = x.exponent + 51 by omega, zpow_add₀ two_ne_zero]
        nlinarith
      have hlower := hmore (x.exponent - 1) hpow
      have hupper' := hless (x.exponent - 1) (by omega)
        (by rwa [show x.exponent - 1 + 53 = x.exponent + 52 by omega])
      exact ⟨by omega, hlarge, hbelow⟩
    · left
      have hlower := hmore x.exponent (not_lt.1 hbelow)
      omega

/-- A number near a floating-point number is rounded to it. -/
theorem Near.round (hq : x.Near q) (hx : x.Canonical)
    (h : CutFrom (.ofMantissaAndAccuracy m accuracy) (q / 2 ^ e))
    (hle : e ≤ max (m.log2 + e - 52) (-1074)) :
    roundWithAccuracy .binary64 sign m e accuracy = .finite sign x.mantissa x.exponent hx.pos := by
  obtain ⟨em, hshift, hcut⟩ := h.shift hle
  rcases hq.target hx h hle with htarget | ⟨htarget, hlarge, hbelow⟩
  · rw [htarget] at hshift hcut
    have hmantissa : em.roundedMantissa = x.mantissa := hcut.nearest.eq hq.nearest
    rw [roundWithAccuracy, hshift]
    simp only [hmantissa, shift_of_lt hx.mantissa_lt hx.exponent_ge, hx.pos.ne', dite_false]
  · rw [htarget] at hshift hcut
    obtain ⟨hmantissa, habove⟩ := hq.below_two_pow hx hlarge hbelow
    have hscale : (0 : ℚ) < 2 ^ (x.exponent - 1) := by positivity
    have hdouble : (2 : ℚ) ^ x.exponent = 2 * 2 ^ (x.exponent - 1) := by
      rw [← zpow_one_add₀ two_ne_zero, add_sub_cancel]
    have hnearest : Nearest (q / 2 ^ (x.exponent - 1)) (2 ^ 53) := by
      rw [hdouble] at habove
      rw [zpow_add₀ two_ne_zero, hdouble] at hbelow
      refine ⟨?_, ?_, fun hodd => by simp at hodd⟩
      · rw [le_div_iff₀ hscale]
        push_cast
        linarith
      · rw [div_le_iff₀ hscale]
        push_cast
        linarith
    have hrounded : em.roundedMantissa = 2 ^ 53 := hcut.nearest.eq hnearest
    rw [roundWithAccuracy, hshift]
    simp only [hrounded, shift_two_pow (show -1074 ≤ x.exponent - 1 by omega), hmantissa]
    simp

section
variable {m₁ m₂ : ℕ} {e₁ e₂ : ℤ} {sign₁ sign₂ : Sign}

/-- A product with enough digits is rounded once. -/
theorem Near.mul (hq : x.Near (m₁ * 2 ^ e₁ * (m₂ * 2 ^ e₂))) (hx : x.Canonical) (h₁ : 0 < m₁)
    (h₂ : 0 < m₂) (hlarge : 2 ^ 52 ≤ m₁ * m₂) :
    mul .binary64 (.finite sign₁ m₁ e₁ h₁) (.finite sign₂ m₂ e₂ h₂) =
      .finite (sign₁ * sign₂) x.mantissa x.exponent hx.pos := by
  have hscale : (2 : ℚ) ^ (e₁ + e₂) ≠ 0 := by positivity
  have hproduct : (m₁ : ℚ) * 2 ^ e₁ * (m₂ * 2 ^ e₂) / 2 ^ (e₁ + e₂) = (m₁ * m₂ : ℕ) := by
    rw [div_eq_iff hscale, zpow_add₀ two_ne_zero]
    push_cast
    ring
  have hcut : CutFrom (.ofMantissaAndAccuracy (m₁ * m₂) .exact)
      (m₁ * 2 ^ e₁ * (m₂ * 2 ^ e₂) / 2 ^ (e₁ + e₂)) := by
    rw [hproduct]
    exact .exact _
  have hlog : 52 ≤ (m₁ * m₂).log2 := (Nat.le_log2 (Nat.mul_pos h₁ h₂).ne').2 hlarge
  exact hq.round hx hcut (by omega)

/-- The exponent of a quotient is small enough for a mantissa of full length. -/
theorem divCore_bits (h₁ : 0 < m₁) (h₂ : 0 < m₂) {t : ℤ} (ht : t ≤ e₁ - e₂)
    (htarget : t ≤ max ((m₁.log2 : ℤ) - m₂.log2 + (e₁ - e₂) - 53) (-1074)) :
    t ≤ max (((m₁ * 2 ^ (e₁ - e₂ - t).toNat / m₂).log2 : ℤ) + t - 52) (-1074) := by
  by_cases hmin : t ≤ -1074
  · omega
  · have hdigits : m₂.log2 + 53 ≤ m₁.log2 + (e₁ - e₂ - t).toNat := by omega
    have hquotient : 2 ^ 52 ≤ m₁ * 2 ^ (e₁ - e₂ - t).toNat / m₂ := by
      rw [Nat.le_div_iff_mul_le h₂]
      calc 2 ^ 52 * m₂ ≤ 2 ^ 52 * 2 ^ (m₂.log2 + 1) :=
            Nat.mul_le_mul_left _ Nat.lt_log2_self.le
        _ = 2 ^ (m₂.log2 + 53) := by rw [← pow_add]; congr 1; omega
        _ ≤ 2 ^ (m₁.log2 + (e₁ - e₂ - t).toNat) := Nat.pow_le_pow_right two_pos hdigits
        _ = 2 ^ m₁.log2 * 2 ^ (e₁ - e₂ - t).toNat := pow_add _ _ _
        _ ≤ m₁ * 2 ^ (e₁ - e₂ - t).toNat :=
            Nat.mul_le_mul_right _ (Nat.log2_self_le h₁.ne')
    have hlog : 52 ≤ (m₁ * 2 ^ (e₁ - e₂ - t).toNat / m₂).log2 :=
      (Nat.le_log2 (Nat.ne_of_gt (lt_of_lt_of_le (by positivity) hquotient))).2 hquotient
    omega

theorem Near.div (hq : x.Near (m₁ * 2 ^ e₁ / (m₂ * 2 ^ e₂))) (hx : x.Canonical) (h₁ : 0 < m₁)
    (h₂ : 0 < m₂) :
    div .binary64 (.finite sign₁ m₁ e₁ h₁) (.finite sign₂ m₂ e₂ h₂) =
      .finite (sign₁ / sign₂) x.mantissa x.exponent hx.pos := by
  generalize htarget : min (e₁ - e₂) (Format.binary64.targetExponent
    (totalExponent m₁ e₁ - totalExponent m₂ e₂)) = t
  have hcore : divCore .binary64 m₁ e₁ m₂ e₂ = (m₁ * 2 ^ (e₁ - e₂ - t).toNat / m₂, t,
      accuracyOfFraction (m₁ * 2 ^ (e₁ - e₂ - t).toNat % m₂) m₂) := by
    simp only [divCore, htarget, Nat.shiftLeft_eq]
  have hle : t ≤ e₁ - e₂ := by omega
  have hbits : t ≤ max ((m₁.log2 : ℤ) - m₂.log2 + (e₁ - e₂) - 53) (-1074) := by
    simp only [Format.targetExponent, totalExponent, Format.mantissaBits, Format.minExponent]
      at htarget
    norm_num at htarget
    omega
  have hquotient : (m₁ : ℚ) * 2 ^ e₁ / (m₂ * 2 ^ e₂) / 2 ^ t =
      ((m₁ * 2 ^ (e₁ - e₂ - t).toNat : ℕ) : ℚ) / m₂ := by
    have hshift : (2 : ℚ) ^ (e₁ - e₂ - t).toNat = 2 ^ e₁ / (2 ^ e₂ * 2 ^ t) := by
      rw [← zpow_natCast, Int.toNat_of_nonneg (by omega), zpow_sub₀ two_ne_zero,
        zpow_sub₀ two_ne_zero, div_div]
    push_cast
    rw [hshift]
    field_simp
  have hcut := CutFrom.div (m₁ * 2 ^ (e₁ - e₂ - t).toNat) m₂ h₂
  rw [← hquotient] at hcut
  rw [UnpackedFloat.div, hcore]
  exact hq.round hx hcut (divCore_bits h₁ h₂ hle hbits)

end

end Binary

end FlowTalk
