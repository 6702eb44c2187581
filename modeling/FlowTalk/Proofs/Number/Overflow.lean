import FlowTalk.Flow.Position
import FlowTalk.Proofs.Number.Scientific

/-! Which integers are too large for a floating-point number. -/
namespace FlowTalk
open Float.Model Float.Model.UnpackedFloat

variable {x : Binary} {q : ℚ} {m : ℕ} {sign : Sign}

namespace Binary

/-- A floating-point number is small enough exactly if what is rounded to it lies below the half-way
point after the largest finite one. -/
theorem Near.exponent_le_iff (hq : x.Near q) (hx : x.Canonical) :
    x.exponent ≤ 971 ↔ q < 2 ^ (1024 : ℤ) - 2 ^ (970 : ℤ) := by
  have hunit : (0 : ℚ) < 2 ^ (970 : ℤ) := by positivity
  have htop : (2 : ℚ) ^ (1024 : ℤ) - 2 ^ (970 : ℤ) = (2 ^ 53 - 1 / 2) * (2 * 2 ^ (970 : ℤ)) := by
    have hdouble : (2 : ℚ) ^ (54 : ℤ) = 2 * 2 ^ 53 := by norm_num
    rw [show (1024 : ℤ) = 54 + 970 by norm_num, zpow_add₀ two_ne_zero, hdouble]
    ring
  rw [htop]
  constructor
  · intro he
    have hscale : (2 : ℚ) ^ x.exponent ≤ 2 * 2 ^ (970 : ℤ) := by
      rw [← zpow_one_add₀ two_ne_zero]
      exact zpow_le_zpow_right₀ one_le_two (by omega)
    have hlt := hx.mantissa_lt
    have hmantissa : (x.mantissa : ℚ) + 1 ≤ 2 ^ 53 := by exact_mod_cast hlt
    -- the largest mantissa is odd, so its upper half-way point is not rounded to it
    have hbelow : q < (2 ^ 53 - 1 / 2) * 2 ^ x.exponent := by
      rcases Nat.mod_two_eq_zero_or_one x.mantissa with heven | hodd
      · have hless : (x.mantissa : ℚ) + 2 ≤ 2 ^ 53 := by
          exact_mod_cast (by omega : x.mantissa + 2 ≤ 2 ^ 53)
        exact hq.below.trans_lt (mul_lt_mul_of_pos_right (by linarith) (by positivity))
      · exact (hq.strict hodd).2.trans_le
          (mul_le_mul_of_nonneg_right (by linarith) (by positivity))
    exact hbelow.trans_le (mul_le_mul_of_nonneg_left hscale (by norm_num))
  · intro hlt
    by_contra hlarge
    have hscale : 2 * (2 * 2 ^ (970 : ℤ)) ≤ (2 : ℚ) ^ x.exponent := by
      rw [← zpow_one_add₀ two_ne_zero, ← zpow_one_add₀ two_ne_zero]
      exact zpow_le_zpow_right₀ one_le_two (by omega)
    have hmantissa : 2 ^ 52 ≤ x.mantissa := hx.normal.resolve_right (by omega)
    have habove : (2 : ℚ) ^ 52 - 1 / 4 ≤ x.mantissa - x.halfBelow := by
      rcases Nat.eq_or_lt_of_le hmantissa with heq | hmore
      · have hclose : x.closeBelow = true := hx.closeBelow_iff.2 ⟨heq.symm, by omega⟩
        rw [halfBelow, if_pos hclose, ← heq]
        norm_num
      · have hmore' : (2 : ℚ) ^ 52 + 1 ≤ x.mantissa := by exact_mod_cast hmore
        have hhalf := halfBelow_le x
        linarith
    have hge : (2 ^ 53 - 1 / 2) * (2 * 2 ^ (970 : ℤ)) ≤ q := by
      calc (2 ^ 53 - 1 / 2) * (2 * 2 ^ (970 : ℤ))
          = ((2 : ℚ) ^ 52 - 1 / 4) * (2 * (2 * 2 ^ (970 : ℤ))) := by ring
        _ ≤ (x.mantissa - x.halfBelow) * 2 ^ x.exponent :=
            mul_le_mul habove hscale (by positivity) (by linarith)
        _ ≤ q := hq.above
    linarith

/-- A natural number that is rounded to a whole mantissa below the next power of two. -/
theorem near_of_nearest {e r : ℕ} (hr : 2 ^ 52 ≤ r) (hless : r < 2 ^ 53)
    (hlow : (2 : ℚ) ^ 52 * 2 ^ (e : ℤ) ≤ m) (habove : ((r : ℚ) - 1 / 2) * 2 ^ (e : ℤ) ≤ m)
    (hbelow : (m : ℚ) ≤ (r + 1 / 2) * 2 ^ (e : ℤ))
    (hstrict : r % 2 = 1 →
      ((r : ℚ) - 1 / 2) * 2 ^ (e : ℤ) < m ∧ (m : ℚ) < (r + 1 / 2) * 2 ^ (e : ℤ)) :
    ∃ x : Binary, x.Canonical ∧ x.Near m := by
  have hexponent : (-1074 : ℤ) < e := by omega
  have hclose : (r == 2 ^ 52) = true ↔ r = 2 ^ 52 ∧ (-1074 : ℤ) < e := by
    rw [beq_iff_eq, and_iff_left hexponent]
  have hcanonical : (⟨r, e, r == 2 ^ 52⟩ : Binary).Canonical :=
    ⟨lt_of_lt_of_le (by norm_num) hr, hless, hexponent.le, Or.inl hr, hclose⟩
  by_cases hpower : r = 2 ^ 52
  · have hquarter : halfBelow ⟨r, e, r == 2 ^ 52⟩ = 1 / 4 := by
      rw [halfBelow, if_pos (beq_iff_eq.2 hpower)]
    have hcast : (r : ℚ) = 2 ^ 52 := by rw [hpower]; norm_num
    have hplace : (0 : ℚ) < 2 ^ (e : ℤ) := by positivity
    refine ⟨_, hcanonical, ?_, hbelow, fun hodd => ?_⟩
    · rw [hquarter, hcast]
      linarith
    · rw [hpower] at hodd
      norm_num at hodd
  · have hhalf : halfBelow ⟨r, e, r == 2 ^ 52⟩ = 1 / 2 := by
      rw [halfBelow, if_neg (mt beq_iff_eq.1 hpower)]
    refine ⟨_, hcanonical, ?_, hbelow, fun hodd => ?_⟩
    · rwa [hhalf]
    · rw [hhalf]
      exact hstrict hodd

/-- A natural number that is rounded up to the next power of two. -/
theorem near_of_power {e : ℕ} (habove : ((2 : ℚ) ^ 53 - 1 / 2) * 2 ^ (e : ℤ) ≤ m)
    (hhigh : (m : ℚ) < 2 ^ 53 * 2 ^ (e : ℤ)) : ∃ x : Binary, x.Canonical ∧ x.Near m := by
  have hplace : (0 : ℚ) < 2 ^ (e : ℤ) := by positivity
  have hexponent : (-1074 : ℤ) < e + 1 := by omega
  have hdouble : (2 : ℚ) ^ ((e : ℤ) + 1) = 2 * 2 ^ (e : ℤ) := by
    rw [add_comm, zpow_one_add₀ two_ne_zero]
  have hquarter : halfBelow ⟨2 ^ 52, e + 1, true⟩ = 1 / 4 := if_pos rfl
  have hcast : ((2 ^ 52 : ℕ) : ℚ) = 2 ^ 52 := by norm_num
  refine ⟨⟨2 ^ 52, e + 1, true⟩, ⟨by norm_num, by norm_num, hexponent.le, Or.inl le_rfl,
    ⟨fun _ => ⟨rfl, hexponent⟩, fun _ => rfl⟩⟩, ?_, ?_, fun hodd => ?_⟩
  · rw [hquarter, hdouble, hcast]
    linarith
  · rw [hdouble, hcast]
    linarith
  · norm_num at hodd

/-- The first 53 binary digits of a natural number that has more of them. -/
theorem log2_bounds {e : ℕ} (hm : 0 < m) (he : m.log2 = e + 52) :
    (2 : ℚ) ^ 52 * 2 ^ e ≤ m ∧ (m : ℚ) < 2 ^ 53 * 2 ^ e := by
  have hlow : 2 ^ 52 * 2 ^ e ≤ m := by
    rw [← pow_add, add_comm, ← he]
    exact Nat.log2_self_le hm.ne'
  have hhigh : m < 2 ^ 53 * 2 ^ e := by
    rw [← pow_add, show 53 + e = m.log2 + 1 by omega]
    exact Nat.lt_log2_self
  exact ⟨by exact_mod_cast hlow, by exact_mod_cast hhigh⟩

theorem exists_near_of_large (hm : 2 ^ 53 ≤ m) : ∃ x : Binary, x.Canonical ∧ x.Near m := by
  have hpos : 0 < m := lt_of_lt_of_le (by norm_num) hm
  have hlog : 53 ≤ m.log2 := (Nat.le_log2 hpos.ne').2 hm
  obtain ⟨e, he⟩ : ∃ e : ℕ, m.log2 = e + 52 := ⟨m.log2 - 52, by omega⟩
  obtain ⟨hlow, hhigh⟩ := log2_bounds hpos he
  have hcut := (CutFrom.div m (2 ^ e) (by positivity)).nearest
  generalize (ExtendedMantissa.ofMantissaAndAccuracy (m / 2 ^ e)
    (accuracyOfFraction (m % 2 ^ e) (2 ^ e))).roundedMantissa = r at hcut
  have hscale : (0 : ℚ) < 2 ^ e := by positivity
  have hcast : ((2 ^ e : ℕ) : ℚ) = 2 ^ e := Nat.cast_pow 2 e
  rw [hcast] at hcut
  obtain ⟨habove, hbelow, hstrict⟩ := hcut
  have hr : 2 ^ 52 ≤ r := by
    have hlow' : (2 : ℚ) ^ 52 ≤ m / 2 ^ e := (le_div_iff₀ hscale).2 hlow
    have hless : (2 : ℚ) ^ 52 < r + 1 := by linarith
    exact_mod_cast Nat.lt_succ_iff.1 (by exact_mod_cast hless)
  have hr' : r ≤ 2 ^ 53 := by
    have hhigh' : (m : ℚ) / 2 ^ e < 2 ^ 53 := (div_lt_iff₀ hscale).2 hhigh
    have hless : (r : ℚ) < 2 ^ 53 + 1 := by linarith
    exact_mod_cast Nat.lt_succ_iff.1 (by exact_mod_cast hless)
  rw [le_div_iff₀ hscale] at habove
  rw [div_le_iff₀ hscale] at hbelow
  rw [lt_div_iff₀ hscale, div_lt_iff₀ hscale] at hstrict
  rw [← zpow_natCast] at habove hbelow hstrict hlow hhigh
  rcases Nat.lt_or_eq_of_le hr' with hless | hpower
  · exact near_of_nearest hr hless hlow habove hbelow hstrict
  · have hcast : (r : ℚ) = 2 ^ 53 := by rw [hpower]; norm_num
    rw [hcast] at habove
    exact near_of_power habove hhigh

/-- Every natural number but zero is rounded to some number. -/
theorem exists_near (hm : 0 < m) : ∃ x : Binary, x.Canonical ∧ x.Near m := by
  rcases Nat.lt_or_ge m (2 ^ 53) with hsmall | hlarge
  · have hx := finite_ofNatural hm hsmall
    have hself := near_self (ofNatural m)
    rw [ofNatural_value hm hsmall] at hself
    exact ⟨_, hx.toCanonical, hself⟩
  · exact exists_near_of_large hlarge

theorem isInf_toFloat (hx : x.Finite) (sign : Sign) : (x.toFloat hx sign).isInf = false := by
  change (x.toFloat hx sign).toModel.unpack.isInf = false
  rw [unpack_toFloat]
  rfl

/-- A number that is too large is packed into the bits of infinity. -/
theorem pack_large (hx : x.Canonical) (he : 971 < x.exponent) :
    Float.Model.pack (.finite sign x.mantissa x.exponent hx.pos) =
      Float.Model.pack (.infinity sign) := by
  have hbias : x.exponent + (Format.binary64.exponentBias : ℕ) +
      (Format.binary64.mantissaBitsWithoutImplicit : ℕ) = x.exponent + 1075 := by
    change x.exponent + ((1023 : ℕ) : ℤ) + ((52 : ℕ) : ℤ) = _
    omega
  have hbits : UnpackedFloat.pack .binary64 (.finite sign x.mantissa x.exponent hx.pos) =
      UnpackedFloat.pack .binary64 (.infinity sign) := by
    simp only [UnpackedFloat.pack, hbias]
    rw [if_pos (show 2 ^ 11 ≤ (x.exponent + 1075).toNat + 1 by omega)]
  simp only [Float.Model.pack, hbits]

theorem ofScientific_large (hx : x.Canonical) (he : 971 < x.exponent) (hm : 2 ^ 53 ≤ m)
    (hq : x.Near m) : (Float.ofScientific m false 0).isInf = true := by
  have hpos : 0 < m := lt_of_lt_of_le (by norm_num) hm
  have hq' : x.Near (m * 10 ^ (0 : ℤ)) := by rwa [zpow_zero, mul_one]
  have hslow : Float.ofScientific m false 0 = .ofModel (.pack (.infinity .positive)) := by
    rw [Float.ofScientific, dif_neg fun h => absurd h.1 (Nat.not_lt.2 hm)]
    change Float.ofModel (Float.Model.ofScientific m 0) = _
    rw [Float.Model.ofScientific, hq'.modelScientific hx hpos (by omega) (by omega)]
    exact congrArg Float.ofModel (pack_large hx he)
  rw [hslow]
  rfl

end Binary

namespace Number

/-- The half-way point after the largest finite floating-point number. An integer from here on has
none near it. -/
def bound : ℕ := 2 ^ 1024 - 2 ^ 970

theorem cast_bound : (bound : ℚ) = 2 ^ (1024 : ℤ) - 2 ^ (970 : ℤ) := by
  have hle : 2 ^ 970 ≤ 2 ^ 1024 := pow_le_pow_right₀ one_le_two (by omega)
  rw [bound, Nat.cast_sub hle, Nat.cast_pow, Nat.cast_pow, Nat.cast_ofNat, zpow_ofNat, zpow_ofNat]

theorem pow_le_bound : 2 ^ 53 ≤ bound := by
  have hdouble : ∀ k : ℕ, 2 ^ k + 2 ^ k = 2 ^ (k + 1) := fun k => by rw [pow_succ, mul_two]
  have htop : 2 ^ 970 + 2 ^ 970 ≤ 2 ^ 1024 :=
    (hdouble 970).trans_le (pow_le_pow_right₀ one_le_two (by omega))
  have hpow : 2 ^ 53 ≤ 2 ^ 970 := pow_le_pow_right₀ one_le_two (by omega)
  exact hpow.trans (Nat.le_sub_of_add_le htop)

theorem isInf_natural_iff (m : ℕ) : (Decimal.toFloat ⟨m, 0⟩).isInf = true ↔ bound ≤ m := by
  rcases Nat.eq_zero_or_pos m with rfl | hm
  · have hpos : 0 < bound := lt_of_lt_of_le (by norm_num) pow_le_bound
    exact iff_of_false (by decide +kernel) (by omega)
  · obtain ⟨x, hx, hq⟩ := Binary.exists_near hm
    have hiff := hq.exponent_le_iff hx
    rw [← cast_bound, Nat.cast_lt] at hiff
    by_cases he : x.exponent ≤ 971
    · have hvalue : x.Near (Decimal.value ⟨m, 0⟩) := by
        rwa [Decimal.value, zpow_zero, mul_one]
      rw [Binary.Near.decimal ⟨hx, he⟩ hvalue, Binary.isInf_toFloat]
      exact iff_of_false (by simp) (Nat.not_le.2 (hiff.1 he))
    · have hlarge : bound ≤ m := Nat.not_lt.1 (mt hiff.2 he)
      refine iff_of_true ?_ hlarge
      rw [Decimal.toFloat]
      by_cases hlong : 400 < ((Text.ofNat m).length : ℤ) + 0
      · simp only [hm.ne', hlong, false_or, if_true]
        rw [if_neg (by omega)]
        rfl
      · simp only [hm.ne', hlong, false_or, if_false]
        rw [if_neg (by omega)]
        exact Binary.ofScientific_large hx (Int.not_le.1 he) (pow_le_bound.trans hlarge) hq

/-- An integer has no finite floating-point number near it exactly from the half-way point on. -/
theorem ofIntNearest?_eq_none_iff (n : ℤ) : ofIntNearest? n = none ↔ bound ≤ n.natAbs := by
  rw [← isInf_natural_iff, ofIntNearest?]
  simp only [ite_eq_left_iff, Bool.not_eq_true, reduceCtorEq, imp_false, Bool.not_eq_false]

end Number

end FlowTalk
