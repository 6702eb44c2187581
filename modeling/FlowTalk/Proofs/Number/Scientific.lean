import FlowTalk.Number.Decimal
import FlowTalk.Proofs.Number.Bits

/-! A decimal number becomes the floating-point number that it is near to. -/
namespace FlowTalk
open Float.Model Float.Model.UnpackedFloat

variable {x : Binary} {q : ℚ} {d : Decimal} {m k : ℕ} {e : ℤ} {sign : Sign}

/-- A positive floating-point number in its one form, small enough to be one. -/
structure Binary.Finite (x : Binary) : Prop extends x.Canonical where
  exponent_le : x.exponent ≤ 971

namespace Binary

/-- The floating-point number with a sign, a mantissa and an exponent. -/
def toFloat (x : Binary) (hx : x.Finite) (sign : Sign) : Float :=
  .ofModel (.pack (.finite sign x.mantissa x.exponent hx.pos))

theorem unpack_toFloat (hx : x.Finite) (sign : Sign) : (x.toFloat hx sign).toModel.unpack =
    .finite sign x.mantissa x.exponent hx.pos :=
  unpack_pack hx.toCanonical hx.exponent_le sign

theorem neg_toFloat (hx : x.Finite) (sign : Sign) : -x.toFloat hx sign = x.toFloat hx (-sign) := by
  change Float.ofModel (.pack (UnpackedFloat.neg (x.toFloat hx sign).toModel.unpack)) = _
  rw [unpack_toFloat]
  rfl

/-- A number with the bits of a finite one. -/
theorem unpack_of_bits {y : Float} (hbits : y.toBits.toNat < 2 ^ 63)
    (h : ¬ isSpecial y.toBits.toNat) (hpos : 0 < (ofBits y.toBits.toNat).mantissa) :
    y.toModel.unpack = .finite .positive (ofBits y.toBits.toNat).mantissa
      (ofBits y.toBits.toNat).exponent hpos := by
  have hmod : y.toModel.toBits.toBitVec.toNat % 2 ^ 63 = y.toBits.toNat := Nat.mod_eq_of_lt hbits
  have hsign : signOf y.toModel.toBits.toBitVec = .positive := by
    rw [signOf_eq, if_neg]
    exact Nat.not_le.2 hbits
  have hunpack := unpack_of_not_special (v := y.toModel.toBits.toBitVec) h (by rwa [hmod])
  rw [hsign] at hunpack
  simp only [hmod] at hunpack
  exact hunpack

/-! Numbers that are floating-point numbers exactly -/

/-- A natural number of at most 53 binary digits with zeros after them. -/
def ofNatural (m : ℕ) : Binary :=
  ⟨m * 2 ^ (52 - m.log2), (m.log2 : ℤ) - 52, m * 2 ^ (52 - m.log2) = 2 ^ 52⟩

theorem ofNatural_bounds (hpos : 0 < m) (hm : m < 2 ^ 53) :
    m.log2 ≤ 52 ∧ 2 ^ 52 ≤ (ofNatural m).mantissa ∧ (ofNatural m).mantissa < 2 ^ 53 := by
  have hlog : m.log2 < 53 := (Nat.log2_lt hpos.ne').2 hm
  refine ⟨by omega, ?_, ?_⟩
  · calc 2 ^ 52 = 2 ^ m.log2 * 2 ^ (52 - m.log2) := by rw [← pow_add]; congr 1; omega
      _ ≤ m * 2 ^ (52 - m.log2) := Nat.mul_le_mul_right _ (Nat.log2_self_le hpos.ne')
  · calc m * 2 ^ (52 - m.log2) < 2 ^ (m.log2 + 1) * 2 ^ (52 - m.log2) :=
          Nat.mul_lt_mul_of_pos_right Nat.lt_log2_self (by positivity)
      _ = 2 ^ 53 := by rw [← pow_add]; congr 1; omega

theorem finite_ofNatural (hpos : 0 < m) (hm : m < 2 ^ 53) : (ofNatural m).Finite := by
  obtain ⟨hlog, hlow, hhigh⟩ := ofNatural_bounds hpos hm
  refine ⟨⟨by omega, hhigh, ?_, Or.inl hlow, ?_⟩, ?_⟩
  · change (-1074 : ℤ) ≤ (m.log2 : ℤ) - 52
    omega
  · have hexponent : (-1074 : ℤ) < (ofNatural m).exponent := by
      change (-1074 : ℤ) < (m.log2 : ℤ) - 52
      omega
    rw [and_iff_left hexponent]
    exact decide_eq_true_iff
  · change (m.log2 : ℤ) - 52 ≤ 971
    omega

theorem ofNatural_value (hpos : 0 < m) (hm : m < 2 ^ 53) :
    ((ofNatural m).mantissa : ℚ) * 2 ^ (ofNatural m).exponent = m := by
  obtain ⟨hlog, _, _⟩ := ofNatural_bounds hpos hm
  have hscale : (2 : ℚ) ^ (52 - m.log2) * 2 ^ ((m.log2 : ℤ) - 52) = 1 := by
    rw [← zpow_natCast, ← zpow_add₀ two_ne_zero, Nat.cast_sub hlog]
    simp
  change ((m * 2 ^ (52 - m.log2) : ℕ) : ℚ) * 2 ^ ((m.log2 : ℤ) - 52) = m
  push_cast
  rw [mul_assoc, hscale, mul_one]

/-- A number is rounded to itself. -/
theorem round_self (hx : x.Finite) (hbits : 2 ^ 52 ≤ x.mantissa) :
    roundWithAccuracy .binary64 sign x.mantissa x.exponent .exact =
      .finite sign x.mantissa x.exponent hx.pos := by
  have hscale : (2 : ℚ) ^ x.exponent ≠ 0 := by positivity
  have hcut : CutFrom (.ofMantissaAndAccuracy x.mantissa .exact)
      (x.mantissa * 2 ^ x.exponent / 2 ^ x.exponent) := by
    rw [mul_div_cancel_right₀ _ hscale]
    exact .exact _
  have hlog : 52 ≤ x.mantissa.log2 := (Nat.le_log2 hx.pos.ne').2 hbits
  exact (near_self x).round hx.toCanonical hcut (by omega)

theorem unpack_toUInt64 (hpos : 0 < m) (hm : m < 2 ^ 53) :
    m.toUInt64.toFloat.toModel.unpack = .finite .positive (ofNatural m).mantissa
      (ofNatural m).exponent (finite_ofNatural hpos hm).pos := by
  have hx := finite_ofNatural hpos hm
  obtain ⟨hlog, hlarge, _⟩ := ofNatural_bounds hpos hm
  have hnat : m.toUInt64.toNat = m := by
    rw [Nat.toUInt64_eq, UInt64.toNat_ofNat']
    omega
  have hshift : decreaseExponent m 0 (max ((m.log2 : ℤ) + 0 - 52) (-1074)) =
      ((ofNatural m).mantissa, (ofNatural m).exponent) := by
    have hsteps : (0 - max ((m.log2 : ℤ) + 0 - 52) (-1074)).toNat = 52 - m.log2 := by omega
    have hexponent : 0 - ((52 - m.log2 : ℕ) : ℤ) = (m.log2 : ℤ) - 52 := by omega
    rw [decreaseExponent, hsteps, Nat.shiftLeft_eq, hexponent]
    rfl
  have hround : UnpackedFloat.ofUInt64 .binary64 m.toUInt64 =
      .finite .positive (ofNatural m).mantissa (ofNatural m).exponent hx.pos := by
    have hsign : compare (m : ℤ) 0 = .gt := compare_gt_iff_gt.2 (by omega)
    rw [UnpackedFloat.ofUInt64, hnat, UnpackedFloat.ofNat, UnpackedFloat.ofInt,
      UnpackedFloat.normalize, hsign]
    simp only [Int.toNat_natCast, UnpackedFloat.round, targetExponent_eq, hshift]
    exact round_self hx hlarge
  change (Float.Model.pack (UnpackedFloat.ofUInt64 .binary64 m.toUInt64)).unpack = _
  rw [hround]
  exact unpack_pack hx.toCanonical hx.exponent_le .positive

/-- The powers of ten that are floating-point numbers. -/
def power (k : Fin 23) : Float := Float.exactlyRepresentablePowersOfTen[k.val]

def powerBits (k : Fin 23) : ℕ := (power k).toBits.toNat

theorem powerBits_exact : ∀ k : Fin 23, powerBits k < 2 ^ 63 ∧
    powerBits k / 2 ^ 52 % 2 ^ 11 ≠ 2047 ∧ 2 ^ 52 ≤ (ofBits (powerBits k)).mantissa ∧
    (ofBits (powerBits k)).mantissa * 2 ^ (ofBits (powerBits k)).exponent.toNat =
      10 ^ k.val * 2 ^ (-(ofBits (powerBits k)).exponent).toNat := by
  decide +kernel

theorem unpack_power (k : Fin 23) : ∃ x : Binary, ∃ hpos : 0 < x.mantissa,
    (power k).toModel.unpack = .finite .positive x.mantissa x.exponent hpos ∧
      2 ^ 52 ≤ x.mantissa ∧ (x.mantissa : ℚ) * 2 ^ x.exponent = 10 ^ k.val := by
  obtain ⟨hbits, hspecial, hlarge, hvalue⟩ := powerBits_exact k
  have hpos : 0 < (ofBits (powerBits k)).mantissa := lt_of_lt_of_le (by positivity) hlarge
  refine ⟨_, hpos, unpack_of_bits hbits hspecial hpos, hlarge, ?_⟩
  generalize (ofBits (powerBits k)).exponent = e at hvalue ⊢
  have hscale : (2 : ℚ) ^ (-e).toNat ≠ 0 := by positivity
  apply mul_right_cancel₀ hscale
  rw [mul_assoc, zpow_mul_pow_toNat two_ne_zero]
  exact_mod_cast hvalue

/-! Scientific notation -/

theorem Near.bounds (hq : x.Near q) (hx : x.Finite) :
    (2 : ℚ) ^ (-1075 : ℤ) ≤ q ∧ q < (2 : ℚ) ^ (1024 : ℤ) := by
  constructor
  · have hmantissa : (1 : ℚ) ≤ x.mantissa := by exact_mod_cast hx.pos
    have hhalf := halfBelow_le x
    have hpow : (2 : ℚ) ^ (-1074 : ℤ) ≤ 2 ^ x.exponent :=
      zpow_le_zpow_right₀ one_le_two hx.exponent_ge
    calc (2 : ℚ) ^ (-1075 : ℤ) = 1 / 2 * 2 ^ (-1074 : ℤ) := by
          rw [show (-1075 : ℤ) = -1 + -1074 by norm_num, zpow_add₀ two_ne_zero, zpow_neg_one,
            one_div]
      _ ≤ 1 / 2 * 2 ^ x.exponent := by linarith
      _ ≤ (x.mantissa - x.halfBelow) * 2 ^ x.exponent :=
          mul_le_mul_of_nonneg_right (by linarith) (by positivity)
      _ ≤ q := hq.above
  · have hmax := hx.exponent_le
    exact (hq.lt hx.toCanonical).trans_le (zpow_le_zpow_right₀ one_le_two (by omega))

theorem ten_zpow_le {b : ℚ} (hb : 1 ≤ b) (hten : b ≤ 10) (he : e ≤ 0) : (10 : ℚ) ^ e ≤ b ^ e := by
  obtain ⟨n, rfl⟩ := Int.exists_eq_neg_ofNat he
  rw [zpow_neg, zpow_neg, zpow_natCast, zpow_natCast]
  have hpos : 0 < b := by linarith
  exact inv_anti₀ (by positivity) (pow_le_pow_left₀ hpos.le hten n)

/-- The exponents for which no power is computed are out of range. -/
theorem exponent_bounds (hm : 0 < m) (hlow : (2 : ℚ) ^ (-1075 : ℤ) ≤ m * 10 ^ e)
    (hhigh : m * 10 ^ e < (2 : ℚ) ^ (1024 : ℤ)) : e ≤ 2048 ∧ -(2048 + m.log2) ≤ e := by
  have hone : (1 : ℚ) ≤ m := by exact_mod_cast hm
  constructor
  · by_contra hlarge
    have hpow : (2 : ℚ) ^ (1024 : ℤ) ≤ m * 10 ^ e := by
      calc (2 : ℚ) ^ (1024 : ℤ) ≤ 2 ^ e := zpow_le_zpow_right₀ one_le_two (by omega)
        _ ≤ 10 ^ e := zpow_le_zpow_left₀ (by omega) (by norm_num) (by norm_num)
        _ ≤ m * 10 ^ e := le_mul_of_one_le_left (by positivity) hone
    linarith
  · by_contra hsmall
    have hdigits : (m : ℚ) < 2 ^ (m.log2 + 1) := by exact_mod_cast Nat.lt_log2_self
    have hpow : (m : ℚ) * 10 ^ e < 2 ^ (-1075 : ℤ) := by
      calc (m : ℚ) * 10 ^ e ≤ m * 2 ^ e :=
            mul_le_mul_of_nonneg_left (ten_zpow_le one_le_two (by norm_num) (by omega))
              (Nat.cast_nonneg m)
        _ < 2 ^ (m.log2 + 1) * 2 ^ e := mul_lt_mul_of_pos_right hdigits (by positivity)
        _ = 2 ^ ((m.log2 + 1 : ℕ) + e) := by rw [zpow_add₀ two_ne_zero, zpow_natCast]
        _ ≤ 2 ^ (-1075 : ℤ) := zpow_le_zpow_right₀ one_le_two (by push_cast; omega)
    linarith

/-- The general way to a number in scientific notation, too large ones among them. -/
theorem Near.modelScientific (hx : x.Canonical) (hm : 0 < m) (hlarge : e ≤ 2048)
    (hsmall : -(2048 + m.log2) ≤ e) (hq : x.Near (m * 10 ^ e)) :
    UnpackedFloat.ofScientific .binary64 m e =
      .finite .positive x.mantissa x.exponent hx.pos := by
  rw [UnpackedFloat.ofScientific, dif_neg hm.ne', if_neg (by norm_num; omega),
    if_neg (by norm_num; omega)]
  by_cases he : 0 ≤ e
  · have hscale : ((m <<< 53 : ℕ) : ℚ) * 2 ^ (-53 : ℤ) * ((10 ^ e.toNat : ℕ) * 2 ^ (0 : ℤ)) =
        m * 10 ^ e := by
      have hpow : (10 : ℚ) ^ e = 10 ^ e.toNat := by
        rw [← zpow_natCast, Int.toNat_of_nonneg he]
      rw [Nat.shiftLeft_eq, hpow, zpow_neg, zpow_zero]
      push_cast
      field_simp
    have hdigits : 2 ^ 52 ≤ m <<< 53 * 10 ^ e.toNat := by
      rw [Nat.shiftLeft_eq]
      calc 2 ^ 52 ≤ 1 * 2 ^ 53 * 1 := by norm_num
        _ ≤ m * 2 ^ 53 * 10 ^ e.toNat :=
          Nat.mul_le_mul (Nat.mul_le_mul_right _ hm) (Nat.one_le_pow _ _ (by norm_num))
    rw [← hscale] at hq
    rw [if_pos he]
    exact hq.mul hx _ _ hdigits
  · have hscale : (m : ℚ) * 2 ^ (0 : ℤ) / ((10 ^ (-e).toNat : ℕ) * 2 ^ (0 : ℤ)) = m * 10 ^ e := by
      have hpow : (10 : ℚ) ^ e = (10 ^ (-e).toNat)⁻¹ := by
        rw [← zpow_natCast, Int.toNat_of_nonneg (by omega), zpow_neg, inv_inv]
      rw [hpow, zpow_zero]
      push_cast
      rw [mul_one, mul_one, div_eq_mul_inv]
    rw [← hscale] at hq
    rw [if_neg he]
    exact hq.div hx _ _

/-- The quick way to a number with few digits and a small exponent. -/
theorem Near.quickScientific (hx : x.Finite) (hm : 0 < m) (hlt : m < 2 ^ 53) {k : Fin 23}
    (hq : x.Near (m * 10 ^ k.val)) : m.toUInt64.toFloat * power k = x.toFloat hx .positive := by
  obtain ⟨y, hpos, hpower, hlarge, hvalue⟩ := unpack_power k
  have hdigits : 2 ^ 52 ≤ (ofNatural m).mantissa * y.mantissa := by
    obtain ⟨_, hnatural, _⟩ := ofNatural_bounds hm hlt
    calc 2 ^ 52 ≤ 2 ^ 52 * 2 ^ 52 := by norm_num
      _ ≤ (ofNatural m).mantissa * y.mantissa := Nat.mul_le_mul hnatural hlarge
  rw [← ofNatural_value hm hlt, ← hvalue] at hq
  change Float.ofModel (.pack (UnpackedFloat.mul .binary64 m.toUInt64.toFloat.toModel.unpack
    (power k).toModel.unpack)) = _
  rw [unpack_toUInt64 hm hlt, hpower, hq.mul hx.toCanonical _ _ hdigits]
  rfl

theorem Near.quickFraction (hx : x.Finite) (hm : 0 < m) (hlt : m < 2 ^ 53) {k : Fin 23}
    (hq : x.Near (m / 10 ^ k.val)) : m.toUInt64.toFloat / power k = x.toFloat hx .positive := by
  obtain ⟨y, hpos, hpower, _, hvalue⟩ := unpack_power k
  rw [← ofNatural_value hm hlt, ← hvalue] at hq
  change Float.ofModel (.pack (UnpackedFloat.div .binary64 m.toUInt64.toFloat.toModel.unpack
    (power k).toModel.unpack)) = _
  rw [unpack_toUInt64 hm hlt, hpower, hq.div hx.toCanonical _ _]
  rfl

/-- Both ways lead to the number that is near. -/
theorem Near.ofScientific (hx : x.Finite) (hm : 0 < m) (negative : Bool) (k : ℕ)
    (hq : x.Near (m * 10 ^ (if negative then -(k : ℤ) else k))) :
    Float.ofScientific m negative k = x.toFloat hx .positive := by
  rw [Float.ofScientific]
  by_cases hquick : m < 2 ^ 53 ∧ k ≤ 22
  · obtain ⟨hlt, hk⟩ := hquick
    rw [dif_pos ⟨hlt, hk⟩]
    cases negative with
    | false =>
      rw [if_neg (by simp), zpow_natCast] at hq
      exact Near.quickScientific (k := ⟨k, Nat.lt_succ_of_le hk⟩) hx hm hlt hq
    | true =>
      rw [if_pos rfl, zpow_neg, zpow_natCast, ← div_eq_mul_inv] at hq
      exact Near.quickFraction (k := ⟨k, Nat.lt_succ_of_le hk⟩) hx hm hlt hq
  · have hexponent : (if negative then Int.negOfNat k else Int.ofNat k) =
        if negative then -(k : ℤ) else k := by
      rw [Int.negOfNat_eq]
      rfl
    obtain ⟨hlow, hhigh⟩ := hq.bounds hx
    obtain ⟨hlarge, hsmall⟩ := exponent_bounds hm hlow hhigh
    rw [dif_neg hquick]
    simp only [hexponent]
    rw [Float.Model.ofScientific, hq.modelScientific hx.toCanonical hm hlarge hsmall]
    rfl

end Binary

/-- The digits of a natural number bound it. -/
theorem Text.length_ofNat_bounds (hm : 0 < m) :
    10 ^ ((Text.ofNat m).length - 1) ≤ m ∧ m < 10 ^ (Text.ofNat m).length := by
  have hpos : 0 < (Text.ofNat m).length := Nat.length_toDigits_pos
  have hiff : ∀ k, 0 < k → ((Text.ofNat m).length ≤ k ↔ m < 10 ^ k) := fun k hk =>
    Nat.length_toDigits_le_iff (by norm_num) hk
  refine ⟨?_, (hiff _ hpos).1 le_rfl⟩
  by_cases hone : (Text.ofNat m).length = 1
  · rw [hone]
    exact hm
  · have hless := mt (hiff ((Text.ofNat m).length - 1) (by omega)).2 (by omega)
    exact not_lt.1 hless

theorem Decimal.value_bounds (hd : 0 < d.digits) :
    (10 : ℚ) ^ ((Text.ofNat d.digits).length + d.exponent - 1) ≤ d.value ∧
      d.value < 10 ^ ((Text.ofNat d.digits).length + d.exponent) := by
  obtain ⟨hlow, hhigh⟩ := Text.length_ofNat_bounds hd
  have hpos : 0 < (Text.ofNat d.digits).length := Nat.length_toDigits_pos
  have hscale : (0 : ℚ) < 10 ^ d.exponent := by positivity
  constructor
  · have hlow' : (10 : ℚ) ^ ((Text.ofNat d.digits).length - 1) ≤ d.digits := by exact_mod_cast hlow
    have hexponent : ((Text.ofNat d.digits).length : ℤ) + d.exponent - 1 =
        ((Text.ofNat d.digits).length - 1 : ℕ) + d.exponent := by omega
    rw [hexponent, zpow_add₀ (by norm_num), zpow_natCast]
    exact mul_le_mul_of_nonneg_right hlow' hscale.le
  · have hhigh' : (d.digits : ℚ) < 10 ^ (Text.ofNat d.digits).length := by exact_mod_cast hhigh
    rw [zpow_add₀ (by norm_num), zpow_natCast]
    exact mul_lt_mul_of_pos_right hhigh' hscale

namespace Binary

theorem Near.digits_pos (hx : x.Finite) (hq : x.Near d.value) : 0 < d.digits := by
  rcases Nat.eq_zero_or_pos d.digits with hzero | hpos
  · have hlow := (hq.bounds hx).1
    have hpos : (0 : ℚ) < 2 ^ (-1075 : ℤ) := by positivity
    rw [Decimal.value, hzero, Nat.cast_zero, zero_mul] at hlow
    linarith
  · exact hpos

/-- A decimal number near a floating-point number is read as it. -/
theorem Near.decimal (hx : x.Finite) (hq : x.Near d.value) :
    d.toFloat = x.toFloat hx .positive := by
  have hpos := hq.digits_pos hx
  obtain ⟨hlow, hhigh⟩ := hq.bounds hx
  obtain ⟨hlow', hhigh'⟩ := Decimal.value_bounds hpos
  have hsmall : ¬ ((Text.ofNat d.digits).length : ℤ) + d.exponent < -400 := by
    intro h
    have hpow : (10 : ℚ) ^ (((Text.ofNat d.digits).length : ℤ) + d.exponent) ≤ 2 ^ (-1075 : ℤ) := by
      calc (10 : ℚ) ^ (((Text.ofNat d.digits).length : ℤ) + d.exponent) ≤
            8 ^ (((Text.ofNat d.digits).length : ℤ) + d.exponent) :=
            ten_zpow_le (by norm_num) (by norm_num) (by omega)
        _ ≤ 8 ^ (-400 : ℤ) := zpow_le_zpow_right₀ (by norm_num) h.le
        _ = 2 ^ (-1200 : ℤ) := by
            rw [show (8 : ℚ) = 2 ^ (3 : ℤ) by norm_num, ← zpow_mul]
            norm_num
        _ ≤ 2 ^ (-1075 : ℤ) := zpow_le_zpow_right₀ one_le_two (by norm_num)
    linarith
  have hlarge : ¬ 400 < ((Text.ofNat d.digits).length : ℤ) + d.exponent := by
    intro h
    have hpow : (2 : ℚ) ^ (1024 : ℤ) ≤
        10 ^ (((Text.ofNat d.digits).length : ℤ) + d.exponent - 1) := by
      calc (2 : ℚ) ^ (1024 : ℤ) ≤ 2 ^ (1200 : ℤ) := zpow_le_zpow_right₀ one_le_two (by norm_num)
        _ = 8 ^ (400 : ℤ) := by
            rw [show (8 : ℚ) = 2 ^ (3 : ℤ) by norm_num, ← zpow_mul]
            norm_num
        _ ≤ 10 ^ (400 : ℤ) := zpow_le_zpow_left₀ (by norm_num) (by norm_num) (by norm_num)
        _ ≤ 10 ^ (((Text.ofNat d.digits).length : ℤ) + d.exponent - 1) :=
            zpow_le_zpow_right₀ (by norm_num) (by omega)
    linarith
  have hexponent : (if d.exponent < 0 then -(d.exponent.natAbs : ℤ) else d.exponent.natAbs) =
      d.exponent := by
    split <;> omega
  rw [Decimal.toFloat]
  simp only [hpos.ne', hsmall, or_self, if_false, hlarge]
  refine Near.ofScientific hx hpos (decide (d.exponent < 0)) d.exponent.natAbs ?_
  simp only [decide_eq_true_eq, hexponent]
  exact hq

/-- A number in writing is read as the floating-point number with its sign that it is near to. -/
theorem Near.written {w : Written} (hx : x.Finite) (hq : x.Near w.toDecimal.value) :
    w.toFloat = x.toFloat hx (if w.negative then .negative else .positive) := by
  rw [Written.toFloat, hq.decimal hx]
  cases w.negative with
  | false => rfl
  | true => exact neg_toFloat hx .positive

end Binary

end FlowTalk
