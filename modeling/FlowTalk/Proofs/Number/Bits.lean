import FlowTalk.Proofs.Number.Rounding

/-! The bits of floating-point numbers. -/
namespace FlowTalk
open Float.Model Float.Model.UnpackedFloat

variable {x : Binary} {sign : Sign} {v : BitVec 64} {e : BitVec 11} {m : BitVec 52} {bits : ℕ}

/-! The parts of a number -/

theorem toNat_unpackMantissa (v : BitVec 64) :
    (@unpackMantissa .binary64 v).toNat = v.toNat % 2 ^ 52 := by
  simp [unpackMantissa]

theorem toNat_unpackExponent (v : BitVec 64) :
    (@unpackExponent .binary64 v).toNat = v.toNat / 2 ^ 52 % 2 ^ 11 := by
  simp [unpackExponent, Nat.shiftRight_eq_div_pow]

theorem toNat_unpackSign (v : BitVec 64) :
    (@unpackSign .binary64 v).toNat = v.toNat / 2 ^ 63 := by
  have hlt : v.toNat < 2 ^ 64 := v.isLt
  simp [unpackSign, Nat.shiftRight_eq_div_pow]
  omega

theorem toNat_packComponents (sign : Sign) (e : BitVec 11) (m : BitVec 52) :
    (packComponents .binary64 sign e m).toNat =
      sign.toBitVec.toNat * 2 ^ 63 + e.toNat * 2 ^ 52 + m.toNat := by
  have he := e.isLt
  have hm := m.isLt
  rw [packComponents, BitVec.toNat_append, BitVec.toNat_append,
    ← Nat.shiftLeft_add_eq_or_of_lt he, ← Nat.shiftLeft_add_eq_or_of_lt hm, Nat.shiftLeft_eq,
    Nat.shiftLeft_eq]
  change (sign.toBitVec.toNat * 2 ^ 11 + e.toNat) * 2 ^ 52 + m.toNat = _
  ring

/-- The sign of a number given by its bits. -/
def signOf (v : BitVec 64) : Sign := .ofBitVec (@unpackSign .binary64 v)

theorem toBitVec_signOf (v : BitVec 64) :
    (signOf v).toBitVec = @unpackSign .binary64 v := by
  rw [signOf]
  generalize @unpackSign .binary64 v = b
  revert b
  decide

theorem signOf_eq (v : BitVec 64) :
    signOf v = if 2 ^ 63 ≤ v.toNat then .negative else .positive := by
  have hlt : v.toNat < 2 ^ 64 := v.isLt
  have hsign : @unpackSign .binary64 v = 0#1 ↔ v.toNat < 2 ^ 63 := by
    rw [← BitVec.toNat_inj, toNat_unpackSign]
    change v.toNat / 2 ^ 63 = 0 ↔ _
    omega
  rw [signOf, Sign.ofBitVec]
  by_cases h : v.toNat < 2 ^ 63
  · rw [if_pos (hsign.2 h), if_neg (by omega)]
  · rw [if_neg (fun h' => h (hsign.1 h')), if_pos (by omega)]

theorem packComponents_parts (v : BitVec 64) :
    packComponents .binary64 (signOf v) (unpackExponent v) (unpackMantissa v) = v := by
  have hlt : v.toNat < 2 ^ 64 := v.isLt
  apply BitVec.eq_of_toNat_eq
  rw [toNat_packComponents, toBitVec_signOf, toNat_unpackSign, toNat_unpackExponent,
    toNat_unpackMantissa]
  omega

/-! Numbers from bits and back -/

/-- The bits of a number that is not finite. -/
def isSpecial (bits : ℕ) : Prop := bits / 2 ^ 52 % 2 ^ 11 = 2047

theorem Binary.ofBits_eq (bits : ℕ) : ofBits bits =
    if bits / 2 ^ 52 % 2 ^ 11 = 0 then ⟨bits % 2 ^ 52, -1074, false⟩
    else ⟨2 ^ 52 + bits % 2 ^ 52, (bits / 2 ^ 52 % 2 ^ 11 : ℕ) - 1075,
      bits % 2 ^ 52 == 0 && 1 < bits / 2 ^ 52 % 2 ^ 11⟩ := rfl

section
variable (v)

theorem unpackExponent_eq_zero :
    @unpackExponent .binary64 v = 0#_ ↔ v.toNat / 2 ^ 52 % 2 ^ 11 = 0 := by
  rw [← BitVec.toNat_inj, toNat_unpackExponent]
  rfl

theorem unpackExponent_eq_ones :
    @unpackExponent .binary64 v = -1#_ ↔ isSpecial v.toNat := by
  rw [← BitVec.toNat_inj, toNat_unpackExponent]
  rfl

theorem unpackMantissa_eq_zero :
    @unpackMantissa .binary64 v = 0#_ ↔ v.toNat % 2 ^ 52 = 0 := by
  rw [← BitVec.toNat_inj, toNat_unpackMantissa]
  rfl

/-- The leading digit of a mantissa is not in the bits. -/
theorem toNat_implicit :
    (1#1 ++ @unpackMantissa .binary64 v).toNat = 2 ^ 52 + v.toNat % 2 ^ 52 := by
  rw [BitVec.toNat_append,
    ← Nat.shiftLeft_add_eq_or_of_lt (@unpackMantissa .binary64 v).isLt,
    toNat_unpackMantissa]
  rfl

end

/-- The mantissa and the exponent of a number are in its bits, whatever its sign. -/
theorem unpack_of_not_special (h : ¬ isSpecial v.toNat)
    (hpos : 0 < (Binary.ofBits (v.toNat % 2 ^ 63)).mantissa) :
    UnpackedFloat.unpack .binary64 v = .finite (signOf v)
      (Binary.ofBits (v.toNat % 2 ^ 63)).mantissa (Binary.ofBits (v.toNat % 2 ^ 63)).exponent
      hpos := by
  have hfield : v.toNat % 2 ^ 63 / 2 ^ 52 % 2 ^ 11 = v.toNat / 2 ^ 52 % 2 ^ 11 := by omega
  have hfraction : v.toNat % 2 ^ 63 % 2 ^ 52 = v.toNat % 2 ^ 52 := by omega
  have hbits := Binary.ofBits_eq (v.toNat % 2 ^ 63)
  rw [hfield, hfraction] at hbits
  by_cases hzero : v.toNat / 2 ^ 52 % 2 ^ 11 = 0
  · rw [if_pos hzero] at hbits
    have hne : v.toNat % 2 ^ 52 ≠ 0 := by
      rw [hbits] at hpos
      exact hpos.ne'
    simp only [UnpackedFloat.unpack, hbits, toNat_unpackMantissa, toNat_unpackExponent, hzero]
    rw [if_neg (mt (unpackExponent_eq_ones v).1 h), if_pos ((unpackExponent_eq_zero v).2 hzero),
      dif_neg (mt (unpackMantissa_eq_zero v).1 hne)]
    rfl
  · rw [if_neg hzero] at hbits
    simp only [UnpackedFloat.unpack, hbits, toNat_unpackExponent]
    rw [if_neg (mt (unpackExponent_eq_ones v).1 h),
      if_neg (mt (unpackExponent_eq_zero v).1 hzero)]
    congr 1
    exact toNat_implicit v

/-- The bits of a finite number that is not zero give its one form. -/
theorem canonical_ofBits (h : ¬ isSpecial bits) (hpos : 0 < (Binary.ofBits bits).mantissa) :
    (Binary.ofBits bits).Canonical ∧ (Binary.ofBits bits).exponent ≤ 971 := by
  rw [isSpecial] at h
  rw [Binary.ofBits_eq] at hpos ⊢
  by_cases hzero : bits / 2 ^ 52 % 2 ^ 11 = 0
  · rw [if_pos hzero] at hpos ⊢
    refine ⟨⟨hpos, ?_, ?_, ?_, ?_⟩, ?_⟩
    · change bits % 2 ^ 52 < 2 ^ 53
      omega
    · simp
    · simp
    · simp
    · simp
  · rw [if_neg hzero] at hpos ⊢
    refine ⟨⟨hpos, ?_, ?_, ?_, ?_⟩, ?_⟩
    · change 2 ^ 52 + bits % 2 ^ 52 < 2 ^ 53
      omega
    · change (-1074 : ℤ) ≤ (bits / 2 ^ 52 % 2 ^ 11 : ℕ) - 1075
      omega
    · exact Or.inl (Nat.le_add_right _ _)
    · simp only [Bool.and_eq_true, beq_iff_eq, decide_eq_true_eq]
      omega
    · change ((bits / 2 ^ 52 % 2 ^ 11 : ℕ) : ℤ) - 1075 ≤ 971
      omega

theorem pack_normal {m : ℕ} {e : ℤ} (hm : 2 ^ 52 ≤ m) (hm' : m < 2 ^ 53) (he : -1074 ≤ e)
    (he' : e ≤ 971) :
    UnpackedFloat.pack .binary64 (.finite sign m e (by omega)) =
      packComponents .binary64 sign (.ofNat 11 (e + 1075).toNat) (.ofNat 52 m) := by
  have hlog : m.log2 = 52 := (Nat.log2_eq_iff (by omega)).2 ⟨hm, hm'⟩
  have hbias : e + (Format.binary64.exponentBias : ℕ) + (52 : ℕ) = e + 1075 := by
    change e + ((1023 : ℕ) : ℤ) + ((52 : ℕ) : ℤ) = _
    omega
  simp only [UnpackedFloat.pack, hbias, hlog]
  rw [if_neg (show ¬ 2 ^ 11 ≤ (e + 1075).toNat + 1 by omega),
    if_pos (show 52 + 1 = Format.binary64.mantissaBits from rfl)]

theorem pack_subnormal {m : ℕ} (hpos : 0 < m) (hm : m < 2 ^ 52) :
    UnpackedFloat.pack .binary64 (.finite sign m (-1074) hpos) =
      packComponents .binary64 sign 0#11 (.ofNat 52 m) := by
  have hlog : m.log2 < 52 := (Nat.log2_lt hpos.ne').2 hm
  have hbits : m.log2 + 1 ≠ Format.binary64.mantissaBits := by
    change m.log2 + 1 ≠ 53
    omega
  simp only [UnpackedFloat.pack]
  rw [if_neg (by decide), if_neg hbits]

/-- A finite number that is not zero is packed into its bits. -/
theorem pack_ofBits (h : ¬ isSpecial v.toNat)
    (hpos : 0 < (Binary.ofBits (v.toNat % 2 ^ 63)).mantissa) :
    UnpackedFloat.pack .binary64 (.finite (signOf v) (Binary.ofBits (v.toNat % 2 ^ 63)).mantissa
      (Binary.ofBits (v.toNat % 2 ^ 63)).exponent hpos) = v := by
  have hfield : v.toNat % 2 ^ 63 / 2 ^ 52 % 2 ^ 11 = v.toNat / 2 ^ 52 % 2 ^ 11 := by omega
  have hfraction : v.toNat % 2 ^ 63 % 2 ^ 52 = v.toNat % 2 ^ 52 := by omega
  have hbits := Binary.ofBits_eq (v.toNat % 2 ^ 63)
  rw [hfield, hfraction] at hbits
  have hparts := packComponents_parts v
  by_cases hzero : v.toNat / 2 ^ 52 % 2 ^ 11 = 0
  · rw [if_pos hzero] at hbits
    simp only [hbits] at hpos ⊢
    rw [(unpackExponent_eq_zero v).2 hzero] at hparts
    rw [pack_subnormal hpos (Nat.mod_lt _ (by positivity)), ← toNat_unpackMantissa,
      BitVec.ofNat_toNat, BitVec.setWidth_eq]
    exact hparts
  · rw [if_neg hzero] at hbits
    rw [isSpecial] at h
    simp only [hbits] at hpos ⊢
    have hexponent : (((v.toNat / 2 ^ 52 % 2 ^ 11 : ℕ) : ℤ) - 1075 + 1075).toNat =
        (@unpackExponent .binary64 v).toNat := by
      rw [toNat_unpackExponent]
      omega
    have hmantissa : BitVec.ofNat 52 (2 ^ 52 + v.toNat % 2 ^ 52) =
        @unpackMantissa .binary64 v := by
      apply BitVec.eq_of_toNat_eq
      rw [BitVec.toNat_ofNat, toNat_unpackMantissa]
      omega
    rw [pack_normal (by omega) (by omega) (by omega) (by omega), hexponent, BitVec.ofNat_toNat,
      BitVec.setWidth_eq, hmantissa]
    exact hparts

/-- What the bits of a number stand for: an infinity, no number, a zero, or a finite number that is
not zero. -/
theorem unpack_cases (v : BitVec 64) :
    (@unpackExponent .binary64 v = -1#_ ∧ @unpackMantissa .binary64 v = 0#_ ∧
      UnpackedFloat.unpack .binary64 v = .infinity (signOf v)) ∨
    (@unpackExponent .binary64 v = -1#_ ∧ @unpackMantissa .binary64 v ≠ 0#_ ∧
      UnpackedFloat.unpack .binary64 v = .notANumber) ∨
    (@unpackExponent .binary64 v = 0#_ ∧ @unpackMantissa .binary64 v = 0#_ ∧
      UnpackedFloat.unpack .binary64 v = .zero (signOf v)) ∨
    (¬ isSpecial v.toNat ∧ 0 < (Binary.ofBits (v.toNat % 2 ^ 63)).mantissa) := by
  by_cases hones : @unpackExponent .binary64 v = -1#_
  · by_cases hmantissa : @unpackMantissa .binary64 v = 0#_
    · refine Or.inl ⟨hones, hmantissa, ?_⟩
      simp only [UnpackedFloat.unpack]
      rw [if_pos hones, if_pos hmantissa]
      rfl
    · refine Or.inr (Or.inl ⟨hones, hmantissa, ?_⟩)
      simp only [UnpackedFloat.unpack]
      rw [if_pos hones, if_neg hmantissa]
  · by_cases hzero : @unpackExponent .binary64 v = 0#_ ∧
        @unpackMantissa .binary64 v = 0#_
    · refine Or.inr (Or.inr (Or.inl ⟨hzero.1, hzero.2, ?_⟩))
      simp only [UnpackedFloat.unpack]
      rw [if_neg hones, if_pos hzero.1, dif_pos hzero.2]
      rfl
    · refine Or.inr (Or.inr (Or.inr ⟨mt (unpackExponent_eq_ones v).2 hones, ?_⟩))
      rw [unpackExponent_eq_zero, unpackMantissa_eq_zero] at hzero
      rw [Binary.ofBits_eq]
      split
      · change 0 < v.toNat % 2 ^ 63 % 2 ^ 52
        omega
      · change 0 < 2 ^ 52 + v.toNat % 2 ^ 63 % 2 ^ 52
        omega

/-- The sign, the exponent and the mantissa of a number make up its bits again. -/
theorem pack_unpack_bits (hv : Format.binary64.Valid v) :
    UnpackedFloat.pack .binary64 (UnpackedFloat.unpack .binary64 v) = v := by
  have hparts := packComponents_parts v
  rcases unpack_cases v with ⟨hones, hmantissa, hunpack⟩ | ⟨hones, hmantissa, hunpack⟩ |
    ⟨hzero, hmantissa, hunpack⟩ | ⟨hspecial, hpos⟩
  · rw [hones, hmantissa] at hparts
    rw [hunpack]
    exact hparts
  · rw [hunpack]
    exact (hv.eq_packedNaN hones hmantissa).symm
  · rw [hzero, hmantissa] at hparts
    rw [hunpack]
    exact hparts
  · rw [unpack_of_not_special hspecial hpos]
    exact pack_ofBits hspecial hpos

theorem ofModel_pack_unpack (y : Float) : Float.ofModel (.pack y.toModel.unpack) = y := by
  obtain ⟨⟨⟨v⟩, hv⟩⟩ := y
  simp only [Float.Model.pack, Float.Model.unpack, pack_unpack_bits hv]

theorem exists_bits (hx : x.Canonical) (hmax : x.exponent ≤ 971) :
    ∃ bits < 2 ^ 63, ¬ isSpecial bits ∧ Binary.ofBits bits = x := by
  obtain ⟨m, e, close⟩ := x
  obtain ⟨hpos, hlt, hge, hnormal, hclose⟩ := hx
  simp only at hpos hlt hge hnormal hclose hmax
  by_cases hlarge : 2 ^ 52 ≤ m
  · have hscale : ((e + 1075).toNat * 2 ^ 52 + (m - 2 ^ 52)) / 2 ^ 52 % 2 ^ 11 =
        (e + 1075).toNat := by omega
    have hfraction : ((e + 1075).toNat * 2 ^ 52 + (m - 2 ^ 52)) % 2 ^ 52 = m - 2 ^ 52 := by omega
    refine ⟨(e + 1075).toNat * 2 ^ 52 + (m - 2 ^ 52), by omega, ?_, ?_⟩
    · rw [isSpecial, hscale]
      omega
    · have hclose' : (m - 2 ^ 52 == 0 && decide (1 < (e + 1075).toNat)) = close := by
        rw [Bool.eq_iff_iff, hclose, Bool.and_eq_true, beq_iff_eq, decide_eq_true_eq]
        omega
      rw [Binary.ofBits_eq, hscale, hfraction, if_neg (by omega), hclose',
        Binary.mk.injEq]
      exact ⟨by omega, by omega, rfl⟩
  · obtain rfl : e = -1074 := hnormal.resolve_left hlarge
    have hscale : m / 2 ^ 52 % 2 ^ 11 = 0 := by omega
    have hclose' : close = false := by
      rw [Bool.eq_false_iff, Ne, hclose]
      omega
    refine ⟨m, by omega, ?_, ?_⟩
    · rw [isSpecial, hscale]
      decide
    · rw [Binary.ofBits_eq, if_pos hscale, hclose', Nat.mod_eq_of_lt (by omega)]

/-- A number in its one form is in its bits with either sign. -/
theorem unpack_pack (hx : x.Canonical) (hmax : x.exponent ≤ 971) (sign : Sign) :
    (Float.Model.pack (.finite sign x.mantissa x.exponent hx.pos)).unpack =
      .finite sign x.mantissa x.exponent hx.pos := by
  obtain ⟨bits, hlt, hspecial, rfl⟩ := exists_bits hx hmax
  obtain ⟨v, hv, hsign⟩ : ∃ v : BitVec 64, v.toNat % 2 ^ 63 = bits ∧ signOf v = sign := by
    cases sign with
    | positive =>
      have hbits : (BitVec.ofNat 64 bits).toNat = bits := by
        rw [BitVec.toNat_ofNat]
        omega
      exact ⟨.ofNat 64 bits, by omega, by rw [signOf_eq, if_neg (by omega)]⟩
    | negative =>
      have hbits : (BitVec.ofNat 64 (2 ^ 63 + bits)).toNat = 2 ^ 63 + bits := by
        rw [BitVec.toNat_ofNat]
        omega
      exact ⟨.ofNat 64 (2 ^ 63 + bits), by omega, by rw [signOf_eq, if_pos (by omega)]⟩
  have hspecial' : ¬ isSpecial v.toNat := by
    rw [isSpecial] at hspecial ⊢
    omega
  subst hv hsign
  have hpack := pack_ofBits hspecial' hx.pos
  change UnpackedFloat.unpack .binary64 (UnpackedFloat.pack .binary64 _) = _
  rw [hpack]
  exact unpack_of_not_special hspecial' hx.pos

end FlowTalk
