import FlowTalk.Number.Decimal
import FlowTalk.Number.Style
import FlowTalk.Proofs.Number.Near
import FlowTalk.Proofs.Text.Digit

/-! The value of a number in writing, wherever its point stands. -/
namespace FlowTalk
open NumberStyle

variable {s t whole fraction : Text} {n k : ℕ} {d : Decimal} {style : NumberStyle}

/-! Runs of digits -/

theorem digitValue?_of_mem_decimals :
    ∀ c ∈ decimals, (digitValue? c).getD 0 = c.toNat - '0'.toNat :=
  List.all_iff_forall_prop.1 (by decide)

theorem Numeral.value_eq (ht : ∀ c ∈ t, c ∈ decimals) :
    Numeral.value t = Nat.ofDigitChars 10 t 0 := by
  rw [Numeral.value, Nat.ofDigitChars_eq_foldl]
  refine List.foldl_ext _ _ _ fun m c hc => ?_
  rw [digitValue?_of_mem_decimals c (ht c hc)]

theorem mem_decimals_of_mem_zeros : ∀ c ∈ zeros n, c ∈ decimals := by
  intro c hc
  rw [List.eq_of_mem_replicate hc]
  decide

theorem mem_decimals_append (hs : ∀ c ∈ s, c ∈ decimals) (ht : ∀ c ∈ t, c ∈ decimals) :
    ∀ c ∈ s ++ t, c ∈ decimals := by
  intro c hc
  rcases List.mem_append.1 hc with hc | hc
  · exact hs c hc
  · exact ht c hc

namespace Numeral

theorem value_ofNat (n : ℕ) : value (Text.ofNat n) = n := by
  rw [value_eq (mem_decimals_of_mem_ofNat n)]
  exact Nat.ofDigitChars_ten_toDigits

theorem read_ofNat (h : (Text.ofNat n).length ≤ maxDigits) : read (Text.ofNat n) = .ok n := by
  rw [read, if_pos h, value_ofNat]

theorem value_zeros_append (ht : ∀ c ∈ t, c ∈ decimals) : value (zeros n ++ t) = value t := by
  rw [value_eq (mem_decimals_append mem_decimals_of_mem_zeros ht), value_eq ht,
    Nat.ofDigitChars_append, zeros, Nat.ofDigitChars_replicate_zero, Nat.mul_zero]

theorem value_append_zeros (ht : ∀ c ∈ t, c ∈ decimals) :
    value (t ++ zeros n) = 10 ^ n * value t := by
  rw [value_eq (mem_decimals_append ht mem_decimals_of_mem_zeros), value_eq ht,
    Nat.ofDigitChars_append, zeros, Nat.ofDigitChars_replicate_zero]

end Numeral

/-- A positive number is written without leading zeros. -/
theorem head_ofNat (hn : 0 < n) : ∀ c ∈ (Text.ofNat n).head?, c ≠ '0' := by
  induction n using Nat.strongRecOn with
  | ind n ih =>
    have hdigit : ∀ d < 10, 0 < d → Nat.digitChar d ≠ '0' := by decide
    rw [Text.ofNat, Nat.toDigits_eq_if (by decide)]
    split
    · next hlt =>
      intro c hc
      obtain rfl : Nat.digitChar n = c := by simpa using hc
      exact hdigit n hlt hn
    · next hge =>
      have hhead := ih (n / 10) (Nat.div_lt_self hn (by decide)) (by omega)
      rw [List.head?_append_of_ne_nil _ Nat.toDigits_ne_nil]
      exact hhead

/-! The digits that count -/

/-- What is cut off at the end of a number are zeros. -/
theorem significant_append (d : Decimal) :
    ∃ n, Text.ofNat d.digits = significant d ++ zeros n := by
  refine ⟨((Text.ofNat d.digits).reverse.takeWhile (· == '0')).length, ?_⟩
  have hzeros : ((Text.ofNat d.digits).reverse.takeWhile (· == '0')).reverse =
      zeros ((Text.ofNat d.digits).reverse.takeWhile (· == '0')).length := by
    rw [zeros, List.eq_replicate_iff]
    refine ⟨List.length_reverse, fun c hc => ?_⟩
    have hzero := List.mem_takeWhile_imp (List.mem_reverse.1 hc)
    simpa using hzero
  rw [← hzeros, significant, Text.trimEndWhere, ← List.reverse_append,
    List.takeWhile_append_dropWhile, List.reverse_reverse]

/-- The digits of a positive number that count, and what they say together. -/
theorem significant_spec (hd : 0 < d.digits) :
    (∀ c ∈ significant d, c ∈ decimals) ∧ (∃ c rest, significant d = c :: rest ∧ c ≠ '0') ∧
      d.value = Numeral.value (significant d) *
        10 ^ (leadingExponent d + 1 - (significant d).length) := by
  obtain ⟨n, hn⟩ := significant_append d
  have hmem : ∀ c ∈ significant d, c ∈ decimals := fun c hc =>
    mem_decimals_of_mem_ofNat d.digits c (by rw [hn]; exact List.mem_append_left _ hc)
  have hvalue : d.digits = 10 ^ n * Numeral.value (significant d) := by
    rw [← Numeral.value_append_zeros hmem, ← hn, Numeral.value_ofNat]
  refine ⟨hmem, ?_, ?_⟩
  · cases hs : significant d with
    | nil =>
      rw [hs] at hvalue
      have hzero : d.digits = 0 := hvalue
      omega
    | cons c rest =>
      refine ⟨c, rest, rfl, head_ofNat hd c ?_⟩
      rw [hn, hs]
      rfl
  · have hlength : (Text.ofNat d.digits).length = (significant d).length + n := by
      rw [hn, List.length_append, zeros, List.length_replicate]
    have hexponent : leadingExponent d + 1 - (significant d).length = n + d.exponent := by
      rw [leadingExponent, hlength]
      push_cast
      ring
    rw [Decimal.value, hvalue, hexponent, zpow_add₀ (by norm_num), zpow_natCast]
    push_cast
    ring

/-! The parts of a number -/

/-- The text of a number after its whole part: its digits after the point and its exponent, both of
which may be missing. -/
def afterWhole (fraction : Text) (e : Option ℤ) : Text :=
  (if fraction.isEmpty then [] else '.' :: fraction) ++ e.elim [] exponent

/-- Digits before a point: a zero alone, or digits without a zero in front. -/
structure IsWhole (whole : Text) : Prop where
  digits : ∀ c ∈ whole, c ∈ decimals
  front : whole = ['0'] ∨ ∃ c rest, whole = c :: rest ∧ c ≠ '0'

/-- A text whose parts have the value of a number. -/
def Spells (t : Text) (d : Decimal) : Prop :=
  ∃ whole fraction e, t = whole ++ afterWhole fraction e ∧ IsWhole whole ∧
    (∀ c ∈ fraction, c ∈ decimals) ∧ (fraction ≠ [] ∨ e ≠ none) ∧
    ∀ negative, (Written.toDecimal ⟨negative, whole, fraction, e.getD 0⟩).value = d.value

theorem afterWhole_fraction (h : fraction ≠ []) : afterWhole fraction none = '.' :: fraction := by
  rw [afterWhole, if_neg (by simpa using h), Option.elim_none, List.append_nil]

theorem value_toDecimal (negative : Bool) (whole fraction : Text) (e : ℤ) :
    (Written.toDecimal ⟨negative, whole, fraction, e⟩).value =
      Numeral.value (whole ++ fraction) * 10 ^ (e - fraction.length) := rfl

section
variable {point : ℤ} (hs : ∀ c ∈ s, c ∈ decimals) (hfront : ∃ c rest, s = c :: rest ∧ c ≠ '0')
  (hd : d.value = Numeral.value s * 10 ^ (point - s.length))
include hs hfront hd

theorem spells_before (hpoint : point ≤ 0) :
    Spells ("0.".toList ++ zeros (-point).toNat ++ s) d := by
  obtain ⟨c, rest, rfl, _⟩ := hfront
  have hne : zeros (-point).toNat ++ c :: rest ≠ [] := by simp
  have hfraction : ∀ c' ∈ zeros (-point).toNat ++ c :: rest, c' ∈ decimals :=
    mem_decimals_append mem_decimals_of_mem_zeros hs
  refine ⟨['0'], zeros (-point).toNat ++ c :: rest, none, ?_, ⟨?_, Or.inl rfl⟩, hfraction,
    Or.inl hne, fun negative => ?_⟩
  · rw [afterWhole_fraction hne]
    rfl
  · exact List.all_iff_forall_prop.1 (by decide)
  · have hexponent : (0 : ℤ) - ((zeros (-point).toNat ++ c :: rest).length : ℤ) =
        point - (c :: rest).length := by
      rw [List.length_append, zeros, List.length_replicate]
      omega
    have hzero : Numeral.value (['0'] ++ (zeros (-point).toNat ++ c :: rest)) =
        Numeral.value (c :: rest) := by
      have hone := Numeral.value_zeros_append (n := 1) hfraction
      rw [Numeral.value_zeros_append hs] at hone
      exact hone
    rw [value_toDecimal, hzero, hd]
    exact congrArg _ (congrArg _ hexponent)

theorem spells_after (hpoint : s.length ≤ point) :
    Spells (s ++ zeros (point.toNat - s.length) ++ ".0".toList) d := by
  have hwhole : ∀ c ∈ s ++ zeros (point.toNat - s.length), c ∈ decimals :=
    mem_decimals_append hs mem_decimals_of_mem_zeros
  refine ⟨s ++ zeros (point.toNat - s.length), ['0'], none, ?_, ⟨hwhole, Or.inr ?_⟩, ?_,
    Or.inl (by simp), fun negative => ?_⟩
  · rw [afterWhole_fraction (by simp)]
    rfl
  · obtain ⟨c, rest, rfl, hc⟩ := hfront
    exact ⟨c, rest ++ zeros (point.toNat - (c :: rest).length), rfl, hc⟩
  · exact List.all_iff_forall_prop.1 (by decide)
  · have hvalue : Numeral.value (s ++ zeros (point.toNat - s.length) ++ ['0']) =
        10 ^ (point.toNat - s.length + 1) * Numeral.value s := by
      have hzero := Numeral.value_append_zeros (n := 1) hwhole
      rw [Numeral.value_append_zeros hs] at hzero
      rw [pow_succ', mul_assoc]
      exact hzero
    have hexponent : point - s.length = ((point.toNat - s.length + 1 : ℕ) : ℤ) + (0 - 1) := by
      omega
    rw [value_toDecimal, hvalue, hd, hexponent, zpow_add₀ (by norm_num), zpow_natCast]
    push_cast
    change _ * (10 : ℚ) ^ (0 - 1 : ℤ) = _
    ring

theorem spells_among (hpos : 0 < point) (hpoint : point < s.length) :
    Spells (s.take point.toNat ++ '.' :: s.drop point.toNat) d := by
  have hne : s.drop point.toNat ≠ [] := by
    rw [Ne, List.drop_eq_nil_iff]
    omega
  refine ⟨s.take point.toNat, s.drop point.toNat, none, by rw [afterWhole_fraction hne], ⟨?_, ?_⟩,
    fun c hc => hs c (List.mem_of_mem_drop hc), Or.inl hne, fun negative => ?_⟩
  · exact fun c hc => hs c (List.mem_of_mem_take hc)
  · obtain ⟨c, rest, rfl, hc⟩ := hfront
    obtain ⟨k, hk⟩ := Nat.exists_eq_succ_of_ne_zero (show point.toNat ≠ 0 by omega)
    exact Or.inr ⟨c, rest.take k, by rw [hk]; rfl, hc⟩
  · have hexponent : (0 : ℤ) - ((s.drop point.toNat).length : ℤ) = point - s.length := by
      rw [List.length_drop]
      omega
    rw [value_toDecimal, List.take_append_drop, hd]
    exact congrArg _ (congrArg _ hexponent)

/-- The point stands before, after or among the digits. -/
theorem spells_plain : Spells (plain s point) d := by
  rw [plain]
  split
  · next hbefore => exact spells_before hs hfront hd hbefore
  · split
    · next hafter => exact spells_after hs hfront hd hafter
    · next hbefore hafter => exact spells_among hs hfront hd (by omega) (by omega)

/-- The point stands after the first digit, and there is an exponent. -/
theorem spells_scientific : Spells (scientific s (point - 1)) d := by
  obtain ⟨c, rest, rfl, hc⟩ := hfront
  have hrest : ∀ c' ∈ rest, c' ∈ decimals := fun c' hc' => hs c' (List.mem_cons_of_mem c hc')
  refine ⟨[c], rest, some (point - 1), ?_, ⟨?_, Or.inr ⟨c, [], rfl, hc⟩⟩, hrest,
    Or.inr (by simp), fun negative => ?_⟩
  · cases rest with
    | nil => rfl
    | cons c' rest => simp [scientific, afterWhole]
  · intro c' hc'
    rw [List.mem_singleton.1 hc']
    exact hs c List.mem_cons_self
  · have hexponent : point - 1 - (rest.length : ℤ) = point - (c :: rest).length := by
      rw [List.length_cons]
      push_cast
      ring
    rw [value_toDecimal, hd, ← hexponent]
    rfl

end

theorem spells_ofDecimal (style : NumberStyle) (hd : 0 < d.digits) :
    Spells (style.ofDecimal d) d := by
  obtain ⟨hs, hfront, hvalue⟩ := significant_spec hd
  rw [ofDecimal]
  split
  · exact spells_plain hs hfront hvalue
  · have hscientific := spells_scientific hs hfront hvalue
    rwa [add_sub_cancel_right] at hscientific

end FlowTalk
