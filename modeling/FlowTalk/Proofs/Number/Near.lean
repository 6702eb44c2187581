import FlowTalk.Number.Shortest
import Mathlib

/-! The rational numbers that are nearer to a binary number than to its neighbours. -/
namespace FlowTalk

variable {x : Binary} {d : Decimal} {q : ℚ} {a b : ℕ} {i j : ℤ}

def Decimal.value (d : Decimal) : ℚ := d.digits * 10 ^ d.exponent

namespace Binary

/-- How far below a number the half-way point to its neighbour is, in units of the last place. -/
def halfBelow (x : Binary) : ℚ := if x.closeBelow then 1 / 4 else 1 / 2

/-- A rational number that is rounded to the binary one. Half-way points are if the mantissa is
even. -/
structure Near (x : Binary) (q : ℚ) : Prop where
  above : (x.mantissa - x.halfBelow) * 2 ^ x.exponent ≤ q
  below : q ≤ (x.mantissa + 1 / 2) * 2 ^ x.exponent
  strict : x.mantissa % 2 = 1 →
    (x.mantissa - x.halfBelow) * 2 ^ x.exponent < q ∧ q < (x.mantissa + 1 / 2) * 2 ^ x.exponent

theorem zpow_mul_pow_toNat {c : ℚ} (hc : c ≠ 0) (i : ℤ) : c ^ i * c ^ (-i).toNat = c ^ i.toNat := by
  obtain ⟨n, rfl | rfl⟩ := i.eq_nat_or_neg
  · simp
  · simp [hc]

/-- Rational numbers are compared as integers after both are multiplied. -/
theorem compare_eq_of_scaled {u v c : ℚ} (hc : 0 < c) (ha : (a : ℚ) = u * c)
    (hb : (b : ℚ) = v * c) : compare a b = compare u v := by
  rcases lt_trichotomy u v with h | h | h
  · rw [compare_lt_iff_lt.2 h, compare_lt_iff_lt, ← Nat.cast_lt (α := ℚ), ha, hb]
    exact mul_lt_mul_of_pos_right h hc
  · rw [compare_eq_iff_eq.2 h, compare_eq_iff_eq, ← Nat.cast_inj (R := ℚ), ha, hb, h]
  · rw [compare_gt_iff_gt.2 h, compare_gt_iff_gt, ← Nat.cast_lt (α := ℚ), ha, hb]
    exact mul_lt_mul_of_pos_right h hc

theorem compareScaled_eq : compareScaled a i b j = compare ((a : ℚ) * 10 ^ i) (b * 2 ^ j) := by
  have hpos : (0 : ℚ) < 10 ^ (-i).toNat * 2 ^ (-j).toNat := by positivity
  have hleft : ((a * Nat.pow 10 i.toNat * Nat.pow 2 (-j).toNat : ℕ) : ℚ) =
      a * 10 ^ i * (10 ^ (-i).toNat * 2 ^ (-j).toNat) := by
    simp only [Nat.pow_eq, Nat.cast_mul, Nat.cast_pow, Nat.cast_ofNat,
      ← zpow_mul_pow_toNat (show (10 : ℚ) ≠ 0 by norm_num) i]
    ring
  have hright : ((b * Nat.pow 2 j.toNat * Nat.pow 10 (-i).toNat : ℕ) : ℚ) =
      b * 2 ^ j * (10 ^ (-i).toNat * 2 ^ (-j).toNat) := by
    simp only [Nat.pow_eq, Nat.cast_mul, Nat.cast_pow, Nat.cast_ofNat,
      ← zpow_mul_pow_toNat (show (2 : ℚ) ≠ 0 by norm_num) j]
    ring
  exact compare_eq_of_scaled hpos hleft hright

/-- The half-way points in quarters of the last place. -/
theorem scaled_ends (h : 0 < x.mantissa) :
    ((4 * x.mantissa - (if x.closeBelow then 1 else 2) : ℕ) : ℚ) * 2 ^ (x.exponent - 2) =
        (x.mantissa - x.halfBelow) * 2 ^ x.exponent ∧
      ((4 * x.mantissa + 2 : ℕ) : ℚ) * 2 ^ (x.exponent - 2) =
        (x.mantissa + 1 / 2) * 2 ^ x.exponent := by
  have hquarter : (2 : ℚ) ^ (x.exponent - 2) = 2 ^ x.exponent / 4 := by
    rw [zpow_sub₀ (by norm_num)]
    norm_num
  rw [hquarter, halfBelow]
  constructor
  · cases x.closeBelow with
    | false =>
      rw [if_neg (by simp), if_neg (by simp), Nat.cast_sub (by omega)]
      push_cast
      ring
    | true =>
      rw [if_pos rfl, if_pos rfl, Nat.cast_sub (by omega)]
      push_cast
      ring
  · push_cast
    ring

theorem near_of_identifiedBy (h : 0 < x.mantissa) (hd : x.identifiedBy d = true) :
    x.Near d.value := by
  obtain ⟨hlow, hhigh⟩ := scaled_ends h
  simp only [identifiedBy, compareScaled_eq, hlow, hhigh, Bool.and_eq_true, Bool.or_eq_true,
    beq_iff_eq, compare_gt_iff_gt, compare_lt_iff_lt, compare_eq_iff_eq] at hd
  obtain ⟨habove, hbelow⟩ := hd
  refine ⟨?_, ?_, fun hodd => ⟨?_, ?_⟩⟩
  · rcases habove with h | ⟨_, h⟩
    · exact h.le
    · exact h.ge
  · rcases hbelow with h | ⟨_, h⟩
    · exact h.le
    · exact h.le
  · rcases habove with h | ⟨heven, _⟩
    · exact h
    · omega
  · rcases hbelow with h | ⟨heven, _⟩
    · exact h
    · omega

theorem near_self (x : Binary) : x.Near (x.mantissa * 2 ^ x.exponent) := by
  have hscale : (0 : ℚ) < 2 ^ x.exponent := by positivity
  have hgap : 0 < x.halfBelow := by
    rw [halfBelow]
    split <;> norm_num
  have habove : ((x.mantissa : ℚ) - x.halfBelow) * 2 ^ x.exponent < x.mantissa * 2 ^ x.exponent :=
    mul_lt_mul_of_pos_right (by linarith) hscale
  have hbelow : (x.mantissa : ℚ) * 2 ^ x.exponent < (x.mantissa + 1 / 2) * 2 ^ x.exponent :=
    mul_lt_mul_of_pos_right (by linarith) hscale
  exact ⟨habove.le, hbelow.le, fun _ => ⟨habove, hbelow⟩⟩

theorem identifiedBy_of_neighbour? (h : x.neighbour? i = some d) : x.identifiedBy d = true := by
  rw [neighbour?] at h
  split at h
  · next hlow hhigh =>
    split at h
    · cases h
      exact hhigh
    · cases h
      exact hlow
    · cases h
      split
      · exact hlow
      · exact hhigh
  · next hlow _ =>
    cases h
    exact hlow
  · next _ hhigh =>
    cases h
    exact hhigh
  · cases h

/-- The fewest digits identify the number, and so does its exact value. -/
theorem near_shortest (h : 0 < x.mantissa) : x.Near x.shortest.value := by
  rw [shortest]
  cases hfind : (List.range 17).findSome?
      fun n : Nat => x.neighbour? (x.places - (n + 1 : Nat)) with
  | some d =>
    obtain ⟨n, _, hd⟩ := List.exists_of_findSome?_eq_some hfind
    exact near_of_identifiedBy h (identifiedBy_of_neighbour? hd)
  | none =>
    have hvalue : Decimal.value ⟨x.mantissa * Nat.pow 2 x.exponent.toNat *
        Nat.pow 5 (-x.exponent).toNat, -(-x.exponent).toNat⟩ = x.mantissa * 2 ^ x.exponent := by
      have hten : (10 : ℚ) ^ (-x.exponent).toNat =
          2 ^ (-x.exponent).toNat * 5 ^ (-x.exponent).toNat := by
        rw [← mul_pow]
        norm_num
      simp only [Decimal.value, Nat.pow_eq, Nat.cast_mul, Nat.cast_pow, Nat.cast_ofNat, zpow_neg,
        zpow_natCast, hten, ← zpow_mul_pow_toNat (show (2 : ℚ) ≠ 0 by norm_num) x.exponent]
      field_simp
    rw [Option.getD_none, hvalue]
    exact near_self x

end Binary

end FlowTalk
