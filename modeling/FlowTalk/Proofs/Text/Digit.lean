import FlowTalk.Text.Basic
import FlowTalk.Text.Digit
import Mathlib.Data.Bool.AllAny

/-! The digits that numbers are written with. -/
namespace FlowTalk

def decimals : Text := "0123456789".toList

theorem digitChar_mem_decimals : ∀ d < 10, Nat.digitChar d ∈ decimals := by decide

theorem mem_decimals_of_mem_ofNat (n : Nat) : ∀ c ∈ Text.ofNat n, c ∈ decimals := by
  induction n using Nat.strongRecOn with
  | ind n ih =>
    intro c hc
    rw [Text.ofNat, Nat.toDigits_eq_if (by decide)] at hc
    split at hc
    · rename_i hlt
      obtain rfl := List.mem_singleton.1 hc
      exact digitChar_mem_decimals n hlt
    · rename_i hge
      rcases List.mem_append.1 hc with hc | hc
      · exact ih (n / 10) (Nat.div_lt_self (by omega) (by decide)) c hc
      · obtain rfl := List.mem_singleton.1 hc
        exact digitChar_mem_decimals (n % 10) (Nat.mod_lt n (by decide))

theorem ofNat_ne_nil (n : Nat) : Text.ofNat n ≠ [] := Nat.toDigits_ne_nil

theorem isBlank_of_mem_decimals : ∀ c ∈ decimals, isBlank c = false :=
  List.all_iff_forall_prop.1 (by decide)

theorem isBlank_of_isDigit {c : Char} (h : isDigit c = true) : isBlank c = false := by
  cases hblank : isBlank c with
  | false => rfl
  | true =>
    have hall : ∀ r ∈ blankRanges, ∀ n ∈ List.range' r.1 (r.2 + 1 - r.1),
        digitAbove digitZeros n = none := by decide +kernel
    obtain ⟨r, hr, hfirst, hlast⟩ := Ranges.exists_of_covers hblank
    have hnone := hall r hr c.toNat (List.mem_range'_1.2 ⟨hfirst, by omega⟩)
    rw [isDigit, digitValue?, hnone] at h
    cases h

theorem isDigit_of_mem_decimals : ∀ c ∈ decimals, isDigit c = true :=
  List.all_iff_forall_prop.1 (by decide)

end FlowTalk
