import FlowTalk.Numeral
import FlowTalk.Proofs.Text.Digit
import FlowTalk.Text.Basic
import FlowTalk.Text.Lowercase
import FlowTalk.Text.Word

/-! Texts with small letters for their ASCII capitals, and what does not see the difference. -/
namespace FlowTalk

/-- A text with small letters for its ASCII capitals. -/
def small (w : Text) : Text := w.map Char.toLower

/-- The function takes an ASCII capital and its small letter to the same value. -/
def IgnoresCase {α : Type} (f : Char → α) : Prop := ∀ c : Char, f c.toLower = f c

variable {p : Char → Bool} {c : Char} {s t : Text}

theorem toLower_cases (c : Char) : c.toLower = c ∨ 65 ≤ c.toNat ∧ c.toNat < 91 := by
  by_cases hc : 65 ≤ c.toNat ∧ c.toNat ≤ 90
  · exact Or.inr (by omega)
  · exact Or.inl (dif_neg hc)

/-- Only the capitals have to be looked at. -/
theorem ignoresCase_of_capitals {α : Type} {f : Char → α}
    (h : ∀ n < 91, 65 ≤ n → f (Char.ofNat n).toLower = f (Char.ofNat n)) : IgnoresCase f := by
  intro c
  rcases toLower_cases c with hc | ⟨hlow, hhigh⟩
  · rw [hc]
  · simpa [Char.ofNat_toNat] using h c.toNat hhigh hlow

theorem ignoresCase_toLower : IgnoresCase Char.toLower := ignoresCase_of_capitals (by decide)

theorem ignoresCase_isBlank : IgnoresCase isBlank := ignoresCase_of_capitals (by decide)

theorem ignoresCase_isWord : IgnoresCase isWord := ignoresCase_of_capitals (by decide)

theorem ignoresCase_digitValue? : IgnoresCase digitValue? := ignoresCase_of_capitals (by decide)

theorem ignoresCase_isDigit : IgnoresCase isDigit := fun c => by
  rw [isDigit, ignoresCase_digitValue?, isDigit]

theorem ignoresCase_isCased : IgnoresCase isCased := ignoresCase_of_capitals (by decide)

theorem ignoresCase_isCaseIgnorable : IgnoresCase isCaseIgnorable :=
  ignoresCase_of_capitals (by decide)

theorem ignoresCase_lowerChar : IgnoresCase lowerChar := ignoresCase_of_capitals (by decide)

/-- A character that is no letter is told from all others in either case. -/
theorem toLower_eq_iff {d : Char} (hd : ∀ n < 91, 65 ≤ n → (Char.ofNat n).toLower ≠ d ∧
    Char.ofNat n ≠ d) : c.toLower = d ↔ c = d := by
  rcases toLower_cases c with hc | ⟨hlow, hhigh⟩
  · rw [hc]
  · have hne := hd c.toNat hhigh hlow
    rw [Char.ofNat_toNat] at hne
    exact iff_of_false hne.1 hne.2

@[simp]
theorem small_nil : small [] = [] := rfl

@[simp]
theorem small_cons (c : Char) (t : Text) : small (c :: t) = c.toLower :: small t := rfl

@[simp]
theorem small_append (s t : Text) : small (s ++ t) = small s ++ small t := List.map_append

@[simp]
theorem length_small (t : Text) : (small t).length = t.length := List.length_map ..

@[simp]
theorem small_eq_nil_iff : small t = [] ↔ t = [] := List.map_eq_nil_iff

@[simp]
theorem isEmpty_small (t : Text) : (small t).isEmpty = t.isEmpty := by cases t <;> rfl

@[simp]
theorem small_small (t : Text) : small (small t) = small t := by
  simp only [small, List.map_map]
  exact List.map_congr_left fun c _ => ignoresCase_toLower c

theorem small_take (n : Nat) (t : Text) : small (t.take n) = (small t).take n := List.map_take

theorem small_drop (n : Nat) (t : Text) : small (t.drop n) = (small t).drop n := List.map_drop

@[simp]
theorem getLast?_small (t : Text) : (small t).getLast? = t.getLast?.map Char.toLower :=
  List.getLast?_map

@[simp]
theorem head?_small (t : Text) : (small t).head? = t.head?.map Char.toLower := List.head?_map

theorem any_map_toLower (hp : IgnoresCase p) (b : Option Char) :
    (b.map Char.toLower).any p = b.any p := by
  cases b with
  | none => rfl
  | some c => exact hp c

theorem dropWhile_small (hp : IgnoresCase p) (t : Text) :
    (small t).dropWhile p = small (t.dropWhile p) := by
  have hcomp : p ∘ Char.toLower = p := funext hp
  rw [small, List.dropWhile_map, hcomp, small]

theorem small_reverse (t : Text) : small t.reverse = (small t).reverse := List.map_reverse

namespace Text

theorem trimEndWhere_small (hp : IgnoresCase p) (t : Text) :
    trimEndWhere p (small t) = small (trimEndWhere p t) := by
  rw [trimEndWhere, trimEndWhere, ← small_reverse, dropWhile_small hp, small_reverse]

theorem trimWhere_small (hp : IgnoresCase p) (t : Text) :
    trimWhere p (small t) = small (trimWhere p t) := by
  rw [trimWhere, dropWhile_small hp, trimEndWhere_small hp, trimWhere]

@[simp]
theorem trim_small (t : Text) : trim (small t) = small (trim t) :=
  trimWhere_small ignoresCase_isBlank t

theorem small_ofNat (n : Nat) : small (ofNat n) = ofNat n := by
  have hdigits : ∀ c ∈ decimals, c.toLower = c := List.all_iff_forall_prop.1 (by decide)
  calc small (ofNat n) = (ofNat n).map id :=
        List.map_congr_left fun c hc => hdigits c (mem_decimals_of_mem_ofNat n c hc)
    _ = ofNat n := List.map_id _

end Text

theorem beforeCased_small (t : Text) : beforeCased (small t) = beforeCased t := by
  rw [beforeCased, beforeCased, dropWhile_small ignoresCase_isCaseIgnorable]
  cases t.dropWhile isCaseIgnorable with
  | nil => rfl
  | cons c rest => exact ignoresCase_isCased c

theorem lowerAt_small (afterCased : Bool) (c : Char) (rest : Text) :
    lowerAt afterCased c.toLower (small rest) = lowerAt afterCased c rest := by
  have hsigma : c.toLower = 'Σ' ↔ c = 'Σ' := toLower_eq_iff (by decide)
  have hdotted : c.toLower = 'İ' ↔ c = 'İ' := toLower_eq_iff (by decide)
  simp only [lowerAt, hsigma, hdotted, beforeCased_small, ignoresCase_lowerChar c]

theorem lowerFrom_small (afterCased : Bool) (t : Text) :
    lowerFrom afterCased (small t) = lowerFrom afterCased t := by
  induction t generalizing afterCased with
  | nil => rfl
  | cons c rest ih =>
    rw [small_cons, lowerFrom, lowerAt_small, ignoresCase_isCaseIgnorable, ignoresCase_isCased, ih,
      lowerFrom]

/-- The context that a sigma is read in does not depend on the case of letters. -/
@[simp]
theorem lower_small (t : Text) : lower (small t) = lower t := lowerFrom_small false t

namespace Numeral

theorem value_small (t : Text) : value (small t) = value t := by
  rw [value, value, small, List.foldl_map]
  simp only [ignoresCase_digitValue? _]

@[simp]
theorem read_small (t : Text) : read (small t) = read t := by
  rw [read, read, length_small, value_small]

end Numeral

end FlowTalk
