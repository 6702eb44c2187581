import FlowTalk.Proofs.Json.Scalars
import Mathlib.Data.List.Infix
import Mathlib.Data.List.TakeWhile

/-! A word or a number at the front of a text is one on its own as well. -/
namespace FlowTalk

variable {t u r rest digits : Text} {negative : Bool} {e : Int} {c : Char}

/-- Neither a quote nor a brace nor a backtick, which have a meaning around a value. -/
def Inert (c : Char) : Prop := c ∉ ['"', '\x7b', '\x7d', '`']

instance (c : Char) : Decidable (Inert c) := instDecidableNot

theorem inert_of_isDigit (h : c.isDigit = true) : Inert c := by
  have hall : ∀ c ∈ ['"', '\x7b', '\x7d', '`'], c.isDigit = false :=
    List.all_iff_forall_prop.1 (by decide)
  intro hc
  rw [hall c hc] at h
  cases h

theorem digits_front (t : Text) :
    t = t.takeWhile Char.isDigit ++ t.drop (t.takeWhile Char.isDigit).length ∧
      (t.takeWhile Char.isDigit).takeWhile Char.isDigit = t.takeWhile Char.isDigit ∧
      ∀ c ∈ t.takeWhile Char.isDigit, Inert c := by
  have hdigits : ∀ c ∈ t.takeWhile Char.isDigit, c.isDigit = true :=
    fun c hc => List.mem_takeWhile_imp hc
  exact ⟨(List.prefix_iff_eq_append.1 (List.takeWhile_prefix _)).symm,
    List.takeWhile_eq_self_iff.2 hdigits, fun c hc => inert_of_isDigit (hdigits c hc)⟩

namespace Written

theorem digits?_front {n : Nat} (h : digits? t = some (n, r)) :
    ∃ u, t = u ++ r ∧ digits? u = some (n, []) ∧ ∀ c ∈ u, Inert c := by
  obtain ⟨htext, hself, hinert⟩ := digits_front t
  rw [digits?] at h
  by_cases hempty : (t.takeWhile Char.isDigit).isEmpty = true
  · simp [hempty] at h
  · rw [if_neg hempty] at h
    cases h
    refine ⟨_, htext, ?_, hinert⟩
    rw [digits?, hself, if_neg hempty, List.drop_length]

theorem signed?_front {sign : Nat → Int} (h : signed? sign t = some (e, r)) :
    ∃ u, t = u ++ r ∧ signed? sign u = some (e, []) ∧ ∀ c ∈ u, Inert c := by
  obtain ⟨n, hn, hsign⟩ := signed?_eq_some.1 h
  obtain ⟨u, htext, hu, hinert⟩ := digits?_front hn
  exact ⟨u, htext, signed?_eq_some.2 ⟨n, hu, hsign⟩, hinert⟩

theorem exponent?_front (h : exponent? t = some (e, r)) :
    ∃ u, t = u ++ r ∧ exponent? u = some (e, []) ∧ ∀ c ∈ u, Inert c := by
  cases t with
  | nil => cases h
  | cons c t =>
    rw [exponent?_cons] at h
    by_cases hminus : c = '-'
    · rw [if_pos hminus] at h
      obtain ⟨u, rfl, hu, hinert⟩ := signed?_front h
      refine ⟨c :: u, rfl, ?_, List.forall_mem_cons.2 ⟨by rw [hminus]; decide, hinert⟩⟩
      rw [exponent?_cons, if_pos hminus, hu]
    · rw [if_neg hminus] at h
      by_cases hplus : c = '+'
      · rw [if_pos hplus] at h
        obtain ⟨u, rfl, hu, hinert⟩ := signed?_front h
        refine ⟨c :: u, rfl, ?_, List.forall_mem_cons.2 ⟨by rw [hplus]; decide, hinert⟩⟩
        rw [exponent?_cons, if_neg hminus, if_pos hplus, hu]
      · rw [if_neg hplus] at h
        obtain ⟨u, htext, hu, hinert⟩ := signed?_front h
        cases u with
        | nil => cases hu
        | cons d u =>
          obtain rfl : c = d := (List.cons.inj htext).1
          refine ⟨c :: u, htext, ?_, hinert⟩
          rw [exponent?_cons, if_neg hminus, if_neg hplus, hu]

end Written

namespace Json

theorem wholePart?_eq (h : wholePart? t = some (digits, r)) :
    t = digits ++ r ∧ digits ≠ [] ∧ ∀ c ∈ digits, c.isDigit = true := by
  cases t with
  | nil => cases h
  | cons c t =>
    by_cases hzero : c = '0'
    · simp only [wholePart?, hzero, if_true, Option.some.injEq, Prod.mk.injEq] at h
      obtain ⟨rfl, rfl⟩ := h
      exact ⟨by rw [hzero]; rfl, List.cons_ne_nil _ _, by simp⟩
    · by_cases hc : c.isDigit = true
      · simp only [wholePart?, hzero, hc, if_false, if_true, Option.some.injEq,
          Prod.mk.injEq] at h
        obtain ⟨rfl, rfl⟩ := h
        have hprefix : (c :: t).takeWhile Char.isDigit <+: c :: t := List.takeWhile_prefix _
        exact ⟨(List.prefix_iff_eq_append.1 hprefix).symm, by simp [hc],
          fun d hd => List.mem_takeWhile_imp hd⟩
      · simp [wholePart?, hzero, hc] at h

theorem wholePart?_front (h : wholePart? t = some (digits, r)) :
    wholePart? digits = some (digits, []) := by
  cases t with
  | nil => cases h
  | cons c t =>
    by_cases hzero : c = '0'
    · simp only [wholePart?, hzero, if_true, Option.some.injEq, Prod.mk.injEq] at h
      obtain ⟨rfl, _⟩ := h
      rfl
    · by_cases hc : c.isDigit = true
      · simp only [wholePart?, hzero, hc, if_false, if_true, Option.some.injEq,
          Prod.mk.injEq] at h
        obtain ⟨rfl, _⟩ := h
        obtain ⟨_, hself, _⟩ := digits_front (c :: t)
        rw [List.takeWhile_cons_of_pos hc] at hself ⊢
        simp only [wholePart?, hzero, hc, if_false, if_true, hself, List.drop_length]
      · simp [wholePart?, hzero, hc] at h

theorem fractionPart?_front (h : fractionPart? t = some (digits, r)) :
    ∃ u, t = u ++ r ∧ fractionPart? u = some (digits, []) ∧ NoDigit u ∧ ∀ c ∈ u, Inert c := by
  cases t with
  | nil => cases h
  | cons c t =>
    by_cases hc : c = '.'
    · subst hc
      obtain ⟨htext, hself, hinert⟩ := digits_front t
      rw [fractionPart?_point] at h
      by_cases hempty : (t.takeWhile Char.isDigit).isEmpty = true
      · simp [hempty] at h
      · rw [if_neg hempty] at h
        cases h
        refine ⟨'.' :: _, congrArg ('.' :: ·) htext, ?_, by simp [NoDigit],
          List.forall_mem_cons.2 ⟨by decide, hinert⟩⟩
        rw [fractionPart?_point, hself, if_neg hempty, List.drop_length]
    · rw [fractionPart?_of_ne hc] at h
      cases h

theorem exponentPart?_front (h : exponentPart? t = some (e, r)) :
    ∃ u, t = u ++ r ∧ exponentPart? u = some (e, []) ∧ NoDigit u ∧ ∀ c ∈ u, Inert c := by
  cases t with
  | nil => cases h
  | cons c t =>
    by_cases hc : c = 'e' ∨ c = 'E'
    · rw [exponentPart?, if_pos hc] at h
      obtain ⟨u, rfl, hu, hinert⟩ := Written.exponent?_front h
      have hmark : c.isDigit = false ∧ Inert c := by rcases hc with rfl | rfl <;> decide
      refine ⟨c :: u, rfl, ?_, by simpa [NoDigit] using hmark.1,
        List.forall_mem_cons.2 ⟨hmark.2, hinert⟩⟩
      rw [exponentPart?, if_pos hc, hu]
    · rw [exponentPart?, if_neg hc] at h
      cases h

theorem unsignedNumber_front {n : Number} {whole : Text}
    (h : unsignedNumber negative whole t = .ok (n, r)) : ∃ u, t = u ++ r ∧
      unsignedNumber negative whole u = .ok (n, []) ∧ NoDigit u ∧ ∀ c ∈ u, Inert c := by
  rw [unsignedNumber] at h
  cases hf : fractionPart? t with
  | none =>
    cases he : exponentPart? t with
    | none =>
      rw [hf, he] at h
      cases hn : Numeral.read whole with
      | error error => simp [hn] at h
      | ok m =>
        obtain ⟨hvalue, rfl⟩ : _ ∧ t = r := by simpa [hn] using h
        refine ⟨[], rfl, ?_, by simp [NoDigit], by simp⟩
        simp [unsignedNumber, fractionPart?, exponentPart?, hn, hvalue]
    | some exponent =>
      obtain ⟨e, r'⟩ := exponent
      obtain ⟨rfl, rfl⟩ : _ ∧ r' = r := by simpa [hf, he] using h
      obtain ⟨u, htext, hu, hstop, hinert⟩ := exponentPart?_front he
      have hnone : fractionPart? (u ++ []) = none := fractionPart?_append_of_exponent hu
      rw [List.append_nil] at hnone
      refine ⟨u, htext, ?_, hstop, hinert⟩
      simp [unsignedNumber, hnone, hu]
  | some fraction =>
    obtain ⟨digits, r'⟩ := fraction
    obtain ⟨u, htext, hu, hstop, hinert⟩ := fractionPart?_front hf
    cases he : exponentPart? r' with
    | none =>
      obtain ⟨rfl, rfl⟩ : _ ∧ r' = r := by simpa [hf, he] using h
      refine ⟨u, htext, ?_, hstop, hinert⟩
      simp [unsignedNumber, hu, exponentPart?]
    | some exponent =>
      obtain ⟨e, r''⟩ := exponent
      obtain ⟨rfl, rfl⟩ : _ ∧ r'' = r := by simpa [hf, he] using h
      obtain ⟨v, rfl, hv, hstop', hinert'⟩ := exponentPart?_front he
      refine ⟨u ++ v, by rw [htext, List.append_assoc], ?_, ?_,
        List.forall_mem_append.2 ⟨hinert, hinert'⟩⟩
      · simp [unsignedNumber, fractionPart?_append hstop' hu, hv]
      · cases u with
        | nil => cases hu
        | cons c u => exact hstop

theorem digitsOrFault_front {n : Number} (h : digitsOrFault negative rest t = .ok (n, r)) :
    ∃ u, t = u ++ r ∧ (∀ rest, digitsOrFault negative rest u = .ok (n, [])) ∧
      ∀ c ∈ u, Inert c := by
  rw [digitsOrFault] at h
  cases hw : wholePart? t with
  | none => simp [hw] at h
  | some whole =>
    obtain ⟨digits, r'⟩ := whole
    rw [hw] at h
    obtain ⟨u, rfl, hu, hstop, hinert⟩ := unsignedNumber_front h
    obtain ⟨htext, _, hdigits⟩ := wholePart?_eq hw
    have hwhole : wholePart? (digits ++ u) = some (digits, u) :=
      wholePart?_append hstop (wholePart?_front hw)
    refine ⟨digits ++ u, by rw [htext, List.append_assoc], fun rest => ?_,
      List.forall_mem_append.2 ⟨fun c hc => inert_of_isDigit (hdigits c hc), hinert⟩⟩
    rw [digitsOrFault, hwhole]
    exact hu

theorem number_front {n : Number} (h : number t = .ok (n, r)) :
    ∃ u, t = u ++ r ∧ number u = .ok (n, []) ∧ ∀ c ∈ u, Inert c := by
  cases t with
  | nil => cases h
  | cons c t =>
    rw [number_cons] at h
    by_cases hminus : c = '-'
    · rw [if_pos hminus] at h
      obtain ⟨u, rfl, hu, hinert⟩ := digitsOrFault_front h
      refine ⟨c :: u, rfl, ?_, List.forall_mem_cons.2 ⟨by rw [hminus]; decide, hinert⟩⟩
      rw [number_cons, if_pos hminus, hu]
    · rw [if_neg hminus] at h
      obtain ⟨u, htext, hu, hinert⟩ := digitsOrFault_front h
      cases u with
      | nil => cases hu []
      | cons d u =>
        obtain rfl : c = d := (List.cons.inj htext).1
        refine ⟨c :: u, htext, ?_, hinert⟩
        rw [number_cons, if_neg hminus, hu]

/-- What is read from the front of a text as a word or a number is read so without the rest. -/
theorem scalar_front {v : Json} (h : scalar t = .ok (v, r)) :
    ∃ u, t = u ++ r ∧ scalar u = .ok (v, []) ∧ ∀ c ∈ u, Inert c := by
  rcases scalar_cases h with ⟨word, hmem, rfl⟩ | ⟨n, rfl, hnumber⟩
  · refine ⟨word, rfl, ?_⟩
    simp only [wordValues, List.mem_cons, List.not_mem_nil, or_false, Prod.mk.injEq] at hmem
    rcases hmem with ⟨rfl, rfl⟩ | ⟨rfl, rfl⟩ | ⟨rfl, rfl⟩ | ⟨rfl, rfl⟩ | ⟨rfl, rfl⟩ | ⟨rfl, rfl⟩
    all_goals exact ⟨rfl, List.all_iff_forall_prop.1 (by decide)⟩
  · obtain ⟨u, htext, hu, hinert⟩ := number_front hnumber
    exact ⟨u, htext, scalar_of_number hu, hinert⟩

theorem inert_of_scalar {v : Json} (h : scalar u = .ok (v, [])) : ∀ c ∈ u, Inert c := by
  obtain ⟨w, rfl, _, hinert⟩ := scalar_front h
  rwa [List.append_nil]

theorem scalar_ne_obj {ms : List (Text × Json)} : scalar t ≠ .ok (.obj ms, r) := by
  intro h
  rcases scalar_cases h with ⟨word, hmem, _⟩ | ⟨n, hn, _⟩
  · simp only [wordValues, List.mem_cons, List.not_mem_nil, or_false, Prod.mk.injEq] at hmem
    rcases hmem with ⟨_, h⟩ | ⟨_, h⟩ | ⟨_, h⟩ | ⟨_, h⟩ | ⟨_, h⟩ | ⟨_, h⟩
    all_goals cases h
  · cases hn

end Json

end FlowTalk
