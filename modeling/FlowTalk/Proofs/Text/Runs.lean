import FlowTalk.Proofs.Pattern.Search
import FlowTalk.Proofs.Text.Trim
import FlowTalk.Text.Digit

/-! Runs of digits of a text, and what leaves them whole. -/
namespace FlowTalk

/-- Every character is a decimal digit of some script. -/
def AllDigits (t : Text) : Prop := ∀ c ∈ t, isDigit c = true

/-- Every run of digits in the first text is one in the second. -/
def RunsWithin (s t : Text) : Prop := ∀ ds, AllDigits ds → ds <:+: s → ds <:+: t

variable {s t u x y ds front gap rest : Text} {c : Char}

theorem RunsWithin.of_isInfix (h : s <:+: t) : RunsWithin s t := fun _ _ hds => hds.trans h

theorem RunsWithin.trans (h : RunsWithin s t) (h' : RunsWithin t u) : RunsWithin s u :=
  fun ds hdigits hds => h' ds hdigits (h ds hdigits hds)

/-- A piece without a character lies on one side of it. -/
theorem infix_of_infix_append_cons (h : ds <:+: front ++ c :: rest) (hc : c ∉ ds) :
    ds <:+: front ∨ ds <:+: rest := by
  induction front with
  | nil =>
    rcases List.infix_cons_iff.1 h with h | h
    · cases ds with
      | nil => exact Or.inl List.nil_infix
      | cons d ds =>
        have hd : d = c := (List.cons_prefix_cons.1 h).1
        exact absurd (hd ▸ List.mem_cons_self) hc
    · exact Or.inr h
  | cons d front ih =>
    rcases List.infix_cons_iff.1 h with h | h
    · have hmark : (d :: front) ++ [c] <+: d :: (front ++ c :: rest) := ⟨rest, by simp⟩
      rcases List.prefix_or_prefix_of_prefix h hmark with h | h
      · rcases List.prefix_concat_iff.1 h with rfl | h
        · simp at hc
        · exact Or.inl h.isInfix
      · exact absurd (h.subset (by simp)) hc
    · rcases ih h with h | h
      · exact Or.inl (List.infix_cons h)
      · exact Or.inr h

/-- A piece without a character stands before the character or behind it. -/
theorem piece_beside (h : x ++ c :: y = front ++ (gap ++ rest)) (hc : c ∉ gap) :
    (∃ u, x = front ++ (gap ++ u) ∧ rest = u ++ c :: y) ∨
      ∃ u, front = x ++ c :: u ∧ y = u ++ (gap ++ rest) := by
  rcases List.append_eq_append_iff.1 h with ⟨as, rfl, has⟩ | ⟨bs, rfl, hbs⟩
  · cases as with
    | nil =>
      cases gap with
      | nil => exact Or.inl ⟨[], by simp, by simpa using has.symm⟩
      | cons d gap =>
        obtain ⟨rfl, _⟩ := List.cons.inj has
        simp at hc
    | cons d as =>
      obtain ⟨rfl, hrest⟩ := List.cons.inj has
      exact Or.inr ⟨as, rfl, hrest⟩
  · rcases List.append_eq_append_iff.1 hbs with ⟨cs, rfl, hcs⟩ | ⟨ds, rfl, hds⟩
    · exact Or.inl ⟨cs, rfl, hcs⟩
    · cases ds with
      | nil => exact Or.inl ⟨[], by simp, by simpa using hds.symm⟩
      | cons d ds =>
        obtain ⟨rfl, _⟩ := List.cons.inj hds
        simp at hc

theorem AllDigits.not_mem (hdigits : AllDigits ds) (hc : isDigit c = false) : c ∉ ds := by
  intro hmem
  rw [hdigits c hmem] at hc
  cases hc

theorem RunsWithin.append_of_no_digit (h : RunsWithin front t)
    (hrest : ∀ c ∈ rest, isDigit c = false) : RunsWithin (front ++ rest) t := by
  intro ds hdigits hds
  induction rest with
  | nil => exact h ds hdigits (by simpa using hds)
  | cons c rest ih =>
    rcases infix_of_infix_append_cons hds (hdigits.not_mem (hrest c (by simp))) with hds | hds
    · exact h ds hdigits hds
    · refine ih (fun d hd => hrest d (by simp [hd])) (hds.trans ?_)
      exact (List.suffix_append front rest).isInfix

namespace Pattern

variable {p : Pattern}

theorem AtFinish.erase_runsWithin (hp : p.AtFinish) (t : Text) : RunsWithin (p.erase t) t := by
  obtain ⟨front, rest, herase, hfront, hrest⟩ := hp.erase_eq t
  rw [herase]
  refine (RunsWithin.of_isInfix hfront.isInfix).append_of_no_digit ?_
  intro c hc
  rw [hrest c hc]
  decide

/-- Blanks in place of the matches do not join runs of digits. -/
theorem replaceAfter_runsWithin (hc : isDigit c = false) (fuel : Text) (b : Option Char)
    (t : Text) : RunsWithin (p.replaceAfter [c] fuel b t) t := by
  induction fuel generalizing b t with
  | nil => exact .of_isInfix (List.infix_refl t)
  | cons d fuel ih =>
    cases hs : p.searchAfter b t with
    | none => simpa [replaceAfter, hs] using RunsWithin.of_isInfix (List.infix_refl t)
    | some m =>
      by_cases hbody : m.body.isEmpty = true
      · simpa [replaceAfter, hs, hbody] using RunsWithin.of_isInfix (List.infix_refl t)
      · have hm := searchAfter_sound hs
        have hout : p.replaceAfter [c] (d :: fuel) b t =
            m.head ++ c :: p.replaceAfter [c] fuel m.body.getLast? m.tail := by
          simp [replaceAfter, hs, hbody]
        intro ds hdigits hds
        rw [hout] at hds
        rcases infix_of_infix_append_cons hds (hdigits.not_mem hc) with hds | hds
        · exact hds.trans hm.head_isPrefix.isInfix
        · exact (ih _ m.tail ds hdigits hds).trans hm.tail_isSuffix.isInfix

theorem replace_runsWithin (hc : isDigit c = false) (t : Text) :
    RunsWithin (p.replace [c] t) t :=
  replaceAfter_runsWithin hc t none t

end Pattern

end FlowTalk
