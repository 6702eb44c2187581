import FlowTalk.Proofs.Pattern.Forward

/-! Erasing goes through a text from left to right, if the pattern does not look behind. -/
namespace FlowTalk.Pattern

variable {p : Pattern} {new t rest fuel fuel' : Text} {b b' : Option Char} {c : Char} {m : Match}

/-- What the pattern matches somewhere does not depend on the character before. -/
def LooksAhead (p : Pattern) : Prop := ∀ b t, p.matchAfter b t = p.matchFront t

theorem replaceAfter_cons (h : p.matchAfter b (c :: t) = none) (fuel : Text) :
    p.replaceAfter new fuel b (c :: t) = c :: p.replaceAfter new fuel (some c) t := by
  cases fuel with
  | nil => rfl
  | cons d fuel =>
    rw [replaceAfter, replaceAfter, searchAfter_cons h]
    cases p.searchAfter (some c) t with
    | none => rfl
    | some m =>
      by_cases hbody : m.body = []
      · simp [Match.push, hbody]
      · simp [Match.push, hbody]

theorem replaceAfter_of_match (h : p.matchAfter b t = some m) (hbody : m.body ≠ []) (c : Char)
    (fuel : Text) :
    p.replaceAfter new (c :: fuel) b t =
      new ++ p.replaceAfter new fuel m.body.getLast? m.tail := by
  rw [replaceAfter_of_some (searchAfter_of_match h) hbody, (matchAfter_sound h).2, List.nil_append]

theorem replaceAfter_of_empty (h : p.matchAfter b t = some m) (hbody : m.body = []) (fuel : Text) :
    p.replaceAfter new fuel b t = t := by
  cases fuel with
  | nil => rfl
  | cons c fuel => simp [replaceAfter, searchAfter_of_match h, hbody]

theorem length_tail_lt (h : p.matchAfter b t = some m) (hbody : m.body ≠ []) :
    m.tail.length < t.length := by
  have hlength := congrArg List.length (matchAfter_sound h).1.text
  have hpos := List.length_pos_iff.2 hbody
  simp only [List.length_append] at hlength
  omega

namespace LooksAhead

/-- As many steps as the text is long are enough, and the character before does not matter. -/
theorem replaceAfter_congr (hp : p.LooksAhead) (hfuel : t.length ≤ fuel.length)
    (hfuel' : t.length ≤ fuel'.length) :
    p.replaceAfter [] fuel b t = p.replaceAfter [] fuel' b' t := by
  induction hn : t.length using Nat.strongRecOn generalizing t fuel fuel' b b' with
  | ind n ih =>
    cases t with
    | nil =>
      have hnil := fun fuel b => List.sublist_nil.1 (replaceAfter_nil_sublist p fuel b [])
      rw [hnil, hnil]
    | cons c t =>
      have hsame : p.matchAfter b (c :: t) = p.matchAfter b' (c :: t) :=
        (hp b _).trans (hp b' _).symm
      cases hmatch : p.matchAfter b (c :: t) with
      | none =>
        rw [List.length_cons] at hfuel hfuel' hn
        have hlater : p.replaceAfter [] fuel (some c) t = p.replaceAfter [] fuel' (some c) t :=
          ih t.length (by omega) (by omega) (by omega) rfl
        rw [replaceAfter_cons hmatch, replaceAfter_cons (hsame ▸ hmatch), hlater]
      | some m =>
        by_cases hbody : m.body = []
        · rw [replaceAfter_of_empty hmatch hbody, replaceAfter_of_empty (hsame ▸ hmatch) hbody]
        · have htail := length_tail_lt hmatch hbody
          have hlong : 0 < (c :: t).length := Nat.succ_pos _
          obtain ⟨d, fuel, rfl⟩ := List.exists_cons_of_length_pos (Nat.lt_of_lt_of_le hlong hfuel)
          obtain ⟨d', fuel', rfl⟩ :=
            List.exists_cons_of_length_pos (Nat.lt_of_lt_of_le hlong hfuel')
          simp only [List.length_cons] at hfuel hfuel' hn htail
          have hlater : p.replaceAfter [] fuel m.body.getLast? m.tail =
              p.replaceAfter [] fuel' m.body.getLast? m.tail :=
            ih m.tail.length (by omega) (by omega) (by omega) rfl
          rw [replaceAfter_of_match hmatch hbody, replaceAfter_of_match (hsame ▸ hmatch) hbody,
            hlater]

theorem erase_eq (hp : p.LooksAhead) (hfuel : t.length ≤ fuel.length) (b : Option Char) :
    p.replaceAfter [] fuel b t = p.erase t := hp.replaceAfter_congr hfuel (Nat.le_refl _)

theorem erase_cons (hp : p.LooksAhead) (h : p.matchFront (c :: t) = none) :
    p.erase (c :: t) = c :: p.erase t := by
  have hfuel : t.length ≤ (c :: t).length := Nat.le_succ _
  rw [← hp.erase_eq hfuel (some c)]
  exact replaceAfter_cons h (c :: t)

theorem erase_of_match (hp : p.LooksAhead) (h : p.matchFront t = some m) (hbody : m.body ≠ []) :
    p.erase t = p.erase m.tail := by
  have htail := length_tail_lt h hbody
  obtain ⟨c, fuel, rfl⟩ := List.exists_cons_of_length_pos (Nat.zero_lt_of_lt htail)
  rw [List.length_cons] at htail
  rw [← hp.erase_eq (Nat.le_of_lt_succ htail) m.body.getLast?]
  exact replaceAfter_of_match h hbody c fuel

end LooksAhead

end FlowTalk.Pattern
