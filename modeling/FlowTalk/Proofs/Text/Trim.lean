import FlowTalk.Text.Basic
import Mathlib.Data.List.DropRight

/-! A trimmed text is a piece of the text, and trimming it again changes nothing. -/
namespace FlowTalk.Text

variable {p : Char → Bool} {s t : Text}

theorem trimEndWhere_isPrefix (p : Char → Bool) (t : Text) : trimEndWhere p t <+: t :=
  List.rdropWhile_prefix p t

theorem trimWhere_isInfix (p : Char → Bool) (t : Text) : trimWhere p t <:+: t :=
  (trimEndWhere_isPrefix p _).isInfix.trans (List.dropWhile_suffix p).isInfix

theorem trim_isInfix (t : Text) : trim t <:+: t := trimWhere_isInfix isBlank t

/-- A prefix of what is left after dropping starts with a character that stays. -/
theorem dropWhile_of_prefix (h : s <+: t.dropWhile p) : s.dropWhile p = s := by
  cases s with
  | nil => rfl
  | cons c s =>
    obtain ⟨rest, hrest⟩ := h
    have hstop : ¬ p c = true := by
      have hself := List.dropWhile_idempotent p t
      rw [← hrest] at hself
      intro hc
      have hlong := (List.dropWhile_suffix p (l := s ++ rest)).length_le
      rw [List.cons_append, List.dropWhile_cons_of_pos hc] at hself
      rw [hself] at hlong
      exact Nat.not_succ_le_self _ hlong
    exact List.dropWhile_cons_of_neg hstop

theorem trimWhere_trimWhere (p : Char → Bool) (t : Text) :
    trimWhere p (trimWhere p t) = trimWhere p t := by
  have hfront : (trimWhere p t).dropWhile p = trimWhere p t :=
    dropWhile_of_prefix (trimEndWhere_isPrefix p _)
  calc trimWhere p (trimWhere p t) = trimEndWhere p (trimWhere p t) := by
        rw [trimWhere, hfront]
    _ = trimWhere p t := List.rdropWhile_idempotent p (t.dropWhile p)

@[simp]
theorem trim_trim (t : Text) : trim (trim t) = trim t := trimWhere_trimWhere isBlank t

theorem trimWhere_eq_nil_iff : trimWhere p t = [] ↔ ∀ c ∈ t, p c = true := by
  have hback : trimWhere p t = [] ↔ ∀ c ∈ t.dropWhile p, p c = true :=
    List.rdropWhile_eq_nil_iff
  rw [hback]
  constructor
  · intro h
    have hself := List.dropWhile_idempotent p t
    rw [List.dropWhile_eq_nil_iff.2 h] at hself
    exact List.dropWhile_eq_nil_iff.1 hself.symm
  · intro h c hc
    exact h c ((List.dropWhile_suffix p).subset hc)

theorem trim_ne_nil_iff : trim t ≠ [] ↔ ∃ c ∈ t, isBlank c = false := by
  rw [Ne, trim, trimWhere_eq_nil_iff]
  simp

theorem ne_nil_of_trim (h : trim t ≠ []) : t ≠ [] := by
  rintro rfl
  exact h rfl

theorem trimEndWhere_eq_self (hlast : ∀ c ∈ t.getLast?, p c = false) : trimEndWhere p t = t :=
  List.rdropWhile_eq_self_iff.2 fun hne => by
    simp [hlast _ (List.getLast?_eq_some_getLast hne)]

theorem trimWhere_eq_self (hfirst : ∀ c ∈ t.head?, p c = false)
    (hlast : ∀ c ∈ t.getLast?, p c = false) : trimWhere p t = t := by
  have hfront : t.dropWhile p = t := by
    cases t with
    | nil => rfl
    | cons c rest => exact List.dropWhile_cons_of_neg (by simp [hfirst c rfl])
  rw [trimWhere, hfront, trimEndWhere_eq_self hlast]

theorem trim_eq_self (hfirst : ∀ c ∈ t.head?, isBlank c = false)
    (hlast : ∀ c ∈ t.getLast?, isBlank c = false) : trim t = t := trimWhere_eq_self hfirst hlast

theorem trim_append_eq_self (hne : t ≠ []) (hfirst : ∀ c ∈ (s ++ t).head?, isBlank c = false)
    (hlast : ∀ c ∈ t.getLast?, isBlank c = false) : trim (s ++ t) = s ++ t :=
  trim_eq_self hfirst (by rwa [List.getLast?_append_of_ne_nil _ hne])

theorem trim_append_cons_eq_self (hs : s ≠ []) (ht : t ≠ [])
    (hfirst : ∀ c ∈ s.head?, isBlank c = false) (hlast : ∀ c ∈ t.getLast?, isBlank c = false)
    (c : Char) : trim (s ++ c :: t) = s ++ c :: t :=
  trim_append_eq_self (by simp) (by rwa [List.head?_append_of_ne_nil _ hs])
    (by rwa [List.getLast?_cons_of_ne_nil ht])

theorem trimWhere_cons {c : Char} (hc : p c = true) : trimWhere p (c :: t) = trimWhere p t := by
  rw [trimWhere, List.dropWhile_cons_of_pos hc, trimWhere]

theorem trim_dropWhile_append (s t : Text) : trim (s.dropWhile isBlank ++ t) = trim (s ++ t) := by
  induction s with
  | nil => rfl
  | cons c s ih =>
    by_cases hc : isBlank c = true
    · rw [List.dropWhile_cons_of_pos hc, ih]
      exact (trimWhere_cons hc).symm
    · rw [List.dropWhile_cons_of_neg hc]

theorem trimWhere_concat {c : Char} (hc : p c = true) : trimWhere p (t ++ [c]) = trimWhere p t := by
  rw [trimWhere, trimWhere, List.dropWhile_append]
  split
  · next hnil =>
    rw [List.isEmpty_iff.1 hnil, List.dropWhile_cons_of_pos hc, List.dropWhile_nil]
  · simp [trimEndWhere, List.dropWhile_cons_of_pos hc]

theorem trim_append_of_blank (ht : ∀ c ∈ t, isBlank c = true) : trim (s ++ t) = trim s := by
  induction t using List.reverseRecOn with
  | nil => rw [List.append_nil]
  | append_singleton t c ih =>
    rw [← List.append_assoc, trim, trimWhere_concat (ht c (by simp))]
    exact ih fun d hd => ht d (by simp [hd])

/-- A text that trimming leaves as it is neither begins nor ends with what is trimmed. -/
theorem ends_of_trimWhere_eq (h : trimWhere p t = t) :
    (∀ c ∈ t.head?, p c = false) ∧ ∀ c ∈ t.getLast?, p c = false := by
  refine ⟨fun c hc => Bool.eq_false_iff.2 fun hp => ?_,
    fun c hc => Bool.eq_false_iff.2 fun hp => ?_⟩
  · obtain ⟨t, rfl⟩ := List.head?_eq_some_iff.1 hc
    have hle := (trimWhere_isInfix p t).length_le
    have hlength := congrArg List.length ((trimWhere_cons hp).symm.trans h)
    rw [List.length_cons] at hlength
    omega
  · obtain ⟨t, rfl⟩ := List.getLast?_eq_some_iff.1 hc
    have hle := (trimWhere_isInfix p t).length_le
    have hlength := congrArg List.length ((trimWhere_concat hp).symm.trans h)
    rw [List.length_append, List.length_singleton] at hlength
    omega

/-- Trimming keeps the characters of a class of which none is trimmed. -/
theorem countP_trimWhere {q : Char → Bool} (h : ∀ c, p c = true → q c = false) (t : Text) :
    (trimWhere p t).countP q = t.countP q := by
  have hfront : ∀ u : Text, (u.dropWhile p).countP q = u.countP q := by
    intro u
    have hdropped : (u.takeWhile p).countP q = 0 :=
      List.countP_eq_zero.2 fun c hc => by simp [h c (List.mem_takeWhile_imp hc)]
    have hsplit := congrArg (List.countP q) (List.takeWhile_append_dropWhile (p := p) (l := u))
    rwa [List.countP_append, hdropped, Nat.zero_add] at hsplit
  rw [trimWhere, trimEndWhere, List.countP_reverse, hfront, List.countP_reverse, hfront]

theorem dropWhile_append_of_stop (h : ∀ c ∈ t.head?, p c = false) :
    (s ++ t).dropWhile p = s.dropWhile p ++ t := by
  have hstop : t.dropWhile p = t := by
    cases t with
    | nil => rfl
    | cons c rest => exact List.dropWhile_cons_of_neg (by simp [h c rfl])
  rw [List.dropWhile_append, hstop]
  split
  · next hs => rw [List.isEmpty_iff.1 hs, List.nil_append]
  · rfl

/-- Trimming a text around a core that begins and ends with other characters than white space. -/
theorem trim_around {core : Text} (hne : core ≠ []) (hfirst : ∀ c ∈ core.head?, isBlank c = false)
    (hlast : ∀ c ∈ core.getLast?, isBlank c = false) (s t : Text) :
    trim (s ++ (core ++ t)) = s.dropWhile isBlank ++ (core ++ trimEndWhere isBlank t) := by
  have hfront : (s ++ (core ++ t)).dropWhile isBlank = s.dropWhile isBlank ++ (core ++ t) := by
    refine dropWhile_append_of_stop fun c hc => hfirst c ?_
    rwa [List.head?_append_of_ne_nil _ hne] at hc
  rw [trim, trimWhere, hfront, trimEndWhere, ← List.append_assoc, List.reverse_append,
    dropWhile_append_of_stop]
  · simp [trimEndWhere]
  · intro c hc
    refine hlast c ?_
    rwa [List.head?_reverse, List.getLast?_append_of_ne_nil _ hne] at hc

end FlowTalk.Text
