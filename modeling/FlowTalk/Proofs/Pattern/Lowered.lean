import FlowTalk.Proofs.Pattern.WholeWord
import FlowTalk.Proofs.Text.Lowercase
import Mathlib.Data.List.Forall2

/-! Where the whole words of a text in lower case come from. -/
namespace FlowTalk
open Pattern

variable {t : Text} {c : Char}

/-- The second character may stand for the first in lower case: it makes no end of a word, no white
space and no ASCII letter that was not there. -/
structure LowersTo (c d : Char) : Prop where
  word : isWord c = true → isWord d = true
  blank : isBlank d = true → isBlank c = true
  base : (baseLetter d).isLower = true → baseLetter c = baseLetter d

instance (c d : Char) : Decidable (LowersTo c d) :=
  decidable_of_iff ((isWord c = true → isWord d = true) ∧ (isBlank d = true → isBlank c = true) ∧
      ((baseLetter d).isLower = true → baseLetter c = baseLetter d))
    ⟨fun h => ⟨h.1, h.2.1, h.2.2⟩, fun h => ⟨h.word, h.blank, h.base⟩⟩

theorem LowersTo.refl (c : Char) : LowersTo c c := ⟨id, id, fun _ => rfl⟩

/-- All code points of an interval lie in one of the ranges. -/
def Ranges.includes : Ranges → Nat → Nat → Bool
  | [], _, _ => false
  | (first, last) :: rest, a, b =>
    if a < first then false else if a ≤ last then b ≤ last else includes rest a b

theorem Ranges.covers_of_includes {rs : Ranges} {a b n : Nat} (h : rs.includes a b = true)
    (ha : a ≤ n) (hb : n ≤ b) : rs.covers n = true := by
  induction rs with
  | nil => simp [includes] at h
  | cons r rest ih =>
    obtain ⟨first, last⟩ := r
    by_cases hfirst : a < first
    · simp [includes, hfirst] at h
    · rw [covers, if_neg (by omega)]
      by_cases hlast : a ≤ last
      · have hle : b ≤ last := by simpa [includes, hfirst, hlast] using h
        rw [if_pos (by omega)]
      · rw [if_neg (by omega)]
        exact ih (by simpa [includes, hfirst, hlast] using h)

/-- Characters beside the ASCII ones of which the base letter is one. -/
def foldedLetters : List Nat := [304, 305, 383, 8490]

/-- The images of a run of capitals are no ASCII letters and parts of words. -/
def CaseRun.Foreign (r : CaseRun) : Prop :=
  128 ≤ r.image ∧ wordRanges.includes r.image (r.image + (r.last - r.first)) = true ∧
    (∀ s ∈ foldedLetters, s < r.image ∨ r.image + (r.last - r.first) < s) ∧
    (r.image + (r.last - r.first) < 55296 ∨
      57343 < r.image ∧ r.image + (r.last - r.first) < 1114112)

instance (r : CaseRun) : Decidable r.Foreign := instDecidableAnd

/-- The other runs are the ASCII capitals, the Kelvin sign and the letters in circles. -/
theorem foreign_or_small : ∀ r ∈ caseRuns, r.Foreign ∨
    ∀ i ∈ List.range ((r.last - r.first) / r.stride + 1),
      LowersTo (Char.ofNat (r.first + i * r.stride)) (Char.ofNat (r.image + i * r.stride)) := by
  decide +kernel

theorem isLower_baseLetter_eq_false (hascii : 128 ≤ c.toNat) (hfolded : c.toNat ∉ foldedLetters) :
    (baseLetter c).isLower = false := by
  have hne : ∀ d : Char, d.toNat ∈ foldedLetters → c ≠ d := by
    rintro d hd rfl
    exact hfolded hd
  have hself : baseLetter c = c := by
    rw [baseLetter, if_neg (hne _ (by decide)), if_neg (hne _ (by decide)),
      if_neg (not_or.2 ⟨hne _ (by decide), hne _ (by decide)⟩)]
    exact dif_neg (show ¬ (65 ≤ c.toNat ∧ c.toNat ≤ 90) by omega)
  rw [hself, Bool.eq_false_iff, Ne, isLower_iff]
  omega

theorem CaseRun.Foreign.lowersTo {r : CaseRun} (h : r.Foreign) {i : Nat}
    (hi : i ≤ (r.last - r.first) / r.stride) (c : Char) :
    LowersTo c (Char.ofNat (r.image + i * r.stride)) := by
  obtain ⟨hascii, hwords, hfolded, hvalid⟩ := h
  have hle : i * r.stride ≤ r.last - r.first :=
    Nat.le_trans (Nat.mul_le_mul_right _ hi) (Nat.div_mul_le_self _ _)
  have hcode : (Char.ofNat (r.image + i * r.stride)).toNat = r.image + i * r.stride :=
    toNat_ofNat (by omega)
  have hword : isWord (Char.ofNat (r.image + i * r.stride)) = true := by
    rw [isWord, hcode]
    exact Ranges.covers_of_includes hwords (by omega) (by omega)
  refine ⟨fun _ => hword, fun hblank => ?_, fun hlower => ?_⟩
  · rw [isBlank_of_isWord hword] at hblank
    cases hblank
  · have hnot := isLower_baseLetter_eq_false (c := Char.ofNat (r.image + i * r.stride))
      (by omega) fun hmem => by
        have hs := hfolded _ hmem
        omega
    rw [hnot] at hlower
    cases hlower

theorem lowersTo_lowerChar (c : Char) : LowersTo c (lowerChar c) := by
  rw [lowerChar]
  rcases lowerIn_cases caseRuns c.toNat with hself | ⟨r, hr, i, hi, hc, hlower⟩
  · rw [hself, Char.ofNat_toNat]
    exact .refl c
  · rw [hlower]
    rcases foreign_or_small r hr with hforeign | hsmall
    · exact hforeign.lowersTo hi c
    · have hrun := hsmall i (List.mem_range.2 (by omega))
      rwa [← hc, Char.ofNat_toNat] at hrun

theorem lowersTo_sigma : LowersTo 'Σ' 'σ' ∧ LowersTo 'Σ' 'ς' :=
  ⟨by decide, by decide⟩

theorem exists_lowerAt (hc : c ≠ 'İ') (afterCased : Bool) (rest : Text) :
    ∃ d, lowerAt afterCased c rest = [d] ∧ LowersTo c d := by
  rw [lowerAt, if_neg hc]
  split
  · next hsigma =>
    subst hsigma
    split
    · exact ⟨'ς', rfl, lowersTo_sigma.2⟩
    · exact ⟨'σ', rfl, lowersTo_sigma.1⟩
  · exact ⟨_, rfl, lowersTo_lowerChar c⟩

/-- A text that begins with something to see does so in lower case. -/
theorem head?_lower_any (h : t.head?.any (fun c => !isBlank c) = true) :
    (lower t).head?.any (fun c => !isBlank c) = true := by
  cases t with
  | nil => simp at h
  | cons c rest =>
    have hc : isBlank c = false := by simpa using h
    rw [lower, lowerFrom]
    by_cases hdotted : c = 'İ'
    · subst hdotted
      rfl
    · obtain ⟨d, hd, hlowers⟩ := exists_lowerAt hdotted false rest
      have hseen : isBlank d = false :=
        Bool.eq_false_iff.2 fun hblank => by simp [hlowers.blank hblank] at hc
      simp [hd, hseen]

theorem lower_dropWhile (t : Text) : lower (t.dropWhile isBlank) = (lower t).dropWhile isBlank := by
  induction t with
  | nil => rfl
  | cons c rest ih =>
    by_cases hc : isBlank c = true
    · have hlower : lower (c :: rest) = c :: lower rest := lower_append_cons hc [] rest
      rw [List.dropWhile_cons_of_pos hc, ih, hlower, List.dropWhile_cons_of_pos hc]
    · have hfirst := head?_lower_any (t := c :: rest) (by simpa using hc)
      rw [List.dropWhile_cons_of_neg hc]
      cases hlower : lower (c :: rest) with
      | nil => rfl
      | cons d u =>
        rw [List.dropWhile_cons_of_neg]
        simpa [hlower] using hfirst

theorem forall₂_lower (h : 'İ' ∉ t) : List.Forall₂ LowersTo t (lower t) := by
  have hfrom : ∀ afterCased, List.Forall₂ LowersTo t (lowerFrom afterCased t) := by
    induction t with
    | nil => exact fun _ => .nil
    | cons c rest ih =>
      obtain ⟨hc, hrest⟩ := List.ne_and_not_mem_of_not_mem_cons h
      intro afterCased
      obtain ⟨d, hd, hlowers⟩ := exists_lowerAt (Ne.symm hc) afterCased rest
      rw [lowerFrom, hd, List.singleton_append]
      exact .cons hlowers (ih hrest _)
  exact hfrom false

section transfer

variable {cs : List Char} {u v : Text} {ws : List String}

theorem head?_any_isWord_of_lowersTo (h : List.Forall₂ LowersTo u v)
    (hv : v.head?.any isWord = false) : u.head?.any isWord = false := by
  cases h with
  | nil => rfl
  | @cons c d _ _ hcd _ =>
    cases hc : isWord c with
    | false => simpa using hc
    | true => simp [hcd.word hc] at hv

theorem getLast?_any_isWord_of_lowersTo (h : List.Forall₂ LowersTo u v)
    (hv : v.getLast?.any isWord = false) : u.getLast?.any isWord = false := by
  rw [← List.head?_reverse] at hv ⊢
  exact head?_any_isWord_of_lowersTo (List.forall₂_reverse_iff.2 h) hv

theorem exists_append_of_lowersTo {x y : Text} (h : List.Forall₂ LowersTo u (x ++ y)) :
    ∃ x' y', u = x' ++ y' ∧ List.Forall₂ LowersTo x' x ∧ List.Forall₂ LowersTo y' y :=
  ⟨u.take x.length, u.drop x.length, (List.take_append_drop _ _).symm,
    List.forall₂_take_append _ _ _ h, List.forall₂_drop_append _ _ _ h⟩

theorem Wording.of_lowersTo (h : Wording cs v) (hcs : ∀ c ∈ cs, c = ' ' ∨ c.isLower = true)
    (hu : List.Forall₂ LowersTo u v) : Wording cs u := by
  induction h generalizing u with
  | nil =>
    cases hu
    exact .nil
  | @letter c x w v hc hx _ ih =>
    obtain ⟨y, u', hy, hu', rfl⟩ := List.forall₂_cons_right_iff.1 hu
    have hlower : (baseLetter x).isLower = true := by
      rw [hx]
      exact (hcs c (by simp)).resolve_left hc
    exact .letter hc ((hy.base hlower).trans hx) (ih (fun d hd => hcs d (by simp [hd])) hu')
  | @space w x v hne hblank _ ih =>
    obtain ⟨x', u', rfl, hx, hu'⟩ := exists_append_of_lowersTo hu
    refine .space ?_ ?_ (ih (fun d hd => hcs d (by simp [hd])) hu')
    · rintro rfl
      cases hx
      exact hne rfl
    · intro c hc
      obtain ⟨i, hi, rfl⟩ := List.mem_iff_getElem.1 hc
      exact (hx.get hi (hx.length_eq ▸ hi)).blank (hblank _ (List.getElem_mem _))

/-- Lower-casing brings in no word of letters where there is no dotted capital I. -/
theorem HasWord.of_lower (hws : ∀ w ∈ ws, Lettered w) (hdotted : 'İ' ∉ t)
    (h : HasWord ws (lower t)) : HasWord ws t := by
  obtain ⟨w, hw, front, body, back, heq, hat⟩ := h
  have hall := forall₂_lower hdotted
  rw [heq] at hall
  obtain ⟨front', u, rfl, hfront, hu⟩ := exists_append_of_lowersTo hall
  obtain ⟨body', back', rfl, hbody, hback⟩ := exists_append_of_lowersTo hu
  exact ⟨w, hw, front', body', back', rfl, hat.wording.of_lowersTo (hws w hw).1 hbody,
    getLast?_any_isWord_of_lowersTo hfront hat.opens,
    head?_any_isWord_of_lowersTo hback hat.closes⟩

end transfer

end FlowTalk
