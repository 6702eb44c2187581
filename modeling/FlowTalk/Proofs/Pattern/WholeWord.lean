import FlowTalk.Proofs.Pattern.Spelling
import Mathlib.Logic.Basic

/-! Where a whole word stands in a text, and which of some words stands first. -/
namespace FlowTalk

/-- A phrase of small letters, with spaces only inside. -/
def Lettered (w : String) : Prop :=
  (∀ c ∈ w.toList, c = ' ' ∨ c.isLower = true) ∧
    w.toList.head?.any Char.isLower = true ∧ w.toList.getLast?.any Char.isLower = true

instance (w : String) : Decidable (Lettered w) :=
  have : Decidable (∀ c ∈ w.toList, c = ' ' ∨ c.isLower = true) := List.decidableBAll _ _
  instDecidableAnd

/-- A wording of `w` between `front` and `back`, not inside a longer word. -/
structure WordAt (w : String) (front body back : Text) : Prop where
  wording : Wording w.toList body
  opens : front.getLast?.any isWord = false
  closes : back.head?.any isWord = false

/-- One of the words stands in the text as a whole word. -/
def HasWord (ws : List String) (t : Text) : Prop :=
  ∃ w ∈ ws, ∃ front body back, t = front ++ (body ++ back) ∧ WordAt w front body back

/-- The leftmost whole word of the text, among the given words, is `w`. -/
def FirstWord (ws : List String) (w : String) (t : Text) : Prop :=
  w ∈ ws ∧ ∃ front body back, t = front ++ (body ++ back) ∧ WordAt w front body back ∧
    ∀ w' ∈ ws, ∀ front' body' back', t = front' ++ (body' ++ back') →
      WordAt w' front' body' back' → front.length ≤ front'.length

variable {cs : List Char} {c x : Char} {u t front body back : Text} {s m : Place}
  {ws group : List String} {v v' w : String}

theorem isLower_iff : c.isLower = true ↔ 97 ≤ c.toNat ∧ c.toNat ≤ 122 := by
  change (decide (97 ≤ c.toNat) && decide (c.toNat ≤ 122)) = true ↔ _
  rw [Bool.and_eq_true, decide_eq_true_iff, decide_eq_true_iff]

theorem isUpper_iff : c.isUpper = true ↔ 65 ≤ c.toNat ∧ c.toNat ≤ 90 := by
  change decide (65 ≤ c.toNat ∧ c.toNat ≤ 90) = true ↔ _
  rw [decide_eq_true_iff]

theorem covers_wordRanges_of_ascii :
    ∀ n < 123, 65 ≤ n ∧ n ≤ 90 ∨ 97 ≤ n → wordRanges.covers n = true := by decide

theorem isLower_toLower_of_ascii : ∀ n < 91, 65 ≤ n → (Char.ofNat n).toLower.isLower = true := by
  decide

/-- Only letters have another character as their base letter. -/
theorem baseLetter_cases (x : Char) : Pattern.baseLetter x = x ∨
    (Pattern.baseLetter x).isLower = true ∧ isWord x = true := by
  rw [Pattern.baseLetter]
  split
  · next hx =>
    subst hx
    exact Or.inr (by decide)
  · split
    · next hx =>
      subst hx
      exact Or.inr (by decide +kernel)
    · split
      · next hx => rcases hx with rfl | rfl <;> exact Or.inr (by decide)
      · by_cases hx : 65 ≤ x.toNat ∧ x.toNat ≤ 90
        · have hlower := isLower_toLower_of_ascii x.toNat (by omega) hx.1
          rw [Char.ofNat_toNat] at hlower
          exact Or.inr ⟨hlower, covers_wordRanges_of_ascii x.toNat (by omega) (Or.inl hx)⟩
        · refine Or.inl ?_
          exact dif_neg hx

theorem isWord_of_isLower_baseLetter (h : (Pattern.baseLetter x).isLower = true) :
    isWord x = true := by
  rcases baseLetter_cases x with hx | ⟨_, hx⟩
  · rw [hx, isLower_iff] at h
    exact covers_wordRanges_of_ascii x.toNat (by omega) (by omega)
  · exact hx

/-- A character that is no letter stands only for itself. -/
theorem eq_of_baseLetter (h : Pattern.baseLetter x = c) (hc : c.isLower = false) : x = c := by
  rcases baseLetter_cases x with hx | ⟨hx, _⟩
  · rw [← hx, h]
  · rw [h, hc] at hx
    cases hx

/-- A small letter stands for itself. -/
theorem baseLetter_of_isLower (h : c.isLower = true) : Pattern.baseLetter c = c := by
  have hbounds := isLower_iff.1 h
  have hne : ∀ d : Char, d.isLower = false → c ≠ d := by
    rintro d hd rfl
    rw [h] at hd
    cases hd
  rw [Pattern.baseLetter, if_neg (hne _ rfl), if_neg (hne _ rfl),
    if_neg (not_or.2 ⟨hne _ rfl, hne _ rfl⟩)]
  exact dif_neg (show ¬ (65 ≤ c.toNat ∧ c.toNat ≤ 90) by omega)

theorem isWord_of_isBlank (h : isBlank x = true) : isWord x = false := by
  have hall : ∀ r ∈ blankRanges, ∀ n ∈ List.range' r.1 (r.2 + 1 - r.1),
      wordRanges.covers n = false := by decide +kernel
  obtain ⟨r, hr, hfirst, hlast⟩ := Ranges.exists_of_covers h
  exact hall r hr x.toNat (List.mem_range'_1.2 ⟨hfirst, by omega⟩)

theorem isBlank_of_isWord (h : isWord x = true) : isBlank x = false := by
  cases hblank : isBlank x with
  | false => rfl
  | true =>
    rw [isWord_of_isBlank hblank] at h
    cases h

theorem isBlank_of_isLower (h : c.isLower = true) : isBlank c = false :=
  isBlank_of_isWord (isWord_of_isLower_baseLetter ((baseLetter_of_isLower h).symm ▸ h))

namespace Wording

theorem all_isWord (h : Wording cs u) (hcs : ∀ c ∈ cs, c.isLower = true) :
    ∀ x ∈ u, isWord x = true := by
  induction h with
  | nil => simp
  | letter _ hx _ ih =>
    intro y hy
    rcases List.mem_cons.1 hy with rfl | hy
    · exact isWord_of_isLower_baseLetter (hx ▸ hcs _ (by simp))
    · exact ih (fun d hd => hcs d (by simp [hd])) y hy
  | space => exact absurd (hcs ' ' (by simp)) (by decide)

/-- Characters without capitals among them are worded as they stand. -/
theorem self (hcs : ∀ c ∈ cs, Pattern.baseLetter c = c) : Wording cs cs := by
  induction cs with
  | nil => exact .nil
  | cons c cs ih =>
    have hrest := ih fun d hd => hcs d (by simp [hd])
    by_cases hspace : c = ' '
    · subst hspace
      exact .space (u := [' ']) (by simp) Pattern.isBlank_space hrest
    · exact .letter hspace (hcs c (by simp)) hrest

theorem head?_any_isWord (h : Wording cs u) (hc : cs.head?.any Char.isLower = true) :
    u.head?.any isWord = true := by
  cases h with
  | nil => simp at hc
  | letter _ hx _ =>
    subst hx
    simpa using isWord_of_isLower_baseLetter (by simpa using hc)
  | space => simp at hc

theorem getLast?_any_isWord (h : Wording cs u) (hc : cs.getLast?.any Char.isLower = true) :
    u.getLast?.any isWord = true := by
  induction h with
  | nil => simp at hc
  | @letter c x w u _ hx hw ih =>
    cases w with
    | nil =>
      cases hw
      subst hx
      simpa using isWord_of_isLower_baseLetter (by simpa using hc)
    | cons d w =>
      have hu := ih (by simpa [List.getLast?_cons_cons] using hc)
      cases hlast : u.getLast? with
      | none => simp [hlast] at hu
      | some y => simpa [List.getLast?_cons, hlast] using hu
  | @space w u v _ _ hv ih =>
    cases w with
    | nil => simp at hc
    | cons d w =>
      have hu := ih (by simpa [List.getLast?_cons_cons] using hc)
      cases hlast : v.getLast? with
      | none => simp [hlast] at hu
      | some y => simpa [List.getLast?_append, hlast] using hu

/-- The letters up to the first space of a phrase are the first word of what words it. -/
theorem takeWhile_isWord (h : Wording cs u) (hcs : ∀ c ∈ cs, c = ' ' ∨ c.isLower = true)
    (hback : back.head?.any isWord = false) :
    ((u ++ back).takeWhile isWord).map Pattern.baseLetter = cs.takeWhile (· != ' ') := by
  induction h with
  | nil =>
    cases back with
    | nil => rfl
    | cons d back =>
      have hd : isWord d = false := by simpa using hback
      simp [hd]
  | @letter c x w u hc hx _ ih =>
    have hlower : c.isLower = true := (hcs c (by simp)).resolve_left hc
    have hword : isWord x = true := isWord_of_isLower_baseLetter (hx ▸ hlower)
    have hrest := ih fun d hd => hcs d (by simp [hd])
    simp [hword, hx, hc, hrest]
  | @space w u v hne hu _ _ =>
    cases u with
    | nil => exact absurd rfl hne
    | cons d u => simp [isWord_of_isBlank (hu d (by simp))]

end Wording

theorem Lettered.wording (h : Lettered w) : Wording w.toList w.toList := by
  refine Wording.self fun c hc => ?_
  rcases h.1 c hc with rfl | hlower
  · rfl
  · exact baseLetter_of_isLower hlower

namespace WordAt

/-- The first letters of the word can be read off the text. -/
theorem takeWhile_isWord (h : WordAt w front body back) (hw : Lettered w) :
    ((body ++ back).takeWhile isWord).map Pattern.baseLetter = w.toList.takeWhile (· != ' ') :=
  h.wording.takeWhile_isWord hw.1 h.closes

end WordAt

theorem FirstWord.hasWord (h : FirstWord ws w t) : HasWord ws t := by
  obtain ⟨hw, front, body, back, ht, hat, _⟩ := h
  exact ⟨w, hw, front, body, back, ht, hat⟩

/-- A text with a word has a leftmost one. -/
theorem HasWord.exists_firstWord (h : HasWord ws t) : ∃ w, FirstWord ws w t := by
  obtain ⟨w, hw, front, body, back, ht, hat⟩ := h
  induction hn : front.length using Nat.strongRecOn generalizing w front body back with
  | ind n ih =>
    by_cases hfirst : ∀ w' ∈ ws, ∀ front' body' back', t = front' ++ (body' ++ back') →
        WordAt w' front' body' back' → front.length ≤ front'.length
    · exact ⟨w, hw, front, body, back, ht, hat, hfirst⟩
    · simp only [not_forall, Nat.not_le] at hfirst
      obtain ⟨w', hw', front', body', back', ht', hat', hless⟩ := hfirst
      exact ih front'.length (hn ▸ hless) w' hw' front' body' back' ht' hat' rfl

namespace Pattern

/-- Before a word character a boundary tells that none stands before it, too. -/
theorem atBoundary_iff_opens (hs : s.before = front.getLast?) (hrest : s.rest = body ++ back)
    (hfirst : body.head?.any isWord = true) :
    s.atBoundary = true ↔ front.getLast?.any isWord = false := by
  cases body with
  | nil => simp at hfirst
  | cons x body =>
    have hx : isWord x = true := by simpa using hfirst
    simp [Place.atBoundary, Place.afterWord, Place.beforeWord, hs, hrest, hx]

theorem atBoundary_iff_closes (hrest : s.rest = body ++ back)
    (hlast : body.getLast?.any isWord = true) :
    (s.past body).atBoundary = true ↔ back.head?.any isWord = false := by
  cases hl : body.getLast? with
  | none => simp [hl] at hlast
  | some x =>
    have hx : isWord x = true := by simpa [hl] using hlast
    simp [Place.atBoundary, Place.afterWord, Place.beforeWord, Place.past, hrest, hl, hx]

theorem takes_wholeWord_iff (hws : ∀ w ∈ ws, Lettered w) (front : Text)
    (hs : s.before = front.getLast?) :
    (∃ m, (wholeWord ws).Takes s m) ↔
      ∃ w ∈ ws, ∃ body back, s.rest = body ++ back ∧ WordAt w front body back := by
  constructor
  · rintro ⟨_, _, ⟨_, ⟨hstart, rfl⟩, hword⟩, hend, rfl⟩
    obtain ⟨w, hw, htakes⟩ := takes_oneOf_iff.1 hword
    obtain ⟨body, hbody, ⟨back, hrest⟩, rfl⟩ := takes_phrase_iff.1 htakes
    have hfirst := hbody.head?_any_isWord (hws w hw).2.1
    have hlast := hbody.getLast?_any_isWord (hws w hw).2.2
    exact ⟨w, hw, body, back, hrest.symm, hbody,
      (atBoundary_iff_opens hs hrest.symm hfirst).1 hstart,
      (atBoundary_iff_closes hrest.symm hlast).1 hend⟩
  · rintro ⟨w, hw, body, back, hrest, hbody, hbefore, hafter⟩
    have hfirst := hbody.head?_any_isWord (hws w hw).2.1
    have hlast := hbody.getLast?_any_isWord (hws w hw).2.2
    refine ⟨s.past body, s.past body,
      ⟨s, ⟨(atBoundary_iff_opens hs hrest hfirst).2 hbefore, rfl⟩, ?_⟩,
      (atBoundary_iff_closes hrest hlast).2 hafter, rfl⟩
    exact takes_oneOf_iff.2 ⟨w, hw, takes_phrase_iff.2 ⟨body, hbody, ⟨back, hrest.symm⟩, rfl⟩⟩

theorem wholeWord_occursIn_iff (hws : ∀ w ∈ ws, Lettered w) :
    (wholeWord ws).occursIn t = true ↔ HasWord ws t := by
  rw [occursIn_iff (progressive_wholeWord ws)]
  constructor
  · rintro ⟨front, rest, rfl, hfits⟩
    obtain ⟨w, hw, body, back, hrest, hat⟩ := (takes_wholeWord_iff hws front rfl).1 hfits
    exact ⟨w, hw, front, body, back, by rw [← hrest], hat⟩
  · rintro ⟨w, hw, front, body, back, rfl, hat⟩
    exact ⟨front, body ++ back, rfl,
      (takes_wholeWord_iff hws front rfl).2 ⟨w, hw, body, back, rfl, hat⟩⟩

end Pattern

end FlowTalk
