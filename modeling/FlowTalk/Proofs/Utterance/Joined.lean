import FlowTalk.Proofs.Text.Runs
import FlowTalk.Proofs.Utterance.Sentence
import FlowTalk.Proofs.Utterance.Verb
import Mathlib.Data.List.Infix

/-! The whole words of two texts with a blank between them. -/
namespace FlowTalk
open Pattern Vocabulary

variable {c : Char} {cs : List Char} {t u p q x y body back : Text} {ws : List String} {v : String}

theorem HasWord.append_left (h : HasWord ws x) (hc : isWord c = false) :
    HasWord ws (x ++ c :: y) := by
  obtain ⟨w, hw, front, body, back, rfl, hwording, hopens, hcloses⟩ := h
  refine ⟨w, hw, front, body, back ++ c :: y, by simp, hwording, hopens, ?_⟩
  cases back with
  | nil => simpa using hc
  | cons d back => simpa using hcloses

theorem HasWord.append_right (h : HasWord ws y) (hc : isWord c = false) :
    HasWord ws (x ++ c :: y) := by
  obtain ⟨w, hw, front, body, back, rfl, hwording, hopens, hcloses⟩ := h
  refine ⟨w, hw, x ++ c :: front, body, back, by simp, hwording, ?_, hcloses⟩
  cases hlast : front.getLast? with
  | none => simpa [List.getLast?_append, List.getLast?_cons, hlast] using hc
  | some d => simpa [List.getLast?_append, List.getLast?_cons, hlast] using hopens

theorem HasWord.of_dropWhile (h : HasWord ws (t.dropWhile isBlank)) : HasWord ws t := by
  induction t with
  | nil => exact h
  | cons c t ih =>
    by_cases hc : isBlank c = true
    · rw [List.dropWhile_cons_of_pos hc] at h
      exact (ih h).append_right (x := []) (isWord_of_isBlank hc)
    · rwa [List.dropWhile_cons_of_neg hc] at h

/-- A word without the character in it stands before the character or behind it. -/
theorem WordAt.beside {w : String} {front : Text} (h : WordAt w front body back) (hw : w ∈ ws)
    (heq : x ++ c :: y = front ++ (body ++ back)) (hc : c ∉ body) :
    HasWord ws x ∨ x.length < front.length ∧ HasWord ws y := by
  rcases piece_beside heq hc with ⟨u, rfl, rfl⟩ | ⟨u, rfl, rfl⟩
  · refine Or.inl ⟨w, hw, front, body, u, rfl, h.wording, h.opens, ?_⟩
    have hcloses := h.closes
    cases u with
    | nil => rfl
    | cons d u => simpa using hcloses
  · refine Or.inr ⟨by simp, w, hw, u, body, back, rfl, h.wording, ?_, h.closes⟩
    have hopens := h.opens
    cases hlast : u.getLast? with
    | none => rfl
    | some d => simpa [List.getLast?_append, List.getLast?_cons, hlast] using hopens

theorem WordAt.not_mem {w : String} {front : Text} (h : WordAt w front body back)
    (hw : ∀ d ∈ w.toList, d.isLower = true) (hc : isWord c = false) : c ∉ body := by
  intro hmem
  rw [h.wording.all_isWord hw c hmem] at hc
  cases hc

theorem hasWord_append_cons_iff (hws : SmallWords ws) (hc : isWord c = false) :
    HasWord ws (x ++ c :: y) ↔ HasWord ws x ∨ HasWord ws y := by
  constructor
  · rintro ⟨w, hw, front, body, back, heq, hat⟩
    exact (hat.beside hw heq (hat.not_mem (hws w hw).2 hc)).imp_right And.right
  · rintro (h | h)
    · exact h.append_left hc
    · exact h.append_right hc

/-- The search for a word goes on behind a text that has none and the blank after it. -/
theorem Pattern.matchAfter_wholeWord_eq_none (hsmall : SmallWords ws) (hws : ∀ w ∈ ws, Lettered w)
    (hc : isWord c = false) (hx : ¬ HasWord ws x) :
    ∀ i < (x ++ [c]).length, (wholeWord ws).matchAfter (((x ++ [c]).take i).getLast?.or none)
      ((x ++ [c]).drop i ++ y) = none := by
  intro i hi
  rw [← Option.not_isSome_iff_eq_none, matchAfter_isSome_iff (progressive_wholeWord ws)]
  rintro hfits
  obtain ⟨w, hw, body, back, hrest, hat⟩ :=
    (takes_wholeWord_iff hws ((x ++ [c]).take i) (Option.or_none)).1 hfits
  have heq : x ++ c :: y = (x ++ [c]).take i ++ (body ++ back) := by
    have hrest : (x ++ [c]).drop i ++ y = body ++ back := hrest
    rw [← hrest, ← List.append_assoc, List.take_append_drop, List.append_assoc]
    rfl
  rcases hat.beside hw heq (hat.not_mem (hsmall w hw).2 hc) with hword | ⟨hlength, _⟩
  · exact hx hword
  · rw [List.length_take] at hlength
    simp only [List.length_append, List.length_singleton] at hi
    omega

theorem not_hasWord_of_no_letter (hws : SmallWords ws)
    (h : ∀ c ∈ t, (baseLetter c).isLower = false) : ¬ HasWord ws t := by
  rintro ⟨w, hw, front, body, back, rfl, hat⟩
  have hmap := (wording_iff_map (hws w hw).2).1 hat.wording
  cases body with
  | nil => exact (hws w hw).1 hmap.symm
  | cons c body =>
    have hlower := (hws w hw).2 (baseLetter c) (by simp [← hmap])
    rw [h c (by simp)] at hlower
    cases hlower

theorem not_hasWord_nil (hws : SmallWords ws) : ¬ HasWord ws [] :=
  not_hasWord_of_no_letter hws (by simp)

section trim

variable (hws : SmallWords ws)
include hws

theorem hasWord_dropWhile_iff (t : Text) :
    HasWord ws (t.dropWhile isBlank) ↔ HasWord ws t := by
  induction t with
  | nil => rfl
  | cons c t ih =>
    by_cases hc : isBlank c = true
    · have hsplit := hasWord_append_cons_iff (x := []) (y := t) hws (isWord_of_isBlank hc)
      rw [List.dropWhile_cons_of_pos hc, ih, ← List.nil_append (c :: t), hsplit,
        or_iff_right (not_hasWord_nil hws)]
    · rw [List.dropWhile_cons_of_neg hc]

theorem hasWord_trimEndWhere_iff (t : Text) :
    HasWord ws (Text.trimEndWhere isBlank t) ↔ HasWord ws t := by
  change HasWord ws (t.rdropWhile isBlank) ↔ HasWord ws t
  induction t using List.reverseRecOn with
  | nil => rfl
  | append_singleton t c ih =>
    by_cases hc : isBlank c = true
    · have hsplit := hasWord_append_cons_iff (x := t) (y := []) hws (isWord_of_isBlank hc)
      rw [List.rdropWhile_concat_pos _ _ _ hc, ih, hsplit, or_iff_left (not_hasWord_nil hws)]
    · rw [List.rdropWhile_concat_neg _ _ _ hc]

/-- White space around a text makes no difference to its words. -/
theorem hasWord_trim_iff (t : Text) : HasWord ws (Text.trim t) ↔ HasWord ws t :=
  (hasWord_trimEndWhere_iff hws _).trans (hasWord_dropWhile_iff hws t)

end trim

/-- What follows a blank inside a wording is worded like what follows a space of the phrase. -/
theorem Wording.behind_blank (h : Wording cs (p ++ c :: q)) (hc : isBlank c = true)
    (hcs : ∀ d ∈ cs, d = ' ' ∨ d.isLower = true) :
    ∃ cs', ' ' :: cs' <:+ cs ∧ ∃ u q', q = u ++ q' ∧ (∀ d ∈ u, isBlank d = true) ∧
      Wording cs' q' := by
  generalize ht : p ++ c :: q = t at h
  induction h generalizing p with
  | nil => simp at ht
  | @letter d x w u hd hx _ ih =>
    cases p with
    | nil =>
      obtain ⟨rfl, _⟩ := List.cons.inj ht
      have hlower : (baseLetter c).isLower = true := by
        rw [hx]
        exact (hcs d (by simp)).resolve_left hd
      rw [isBlank_of_isWord (isWord_of_isLower_baseLetter hlower)] at hc
      cases hc
    | cons y p =>
      obtain ⟨cs', hsuffix, hrest⟩ := ih (fun e he => hcs e (by simp [he])) (List.cons.inj ht).2
      exact ⟨cs', hsuffix.trans (List.suffix_cons d w), hrest⟩
  | @space w u v hne hu hv ih =>
    rcases List.append_eq_append_iff.1 ht with ⟨a, hpa, hq⟩ | ⟨a, hua, hq⟩
    · cases a with
      | nil =>
        obtain ⟨cs', hsuffix, hrest⟩ := ih (p := []) (fun e he => hcs e (by simp [he])) hq
        exact ⟨cs', hsuffix.trans (List.suffix_cons _ w), hrest⟩
      | cons d a =>
        obtain ⟨rfl, htail⟩ := List.cons.inj hq
        exact ⟨w, List.suffix_refl _, a, v, htail, fun e he => hu e (by simp [hpa, he]), hv⟩
    · obtain ⟨cs', hsuffix, hrest⟩ := ih (p := a) (fun e he => hcs e (by simp [he])) hq.symm
      exact ⟨cs', hsuffix.trans (List.suffix_cons _ w), hrest⟩

/-- No verb begins with a later word of a verb. -/
theorem firstLetters_ne_later : ∀ w ∈ verbs, ∀ l ∈ w.toList.tails, l.head? = some ' ' →
    ∀ v ∈ verbs, v.toList.takeWhile (· != ' ') ≠ l.tail.takeWhile (· != ' ') := by decide

/-- A verb at the front of a text stays the first one behind a text without verbs. -/
theorem FirstWord.behind (hx : ¬ HasWord verbs x) (hv : v ∈ verbs) (hat : WordAt v [] body back) :
    FirstWord verbs v (x ++ ' ' :: (body ++ back)) := by
  have hspace : isWord ' ' = false := by decide
  refine ⟨hv, x ++ [' '], body, back, by simp, ⟨hat.wording, by simp [hspace], hat.closes⟩, ?_⟩
  intro w hw front' body' back' heq hat'
  by_contra hless
  obtain ⟨a, rfl⟩ : front' <+: x := by
    refine List.prefix_of_prefix_length_le ⟨_, heq.symm⟩ (List.prefix_append x _) ?_
    simp only [List.length_append, List.length_singleton, Nat.not_le] at hless
    omega
  rw [List.append_assoc, List.append_cancel_left_eq] at heq
  rcases List.append_eq_append_iff.1 heq with ⟨b, rfl, hb⟩ | ⟨b, rfl, rfl⟩
  · cases b with
    | nil => exact hx ⟨w, hw, front', a, [], by simp, by simpa using hat'.wording, hat'.opens, rfl⟩
    | cons d q =>
      -- the word would go on behind the space with the letters that the verb begins with
      obtain rfl : ' ' = d := (List.cons.inj hb).1
      have hq : body ++ back = q ++ back' := (List.cons.inj hb).2
      obtain ⟨cs, hsuffix, u, q', rfl, hu, hlater⟩ :=
        hat'.wording.behind_blank (by decide) (lettered_verbs w hw).1
      cases u with
      | nil =>
        have hletters := hat.takeWhile_isWord (lettered_verbs v hv)
        have hcs : ∀ d ∈ cs, d = ' ' ∨ d.isLower = true := fun d hd =>
          (lettered_verbs w hw).1 d (hsuffix.subset (by simp [hd]))
        rw [hq, List.nil_append, hlater.takeWhile_isWord hcs hat'.closes] at hletters
        exact firstLetters_ne_later w hw _ ((List.mem_tails _ _).2 hsuffix) rfl v hv hletters.symm
      | cons d u =>
        have hfirst := hat.wording.head?_any_isWord (lettered_verbs v hv).2.1
        have hd : isWord d = false := isWord_of_isBlank (hu d (by simp))
        cases body with
        | nil => simp at hfirst
        | cons e body =>
          obtain ⟨rfl, _⟩ := List.cons.inj hq
          simp [hd] at hfirst
  · refine hx ⟨w, hw, front', body', b, rfl, hat'.wording, hat'.opens, ?_⟩
    have hcloses := hat'.closes
    cases b with
    | nil => rfl
    | cons d b => simpa using hcloses

theorem firstWord_behind (hx : ¬ HasWord verbs x) (hv : v ∈ verbs) (rest : Text) :
    FirstWord verbs v (x ++ ' ' :: (v.toList ++ ' ' :: rest)) :=
  .behind hx hv (Utterance.wordAt_front hv rest)

end FlowTalk
