import FlowTalk.Proofs.Pattern.WholeWord
import FlowTalk.Proofs.Text.LetterCase
import FlowTalk.Proofs.Text.Lowercase
import FlowTalk.Proofs.Text.Trim
import FlowTalk.Utterance.Phrase

/-! Texts of plain words with single spaces between them. -/
namespace FlowTalk
open Pattern

/-- A word of ASCII letters. -/
def IsPlain (w : Text) : Prop := w ≠ [] ∧ ∀ c ∈ w, c.isAlpha = true

instance (w : Text) : Decidable (IsPlain w) :=
  have : Decidable (∀ c ∈ w, c.isAlpha = true) := List.decidableBAll _ _
  instDecidableAnd

/-- The words with a space between neighbours. -/
def sentence (ws : List Text) : Text := Text.joinWith " ".toList ws

/-- The word is one of a group of words, in any case. -/
def Among (group : List String) (w : Text) : Prop := small w ∈ group.map String.toList

instance (group : List String) (w : Text) : Decidable (Among group w) :=
  List.instDecidableMemOfLawfulBEq _ _

variable {c : Char} {w v x y body front back t : Text} {ws init : List Text} {group : List String}

/-- A letter is neither white space nor a digit nor a mark, and it has one small letter. -/
structure IsLetter (c : Char) : Prop where
  word : isWord c = true
  blank : isBlank c = false
  digit : isDigit c = false
  quoteMark : Utterance.isQuoteMark c = false
  endMark : Utterance.isEndMark c = false
  base : baseLetter c = c.toLower
  lower : lowerChar c = c.toLower
  smallLetter : c.toLower.isAlpha = true
  small : c.toLower.toLower = c.toLower
  sigma : c ≠ 'Σ'
  dotted : c ≠ 'İ'

theorem letter_facts : ∀ n < 123, 65 ≤ n ∧ n ≤ 90 ∨ 97 ≤ n →
    isBlank (Char.ofNat n) = false ∧ isDigit (Char.ofNat n) = false ∧
      Utterance.isQuoteMark (Char.ofNat n) = false ∧ Utterance.isEndMark (Char.ofNat n) = false ∧
      baseLetter (Char.ofNat n) = (Char.ofNat n).toLower ∧
      lowerChar (Char.ofNat n) = (Char.ofNat n).toLower ∧
      (Char.ofNat n).toLower.isAlpha = true ∧
      (Char.ofNat n).toLower.toLower = (Char.ofNat n).toLower ∧ Char.ofNat n ≠ 'Σ' ∧
      Char.ofNat n ≠ 'İ' := by decide

theorem isLetter_of_isAlpha (h : c.isAlpha = true) : IsLetter c := by
  have hcode : c.toNat < 123 ∧ (65 ≤ c.toNat ∧ c.toNat ≤ 90 ∨ 97 ≤ c.toNat) := by
    rcases Bool.or_eq_true_iff.1 h with h | h
    · have hbounds := isUpper_iff.1 h
      omega
    · have hbounds := isLower_iff.1 h
      omega
  obtain ⟨hblank, hdigit, hquote, hend, hbase, hlower, hletter, hsmall, hsigma, hdotted⟩ :=
    letter_facts c.toNat hcode.1 hcode.2
  rw [Char.ofNat_toNat] at *
  exact ⟨covers_wordRanges_of_ascii c.toNat hcode.1 hcode.2, hblank, hdigit, hquote, hend, hbase,
    hlower, hletter, hsmall, hsigma, hdotted⟩

theorem IsPlain.letter (h : IsPlain w) (hc : c ∈ w) : IsLetter c := isLetter_of_isAlpha (h.2 c hc)

theorem sentence_cons (hne : ws ≠ []) : sentence (w :: ws) = w ++ ' ' :: sentence ws := by
  cases ws with
  | nil => exact absurd rfl hne
  | cons v ws => simp [sentence, Text.joinWith, List.intercalate_cons_cons]

theorem sentence_singleton (w : Text) : sentence [w] = w := by
  simp [sentence, Text.joinWith]

theorem sentence_concat (hne : init ≠ []) :
    sentence (init ++ [w]) = sentence init ++ ' ' :: w := by
  induction init with
  | nil => exact absurd rfl hne
  | cons v init ih =>
    by_cases hinit : init = []
    · subst hinit
      rw [sentence_singleton, List.singleton_append, sentence_cons (by simp), sentence_singleton]
    · rw [List.cons_append, sentence_cons (by simp), ih hinit, sentence_cons hinit]
      simp

theorem mem_sentence (h : c ∈ sentence ws) : c = ' ' ∨ ∃ w ∈ ws, c ∈ w := by
  induction ws with
  | nil => simp [sentence, Text.joinWith] at h
  | cons w ws ih =>
    by_cases hne : ws = []
    · subst hne
      exact Or.inr ⟨w, by simp, by simpa [sentence_singleton] using h⟩
    · rw [sentence_cons hne] at h
      rcases List.mem_append.1 h with h | h
      · exact Or.inr ⟨w, by simp, h⟩
      · rcases List.mem_cons.1 h with h | h
        · exact Or.inl h
        · rcases ih h with h | ⟨v, hv, h⟩
          · exact Or.inl h
          · exact Or.inr ⟨v, by simp [hv], h⟩

/-- A class that has neither the space nor a letter has no character of a sentence. -/
theorem sentence_avoids {accepts : Char → Bool} (hws : ∀ w ∈ ws, IsPlain w)
    (hspace : accepts ' ' = false) (hletter : ∀ c, IsLetter c → accepts c = false) :
    ∀ c ∈ sentence ws, accepts c = false := by
  intro c hc
  rcases mem_sentence hc with rfl | ⟨w, hw, hc⟩
  · exact hspace
  · exact hletter c ((hws w hw).letter hc)

section ends

variable (hne : ws ≠ []) (hws : ∀ w ∈ ws, IsPlain w)
include hne hws

theorem head?_sentence (hc : c ∈ (sentence ws).head?) : IsLetter c := by
  cases ws with
  | nil => exact absurd rfl hne
  | cons w ws =>
    have hw := hws w (by simp)
    refine hw.letter (List.mem_of_mem_head? ?_)
    by_cases hrest : ws = []
    · simpa [hrest, sentence_singleton] using hc
    · rwa [sentence_cons hrest, List.head?_append_of_ne_nil _ hw.1] at hc

theorem getLast?_sentence (hc : c ∈ (sentence ws).getLast?) : IsLetter c := by
  obtain ⟨init, w, rfl⟩ := (List.eq_nil_or_concat' ws).resolve_left hne
  have hw := hws w (by simp)
  refine hw.letter (List.mem_of_getLast? ?_)
  by_cases hinit : init = []
  · simpa [hinit, sentence_singleton] using hc
  · rwa [sentence_concat hinit, List.getLast?_append_of_ne_nil _ (by simp),
      List.getLast?_cons_of_ne_nil hw.1] at hc

theorem sentence_ne_nil : sentence ws ≠ [] := by
  cases ws with
  | nil => exact absurd rfl hne
  | cons w ws =>
    have hw := (hws w (by simp)).1
    by_cases hrest : ws = []
    · rwa [hrest, sentence_singleton]
    · simp [sentence_cons hrest]

theorem trim_sentence : Text.trim (sentence ws) = sentence ws :=
  Text.trim_eq_self (fun _ hc => (head?_sentence hne hws hc).blank)
    fun _ hc => (getLast?_sentence hne hws hc).blank

end ends

theorem IsPlain.small (h : IsPlain w) : IsPlain (small w) := by
  refine ⟨by simpa [FlowTalk.small] using h.1, fun c hc => ?_⟩
  obtain ⟨d, hd, rfl⟩ := List.mem_map.1 hc
  exact (h.letter hd).smallLetter

theorem map_sentence (f : Char → Char) (hspace : f ' ' = ' ') :
    (sentence ws).map f = sentence (ws.map (List.map f)) := by
  induction ws with
  | nil => rfl
  | cons w ws ih =>
    by_cases hne : ws = []
    · simp [hne, sentence_singleton]
    · rw [sentence_cons hne, List.map_cons, sentence_cons (by simpa using hne), ← ih]
      simp [hspace]

theorem lower_sentence (hws : ∀ w ∈ ws, IsPlain w) :
    lower (sentence ws) = sentence (ws.map small) := by
  refine (lower_eq_map fun c hc => ?_).trans (map_sentence Char.toLower (by decide))
  rcases mem_sentence hc with rfl | ⟨w, hw, hc⟩
  · decide
  · have hletter := (hws w hw).letter hc
    exact ⟨hletter.lower, hletter.sigma, hletter.dotted⟩

theorem takeWhile_append_of_stop {p : Char → Bool} (hfront : ∀ c ∈ front, p c = true)
    (hback : back.head?.any p = false) : (front ++ back).takeWhile p = front := by
  rw [List.takeWhile_append_of_pos hfront]
  cases back with
  | nil => simp
  | cons c back =>
    have hc : ¬ p c = true := by simpa using hback
    rw [List.takeWhile_cons_of_neg hc, List.append_nil]

/-- No word character follows the first word of a sentence. -/
theorem sentence_eq_append (w : Text) (ws : List Text) : ∃ rest, sentence (w :: ws) = w ++ rest ∧
    rest.head?.any isWord = false ∧ ∀ c u, rest = c :: u → u = sentence ws := by
  by_cases hne : ws = []
  · exact ⟨[], by simp [hne, sentence_singleton], rfl, by simp⟩
  · have hspace : isWord ' ' = false := by decide
    exact ⟨' ' :: sentence ws, sentence_cons hne, by simp [hspace], by simp +contextual⟩

/-- Where a run of word characters stands in a sentence, not inside a longer one, it is one of the
words. -/
theorem mem_of_sentence_eq (hws : ∀ w ∈ ws, IsPlain w)
    (h : sentence ws = front ++ (body ++ back)) (hne : body ≠ [])
    (hbody : ∀ c ∈ body, isWord c = true) (hopens : front.getLast?.any isWord = false)
    (hcloses : back.head?.any isWord = false) : body ∈ ws := by
  induction ws generalizing front with
  | nil =>
    simp only [sentence, Text.joinWith, List.intercalate_nil, List.nil_eq, List.append_eq_nil_iff]
      at h
    exact absurd h.2.1 hne
  | cons w ws ih =>
    have hw := hws w (by simp)
    have hword : ∀ c ∈ w, isWord c = true := fun c hc => (hw.letter hc).word
    obtain ⟨rest, hrest, hstop, hlater⟩ := sentence_eq_append w ws
    rw [hrest] at h
    rcases List.append_eq_append_iff.1 h with ⟨as, rfl, has⟩ | ⟨bs, hbs, _⟩
    · cases as with
      | nil =>
        have hlast := hopens
        rw [List.append_nil, List.getLast?_eq_some_getLast hw.1] at hlast
        simp [hword _ (List.getLast_mem hw.1)] at hlast
      | cons c as =>
        have hrest : sentence ws = as ++ (body ++ back) := (hlater c _ has).symm
        refine List.mem_cons_of_mem _ (ih (fun v hv => hws v (by simp [hv])) hrest ?_)
        cases as with
        | nil => rfl
        | cons d as => simpa [List.getLast?_append, List.getLast?_cons] using hopens
    · cases hfront : front.getLast? with
      | some c =>
        have hc : c ∈ w := by simp [hbs, List.mem_of_getLast? hfront]
        simp [hfront, hword c hc] at hopens
      | none =>
        obtain rfl := List.getLast?_eq_none_iff.1 hfront
        have hsame : body = w := by
          rw [← takeWhile_append_of_stop hbody hcloses, ← takeWhile_append_of_stop hword hstop, h,
            List.nil_append]
        simp [hsame]

/-- Each phrase of a group is one word of small letters. -/
def SmallWords (group : List String) : Prop :=
  ∀ g ∈ group, g.toList ≠ [] ∧ ∀ c ∈ g.toList, c.isLower = true

instance (group : List String) : Decidable (SmallWords group) :=
  have (g : String) : Decidable (∀ c ∈ g.toList, c.isLower = true) := List.decidableBAll _ _
  List.decidableBAll _ _

/-- Without spaces a wording only differs in case. -/
theorem wording_iff_map {cs : List Char} (hcs : ∀ c ∈ cs, c.isLower = true) :
    Wording cs w ↔ w.map baseLetter = cs := by
  constructor
  · intro h
    induction h with
    | nil => rfl
    | letter _ hx _ ih => rw [List.map_cons, hx, ih fun d hd => hcs d (by simp [hd])]
    | space => exact absurd (hcs ' ' (by simp)) (by decide)
  · rintro rfl
    induction w with
    | nil => exact .nil
    | cons c w ih =>
      refine .letter ?_ rfl (ih fun d hd => hcs d ?_)
      · intro hspace
        exact absurd (hspace ▸ hcs (baseLetter c) (by simp)) (by decide)
      · rw [List.map_cons]
        exact List.mem_cons_of_mem _ hd

theorem IsPlain.map_baseLetter (h : IsPlain w) : w.map baseLetter = FlowTalk.small w :=
  List.map_congr_left fun _ hc => (h.letter hc).base

theorem among_iff_wording (hgroup : SmallWords group) (hw : IsPlain w) :
    Among group w ↔ ∃ g ∈ group, Wording g.toList w := by
  rw [Among, List.mem_map, ← hw.map_baseLetter]
  constructor
  · rintro ⟨g, hg, heq⟩
    exact ⟨g, hg, (wording_iff_map (hgroup g hg).2).2 heq.symm⟩
  · rintro ⟨g, hg, hwording⟩
    exact ⟨g, hg, ((wording_iff_map (hgroup g hg).2).1 hwording).symm⟩

/-- A sentence has a word of a group only among its words. -/
theorem HasWord.exists_among (hgroup : SmallWords group) (hws : ∀ w ∈ ws, IsPlain w)
    (h : HasWord group (sentence ws)) : ∃ w ∈ ws, Among group w := by
  obtain ⟨g, hg, front, body, back, heq, hat⟩ := h
  have hmap := (wording_iff_map (hgroup g hg).2).1 hat.wording
  have hword : ∀ c ∈ body, isWord c = true := by
    intro c hc
    refine isWord_of_isLower_baseLetter ((hgroup g hg).2 _ ?_)
    rw [← hmap]
    exact List.mem_map_of_mem hc
  have hne : body ≠ [] := by
    rintro rfl
    exact (hgroup g hg).1 hmap.symm
  have hmem := mem_of_sentence_eq hws heq hne hword hat.opens hat.closes
  exact ⟨body, hmem, (among_iff_wording hgroup (hws body hmem)).2 ⟨g, hg, hat.wording⟩⟩

end FlowTalk
