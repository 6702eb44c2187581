import FlowTalk.Proofs.Text.Lowercase
import FlowTalk.Proofs.Utterance.Joined
import FlowTalk.Proofs.Utterance.Marker
import FlowTalk.Proofs.Utterance.Slots

/-! Texts in which no label opens, alone and in front of other text. -/
namespace FlowTalk
open Pattern

variable {t x y : Text} {c : Char} {b b' : Option Char} {p : Pattern}

namespace Pattern

/-- Where a text is cut depends on the character before it only through what matches at its
front. -/
theorem searchAfter_head_congr_before
    (h : (p.matchAfter b t).isSome = (p.matchAfter b' t).isSome) :
    (p.searchAfter b t).map Match.head = (p.searchAfter b' t).map Match.head := by
  cases hm : (p.matchAfter b t).isSome with
  | true =>
    rw [searchAfter_head_of_match hm, searchAfter_head_of_match (h.symm.trans hm)]
  | false =>
    have hnone := Option.isNone_iff_eq_none.1 (Option.isSome_eq_false_iff.1 hm)
    have hnone' := Option.isNone_iff_eq_none.1 (Option.isSome_eq_false_iff.1 (h.symm.trans hm))
    cases t with
    | nil => rw [searchAfter, searchAfter, hnone, hnone']
    | cons c rest => rw [searchAfter_cons hnone, searchAfter_cons hnone']

end Pattern

namespace Vocabulary

theorem smallWords_namingWords : SmallWords namingWords := by decide

instance (t : Text) : Decidable (HasWord namingWords t) :=
  decidable_of_iff _ (wholeWord_occursIn_iff lettered_namingWords)

/-- There is no label after a naming word where there is no naming word. -/
theorem namedLabel_search_eq_none (h : ¬ HasWord namingWords t) : namedLabel.search t = none := by
  refine Option.eq_none_iff_forall_ne_some.2 fun m hm => h ?_
  have hof := search_sound hm
  obtain ⟨s, ⟨_, ⟨_, ⟨_, ⟨hstart, rfl⟩, hword⟩, hblank⟩, _⟩, _⟩ := hof.takes
  obtain ⟨body, ⟨w, hw, hwording⟩, hpre, rfl⟩ := (spells_oneOf _ _ _).1 hword
  obtain ⟨u, ⟨hne, hu⟩, ⟨rest, hrest⟩, _⟩ := (spells_blanks _ _).1 hblank
  have hmem : w ∈ namingWords := by
    simp only [List.mem_cons, List.not_mem_nil, or_false] at hw
    simp only [namingWords, List.mem_cons, List.not_mem_nil, or_false]
    tauto
  have hsplit : m.body ++ m.tail = body ++ _ := Place.rest_eq_append hpre
  rw [← hrest] at hsplit
  have hfirst := hwording.head?_any_isWord (lettered_namingWords w hmem).2.1
  have hopens : m.head.getLast?.any isWord = false :=
    (atBoundary_iff_opens (by simp) hsplit hfirst).1 hstart
  refine ⟨w, hmem, m.head, body, u ++ rest, hof.text.trans (congrArg _ hsplit), hwording, hopens,
    ?_⟩
  obtain ⟨c, u, rfl⟩ := List.exists_cons_of_ne_nil hne
  simp [isWord_of_isBlank (hu c (by simp))]

theorem opensQuote_eq_false (front : Text) (hc : Utterance.isQuoteMark c = false) :
    opensQuote front c = false := by
  have hne : ∀ q : Char, q.isLower = false → Utterance.isQuoteMark q = true → baseLetter c ≠ q := by
    intro q hq hmark hbase
    rw [eq_of_baseLetter hbase hq, hmark] at hc
    cases hc
  simp [opensQuote, hne '"' rfl rfl, hne '“' rfl rfl, hne '\'' rfl rfl, hne '‘' rfl rfl]

end Vocabulary

namespace Utterance
open Vocabulary

/-- No label opens in the text, and no quotation ends in it. -/
structure Unmarked (t : Text) : Prop where
  marks : ∀ c ∈ t, isQuoteMark c = false
  naming : ¬ HasWord namingWords t

instance (t : Text) : Decidable (Unmarked t) :=
  decidable_of_iff (t.all (fun c => !isQuoteMark c) = true ∧ ¬ HasWord namingWords t)
    ⟨fun h => ⟨by simpa using h.1, h.2⟩, fun h => ⟨by simpa using h.marks, h.naming⟩⟩

theorem Unmarked.append (hx : Unmarked x) (hy : Unmarked y) (hc : isWord c = false)
    (hmark : isQuoteMark c = false) : Unmarked (x ++ c :: y) := by
  refine ⟨fun d hd => ?_, ?_⟩
  · rcases List.mem_append.1 hd with hd | hd
    · exact hx.marks d hd
    · rcases List.mem_cons.1 hd with rfl | hd
      · exact hmark
      · exact hy.marks d hd
  · rw [hasWord_append_cons_iff smallWords_namingWords hc]
    exact not_or.2 ⟨hx.naming, hy.naming⟩

/-- The text before the first label. -/
def beforeLabel (t : Text) : Text :=
  match labelMarker.search t with
  | some m => m.head
  | none => t

theorem head_eq (t : Text) : head t = Text.trim (lower (beforeLabel t)) := rfl

theorem labelMarker_not_fits_front (hx : Unmarked x) (hc : isWord c = false)
    (hmark : isQuoteMark c = false) : ∀ i < (x ++ [c]).length,
      labelMarker.matchAfter (((x ++ [c]).take i).getLast?.or none) ((x ++ [c]).drop i ++ y) =
        none := by
  intro i hi
  rw [← Option.not_isSome_iff_eq_none, matchAfter_isSome_iff progressive_labelMarker, Option.or_none,
    labelMarker_fits_iff]
  rintro (hquote | ⟨w, hw, body, back, hrest, hat⟩)
  · have hmem : (x ++ [c])[i] ∈ x ++ [c] := List.getElem_mem hi
    rw [List.drop_eq_getElem_cons hi, List.cons_append, List.head?_cons, Option.any_some] at hquote
    have hnot : isQuoteMark (x ++ [c])[i] = false := by
      rcases List.mem_append.1 hmem with h | h
      · exact hx.marks _ h
      · rwa [List.mem_singleton.1 h]
    rw [opensQuote_eq_false _ hnot] at hquote
    cases hquote
  · have hnone := matchAfter_wholeWord_eq_none (y := y) smallWords_namingWords
      lettered_namingWords hc hx.naming i hi
    have hfits : (wholeWord namingWords).Fits (((x ++ [c]).take i).getLast?.or none)
        ((x ++ [c]).drop i ++ y) :=
      (takes_wholeWord_iff lettered_namingWords ((x ++ [c]).take i) Option.or_none).2
        ⟨w, hw, body, back, hrest, hat⟩
    have hsome := (matchAfter_isSome_iff (progressive_wholeWord namingWords)).2 hfits
    rw [hnone] at hsome
    cases hsome

/-- A character that is in no word opens labels behind it like the front of a text. -/
theorem labelMarker_isSome_behind (hc : isWord c = false) (y : Text) :
    (labelMarker.matchAfter (some c) y).isSome = (labelMarker.matchAfter none y).isSome := by
  have hquote : opensQuote [c] = opensQuote [] := by
    funext d
    simp [opensQuote, hc]
  have hword : ∀ w body back, WordAt w [c] body back ↔ WordAt w [] body back := fun w body back =>
    ⟨fun h => ⟨h.wording, rfl, h.closes⟩, fun h => ⟨h.wording, by simpa using hc, h.closes⟩⟩
  have hfits : labelMarker.Fits [c].getLast? y ↔ labelMarker.Fits ([] : Text).getLast? y := by
    rw [labelMarker_fits_iff, labelMarker_fits_iff, hquote]
    simp only [hword]
  rw [Bool.eq_iff_iff, matchAfter_isSome_iff progressive_labelMarker,
    matchAfter_isSome_iff progressive_labelMarker]
  exact hfits

/-- Behind an unmarked text a label opens where one opens in the rest. -/
theorem beforeLabel_append (hx : Unmarked x) (hc : isWord c = false)
    (hmark : isQuoteMark c = false) (y : Text) :
    beforeLabel (x ++ c :: y) = x ++ c :: beforeLabel y := by
  have hcut : (labelMarker.search (x ++ c :: y)).map Match.head =
      ((labelMarker.search y).map Match.head).map fun u => x ++ c :: u := by
    have hsearch := searchAfter_append (labelMarker_not_fits_front (y := y) hx hc hmark)
    rw [List.append_assoc, List.singleton_append, List.getLast?_concat] at hsearch
    rw [search, search, ← searchAfter_head_congr_before (labelMarker_isSome_behind hc y), hsearch,
      Option.map_map, Option.map_map]
    simp [Function.comp_def]
  rw [beforeLabel, beforeLabel]
  cases hy : labelMarker.search y with
  | none =>
    rw [hy] at hcut
    rw [Option.map_eq_none_iff.1 hcut]
  | some m =>
    rw [hy] at hcut
    obtain ⟨m', hm', hhead⟩ := Option.map_eq_some_iff.1 hcut
    rw [hm']
    exact hhead

theorem beforeLabel_unmarked (h : Unmarked t) : beforeLabel t = t := by
  have hnone : labelMarker.search t = none := by
    rw [← Option.not_isSome_iff_eq_none]
    intro hfound
    obtain ⟨front, rest, rfl, hfits⟩ := (occursIn_iff progressive_labelMarker).1 hfound
    rcases labelMarker_fits_iff.1 hfits with hquote | ⟨w, hw, body, back, rfl, hat⟩
    · obtain ⟨c, hc, hopens⟩ := (Option.any_eq_true _ _).1 hquote
      rw [opensQuote_eq_false front (h.marks c (by simp [List.mem_of_mem_head? hc]))] at hopens
      cases hopens
    · exact h.naming ⟨w, hw, front, body, back, rfl, hat⟩
  rw [beforeLabel, hnone]

section unmarked

variable (h : Unmarked t)
include h

theorem quotations_unmarked : quotations t = [] := quotations_eq_nil h.marks

theorem givenLabel?_unmarked : givenLabel? t = none := by
  rw [givenLabel?, quotations_unmarked h, namedLabel_search_eq_none h.naming]
  rfl

end unmarked

/-- Nothing in the text opens a label, and neither lower-casing nor trimming changes it. -/
structure Spoken (t : Text) : Prop where
  unmarked : Unmarked t
  keeps : ∀ c ∈ t, KeepsCase c
  ne : t ≠ []
  first : t.head?.any isBlank = false
  last : t.getLast?.any isBlank = false

instance (t : Text) : Decidable (Spoken t) :=
  decidable_of_iff (Unmarked t ∧ t.all (fun c => KeepsCase c) = true ∧ t ≠ [] ∧
      t.head?.any isBlank = false ∧ t.getLast?.any isBlank = false)
    ⟨fun h => ⟨h.1, by simpa using h.2.1, h.2.2.1, h.2.2.2.1, h.2.2.2.2⟩,
      fun h => ⟨h.unmarked, by simpa using h.keeps, h.ne, h.first, h.last⟩⟩

namespace Spoken

theorem append (hx : Spoken x) (hy : Spoken y) : Spoken (x ++ ' ' :: y) := by
  refine ⟨hx.unmarked.append hy.unmarked (by decide) (by decide), fun c hc => ?_, by simp, ?_, ?_⟩
  · rcases List.mem_append.1 hc with hc | hc
    · exact hx.keeps c hc
    · rcases List.mem_cons.1 hc with rfl | hc
      · decide
      · exact hy.keeps c hc
  · rw [List.head?_append_of_ne_nil _ hx.ne]
    exact hx.first
  · rw [List.getLast?_append_of_ne_nil _ (by simp), List.getLast?_cons_of_ne_nil hy.ne]
    exact hy.last

theorem trim_eq (h : Spoken t) : Text.trim t = t :=
  Text.trim_eq_self (fun c hc => by simpa [Option.mem_def.1 hc] using h.first)
    fun c hc => by simpa [Option.mem_def.1 hc] using h.last

theorem head_eq (h : Spoken t) : head t = t := by
  rw [Utterance.head_eq, beforeLabel_unmarked h.unmarked, lower_eq_self h.keeps, h.trim_eq]

/-- A space in front is trimmed away. -/
theorem trim_space (h : Spoken t) : Text.trim (' ' :: t) = t :=
  (Text.trimWhere_cons (by decide)).trans h.trim_eq

end Spoken

end Utterance

end FlowTalk
