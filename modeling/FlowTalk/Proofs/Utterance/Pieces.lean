import FlowTalk.Proofs.Pattern.Forward
import FlowTalk.Proofs.Pattern.Words
import FlowTalk.Proofs.Text.Runs
import FlowTalk.Utterance.Detector

/-! What is cut out of an utterance is a piece of it, and runs of digits in it stay whole. -/
namespace FlowTalk
open Pattern

namespace Vocabulary

theorem atStart_leadingArticles : leadingArticles.AtStart := atStart_start.append

theorem atStart_leadingLabelOf : leadingLabelOf.AtStart :=
  atStart_start.append.append.append.append.append

theorem atStart_leadingBetween : leadingBetween.AtStart := atStart_start.append.append

theorem atStart_leadingEdgeWord : leadingEdgeWord.AtStart := atStart_start.append.append.append

theorem atFinish_trailingNodeWord : trailingNodeWord.AtFinish := atFinish_append_finish

theorem atFinish_trailingLabelWord : trailingLabelWord.AtFinish := atFinish_append_finish

theorem atFinish_trailingFiller : trailingFiller.AtFinish := atFinish_append_finish

theorem capturesOnly_digits (slot : Nat) :
    (capture slot (some1 digit)).CapturesOnly AllDigits :=
  ⟨fun _ _ _ h hu => (takes_some1_char h hu).2, by simp [digit]⟩

theorem capturesOnly_nodeNumber : nodeNumber.CapturesOnly AllDigits := by
  simp [nodeNumber, capturesOnly_digits, letter, blanks0, blank]

theorem capturesOnly_twoNumbers : twoNumbers.CapturesOnly AllDigits := by
  simp [twoNumbers, capturesOnly_digits]

theorem capturesOnly_ordinalPhrase : ordinalPhrase.CapturesOnly AllDigits := by
  simp [ordinalPhrase, capturesOnly_digits, letter, blanks0, blank]

end Vocabulary

namespace Utterance
open Vocabulary Text

variable {group : List String} {labelWords : Bool}

theorem cleanLabel_isInfix (t : Text) : cleanLabel t <:+: t := by
  have hends : trimEndWhere isEndMark (trim t) <:+: t :=
    (trimEndWhere_isPrefix isEndMark (trim t)).isInfix.trans (trim_isInfix t)
  have hquotes : trimWhere isQuoteMark (trim (trimEndWhere isEndMark (trim t))) <:+: t :=
    (trimWhere_isInfix isQuoteMark _).trans ((trim_isInfix _).trans hends)
  exact (trim_isInfix _).trans hquotes

theorem isInfix_of_mem_quotations {t l : Text} (h : l ∈ quotations t) : l <:+: t := by
  obtain ⟨m, hm, rfl⟩ := List.mem_map.1 h
  exact (trim_isInfix _).trans (piece_isInfix_of_mem_matchesAfter hm 1)

theorem withoutLabelWords_runsWithin (t : Text) : RunsWithin (withoutLabelWords t) t :=
  (atFinish_trailingLabelWord.erase_runsWithin _).trans
    (.of_isInfix (atStart_leadingLabelOf.erase_isSuffix t).isInfix)

theorem cleanFragment_runsWithin (labelWords : Bool) (t : Text) :
    RunsWithin (cleanFragment labelWords t) t := by
  have hback (s : Text) :
      RunsWithin (cleanLabel (trailingNodeWord.erase (leadingArticles.erase s))) s := by
    have hnoun := atFinish_trailingNodeWord.erase_runsWithin (leadingArticles.erase s)
    have harticle := atStart_leadingArticles.erase_isSuffix s
    exact (RunsWithin.of_isInfix (cleanLabel_isInfix _)).trans
      (hnoun.trans (.of_isInfix harticle.isInfix))
  have hfront : RunsWithin (trailingFiller.erase (cleanLabel t)) t :=
    (atFinish_trailingFiller.erase_runsWithin _).trans (.of_isInfix (cleanLabel_isInfix t))
  cases labelWords with
  | false =>
    simp only [cleanFragment, Bool.false_eq_true, if_false]
    exact (hback _).trans hfront
  | true =>
    simp only [cleanFragment, if_true]
    exact (hback _).trans ((withoutLabelWords_runsWithin _).trans hfront)

theorem after_isInfix (group : List String) (t : Text) : after group t <:+: t := by
  rw [after]
  cases hs : (wholeWord group).search t with
  | none => exact List.nil_infix
  | some m => exact (trim_isInfix m.tail).trans (search_sound hs).tail_isSuffix.isInfix

/-- The verb may stand at the front. -/
theorem after_of_match {t : Text} {m : Match} (h : (wholeWord group).matchAfter none t = some m) :
    after group t = trim m.tail := by
  rw [after, search, searchAfter_of_match h]

theorem edgeBody_isInfix (group : List String) (t : Text) : edgeBody group t <:+: t := by
  refine (atStart_leadingBetween.erase_isSuffix _).isInfix.trans ?_
  by_cases hverb : (leadsWith group).occursIn (head t) = true
  · rw [if_pos hverb]
    exact (atStart_leadingEdgeWord.erase_isSuffix _).isInfix.trans (after_isInfix group t)
  · rw [if_neg hverb]
    cases hs : edgeWord.search (head t) with
    | none => exact List.nil_infix
    | some m => exact (trim_isInfix _).trans (List.drop_suffix _ t).isInfix

end Utterance

end FlowTalk
