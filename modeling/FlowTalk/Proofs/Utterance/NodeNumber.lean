import FlowTalk.Proofs.Text.Digit
import FlowTalk.Proofs.Text.Lowercase
import FlowTalk.Proofs.Utterance.Framing
import FlowTalk.Proofs.Utterance.Ordinal
import FlowTalk.Proofs.Utterance.Slots
import Mathlib.Data.Bool.AllAny

/-! Node numbers: what is read where a text goes on with decimal digits up to its end. -/
namespace FlowTalk
open Pattern

def notDecimal (c : Char) : Bool := !decimals.contains c

theorem isWord_of_mem_decimals : ∀ c ∈ decimals, isWord c = true :=
  List.all_iff_forall_prop.1 (by decide)

theorem keepsCase_of_mem_decimals : ∀ c ∈ decimals, KeepsCase c :=
  List.all_iff_forall_prop.1 (by decide)

theorem baseLetter_of_mem_decimals : ∀ c ∈ decimals, baseLetter c = c :=
  List.all_iff_forall_prop.1 (by decide)

theorem notDecimal_of_baseLetter {c : Char} (hc : notDecimal c = true) (x : Char)
    (hx : baseLetter x = c) : notDecimal x = true := by
  by_cases hmem : x ∈ decimals
  · rw [← hx, baseLetter_of_mem_decimals x hmem] at hc
    exact hc
  · simpa [notDecimal] using hmem

theorem opensWith_letter {c : Char} (hc : notDecimal c = true) :
    (letter c).OpensWith notDecimal :=
  opensWith_char fun x hx => notDecimal_of_baseLetter hc x (by simpa using hx)

namespace Vocabulary

/-- What stands at the front of a node number. -/
def opensNumber (c : Char) : Bool := ['n', 's', '#'].contains (baseLetter c)

theorem opensWith_nodeNumber : nodeNumber.OpensWith opensNumber := by
  have hletter : ∀ c ∈ ['n', 's', '#'], (letter c).OpensWith opensNumber := fun c hc =>
    opensWith_char fun x hx => List.contains_iff_mem.2 (by rwa [eq_of_beq hx])
  have hnoun : (oneOf nodeNouns).OpensWith opensNumber := by
    refine opensWith_oneOf fun w hw => ?_
    have hall : ∀ w ∈ nodeNouns, w.toList.head?.any
        (fun c => c != ' ' && ['n', 's', '#'].contains c) = true := by decide
    obtain ⟨c, hhead, hc⟩ := (Option.any_eq_true _ _).1 (hall w hw)
    obtain ⟨hspace, hletters⟩ : c ≠ ' ' ∧ ['n', 's', '#'].contains c = true := by
      simpa only [Bool.and_eq_true, bne_iff_ne] using hc
    exact opensWith_phrase hhead hspace fun x hx => by rwa [opensNumber, hx]
  refine OpensWith.or ?_ (hletter '#' (by decide)).append.append
  exact (hnoun.of_test takes_boundary).append.append.append.append.append

end Vocabulary

namespace Utterance
open Vocabulary

variable {ds front : Text} {b : Option Char} {k : Nat} {labelWords : Bool}

/-- The place behind digits that are captured. -/
def behindDigits (ds : Text) (k : Nat) : Place :=
  ⟨ds.getLast?, [], k + ds.length, [⟨1, ds, ds.length⟩]⟩

theorem piece_behindDigits (k : Nat) (t : Text) :
    (Match.ofPlace t (behindDigits ds k)).piece 1 = ds := by
  simp [Match.piece, Match.piece?, Match.ofPlace, Captured.piece, behindDigits]

theorem quotations_node (hds : ∀ c ∈ ds, c ∈ decimals) :
    quotations ("node ".toList ++ ds) = [] := by
  refine quotations_eq_nil fun c hc => ?_
  have hfront : ∀ c ∈ "node ".toList, isQuoteMark c = false := List.all_iff_forall_prop.1 (by decide)
  have hdecimal : ∀ c ∈ decimals, isQuoteMark c = false := List.all_iff_forall_prop.1 (by decide)
  rcases List.mem_append.1 hc with hc | hc
  · exact hfront c hc
  · exact hdecimal c (hds c hc)

theorem lineFeed_not_mem_node (hds : ∀ c ∈ ds, c ∈ decimals) : '\n' ∉ "node ".toList ++ ds := by
  intro hmem
  rcases List.mem_append.1 hmem with hmem | hmem
  · exact absurd hmem (by decide)
  · exact absurd (hds _ hmem) (by decide)

section digits

variable (hne : ds ≠ []) (hds : ∀ c ∈ ds, c ∈ decimals)
include hne hds

theorem run_digits (b : Option Char) (k : Nat) :
    (capture 1 (some1 digit) ++ boundary).run ⟨b, ds, k, []⟩ some = some (behindDigits ds k) := by
  have hlast : (ds.getLast?.or b).any isWord = true := by
    rw [List.getLast?_eq_some_getLast hne]
    exact isWord_of_mem_decimals _ (hds _ (List.getLast_mem hne))
  have hend : boundary.run
      (Place.record 1 ⟨b, ds, k, []⟩ ⟨ds.getLast?.or b, [], k + ds.length, []⟩) some =
        some (behindDigits ds k) := by
    rw [Place.record, run_boundary]
    · simp [behindDigits, List.getLast?_eq_some_getLast hne]
    · simpa [Place.atBoundary, Place.afterWord, Place.beforeWord] using hlast
  have hall : ∀ c ∈ ds, isDigit c = true := fun c hc => isDigit_of_mem_decimals c (hds c hc)
  have hrun : (some1 digit).run ⟨b, ds ++ [], k, []⟩
      (fun t => boundary.run (Place.record 1 ⟨b, ds, k, []⟩ t) some) = some (behindDigits ds k) :=
    run_some1_char hall hne (by simp) hend
  rw [List.append_nil] at hrun
  exact hrun

/-- Before the digits neither a number sign nor blanks are taken. -/
theorem run_numeral (b : Option Char) (k : Nat) :
    (optional (letter '#') ++ (blanks0 ++ (capture 1 (some1 digit) ++ boundary))).run ⟨b, ds, k, []⟩
      some = some (behindDigits ds k) := by
  have hhead : ∀ c ∈ ds.head?, c ∈ decimals := fun c hc => hds c (List.mem_of_mem_head? hc)
  have hblanks : (blanks0 ++ (capture 1 (some1 digit) ++ boundary)).run ⟨b, ds, k, []⟩ some =
      some (behindDigits ds k) :=
    run_many_char (u := []) (by simp) (fun c hc => isBlank_of_mem_decimals c (hhead c hc))
      (run_digits hne hds _ k)
  have hsign : (letter '#' : Pattern).OpensWith notDecimal := opensWith_letter (by decide)
  exact (run_or_of_none (hsign.run_eq_none fun c hc => by simp [notDecimal, hhead c hc])).trans
    hblanks

/-- Nor is anything but the blank taken between a noun and the digits. -/
theorem run_afterNoun (b : Option Char) (k : Nat) :
    (blanks0 ++ (optional (letter '#') ++ (blanks0 ++ (capture 1 (some1 digit) ++ boundary)))).run
      ⟨b, ' ' :: ds, k, []⟩ some = some (behindDigits ds (k + 1)) :=
  run_many_char (u := [' ']) isBlank_space
    (fun c hc => isBlank_of_mem_decimals c (hds c (List.mem_of_mem_head? hc)))
    (run_numeral hne hds _ (k + 1))

/-- The node number of a text without other numbers, nouns for nodes and number signs. -/
theorem nodeNumber_search (hfront : ∀ c ∈ front, opensNumber c = false)
    (hlast : front.getLast? = some ' ') :
    ∃ m, nodeNumber.search (front ++ ("node ".toList ++ ds)) = some m ∧
      m.body = "node ".toList ++ ds ∧ m.piece 1 = ds := by
  have hrun : nodeNumber.run ⟨some ' ', "node ".toList ++ ds, 0, []⟩ some =
      some (behindDigits ds 5) :=
    run_or_of_some (run_or_of_some (p := phrase "node")
      (run_afterNoun hne hds (some 'e') 4))
  have hsearch : nodeNumber.search (front ++ ("node ".toList ++ ds)) =
      some { Match.ofPlace ("node ".toList ++ ds) (behindDigits ds 5) with head := front ++ [] } := by
    rw [search, opensWith_nodeNumber.searchAfter_append hfront, Option.or_none, hlast]
    exact congrArg _ (searchAfter_of_match (matchAfter_of_run hrun))
  refine ⟨_, hsearch, ?_, ?_⟩
  · refine List.take_of_length_le ?_
    rw [List.length_append]
    exact Nat.le_refl _
  · exact piece_behindDigits 5 ("node ".toList ++ ds)

theorem ends_node : ∀ c ∈ ("node ".toList ++ ds).getLast?, c ∈ decimals := by
  rw [List.getLast?_append_of_ne_nil _ hne]
  exact fun c hc => hds c (List.mem_of_getLast? hc)

theorem trim_node : Text.trim ("node ".toList ++ ds) = "node ".toList ++ ds := by
  refine Text.trim_eq_self ?_ fun c hc => isBlank_of_mem_decimals c (ends_node hne hds c hc)
  rintro c ⟨⟩
  decide

theorem ordinal?_node : ordinal? ("node ".toList ++ ds) = (Numeral.read ds).map some := by
  have hfirst : ∀ c ∈ ("node ".toList ++ ds).head?, isBlank c = false := by
    rintro c ⟨⟩
    decide
  have hdigits : ∀ c ∈ ds, isDigit c = true := fun c hc => isDigit_of_mem_decimals c (hds c hc)
  exact ordinal?_of_phrase (NumberPhrase.of_front numberFront_node hfirst hne hdigits)

theorem cleanLabel_node : cleanLabel ("node ".toList ++ ds) = "node ".toList ++ ds := by
  have hmark : ∀ c ∈ decimals, isEndMark c = false ∧ isQuoteMark c = false :=
    List.all_iff_forall_prop.1 (by decide)
  have hend : Text.trimEndWhere isEndMark ("node ".toList ++ ds) = "node ".toList ++ ds :=
    Text.trimEndWhere_eq_self fun c hc => (hmark c (ends_node hne hds c hc)).1
  have hquote : Text.trimWhere isQuoteMark ("node ".toList ++ ds) = "node ".toList ++ ds := by
    refine Text.trimWhere_eq_self ?_ fun c hc => (hmark c (ends_node hne hds c hc)).2
    rintro c ⟨⟩
    decide
  rw [cleanLabel, trim_node hne hds, hend, trim_node hne hds, hquote, trim_node hne hds]

/-- None of the words around a mention is cut off a node number. -/
theorem cleanFragment_node :
    cleanFragment labelWords ("node ".toList ++ ds) = "node ".toList ++ ds := by
  have hlast : ∀ c ∈ ("node ".toList ++ ds).getLast?, (baseLetter c).isLower = false ∧ c ≠ '\n' := by
    have hall : ∀ c ∈ decimals, (baseLetter c).isLower = false ∧ c ≠ '\n' :=
      List.all_iff_forall_prop.1 (by decide)
    exact fun c hc => hall c (ends_node hne hds c hc)
  have hfiller : trailingFiller.erase ("node ".toList ++ ds) = "node ".toList ++ ds :=
    erase_eq_self (search_lastWord_eq_none (by decide) hlast)
  have hnoun : trailingNodeWord.erase ("node ".toList ++ ds) = "node ".toList ++ ds :=
    erase_eq_self (search_lastWord_eq_none (by decide) hlast)
  have hlabel : trailingLabelWord.erase ("node ".toList ++ ds) = "node ".toList ++ ds :=
    erase_eq_self (search_lastWord_eq_none (by decide) hlast)
  have harticle : leadingArticles.erase ("node ".toList ++ ds) = "node ".toList ++ ds :=
    erase_eq_self ((atStart_leadingArticles.search_eq_matchFront _).trans rfl)
  have hof : leadingLabelOf.erase ("node ".toList ++ ds) = "node ".toList ++ ds :=
    erase_eq_self ((atStart_leadingLabelOf.search_eq_matchFront _).trans rfl)
  have hwords : withoutLabelWords ("node ".toList ++ ds) = "node ".toList ++ ds := by
    rw [withoutLabelWords, hof, hlabel]
  have hchoice : (if labelWords then withoutLabelWords ("node ".toList ++ ds)
      else "node ".toList ++ ds) = "node ".toList ++ ds := by rw [hwords, ite_self]
  simp only [cleanFragment, cleanLabel_node hne hds, hfiller, hchoice, harticle, hnoun]

/-- A node number is a mention by number. -/
theorem mention?_node : mention? labelWords ("node ".toList ++ ds) =
    (Numeral.read ds).map fun n => some (.ofOrdinal n ("node ".toList ++ ds)) := by
  have hne' : ("node ".toList ++ ds).isEmpty = false := rfl
  rw [mention?, quotations_node hds]
  simp only [cleanFragment_node hne hds, hne', Bool.false_eq_true, if_false, ordinal?_node hne hds]
  cases Numeral.read ds with
  | error e => rfl
  | ok n => rfl

end digits

end Utterance

end FlowTalk
