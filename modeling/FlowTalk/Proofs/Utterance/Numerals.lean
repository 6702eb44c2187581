import FlowTalk.Interpret
import FlowTalk.Proofs.Except
import FlowTalk.Proofs.Utterance.Pieces

/-! The runs of digits that an utterance gives as node numbers. They decide whether it can be
interpreted: a numeral has a longest length. -/
namespace FlowTalk

/-- Reading succeeds exactly if none of the numerals is too long. -/
def Reads {α : Type} (result : Except NumeralError α) (numerals : List Text) : Prop :=
  (∃ a, result = .ok a) ↔ ∀ ds ∈ numerals, ds.length ≤ maxDigits

namespace Reads

variable {α β : Type} {result : Except NumeralError α} {numerals more : List Text}

theorem ok (a : α) : Reads (.ok a) [] := by simp [Reads]

theorem read (ds : Text) : Reads (Numeral.read ds) [ds] := by
  by_cases hlong : ds.length ≤ maxDigits <;> simp [Reads, Numeral.read, hlong]

theorem map (h : Reads result numerals) (f : α → β) : Reads (result.map f) numerals := by
  have h : (∃ a, result = .ok a) ↔ ∀ ds ∈ numerals, ds.length ≤ maxDigits := h
  rw [Reads, ← h]
  cases result <;> simp [Except.map]

theorem bind {f : α → Except NumeralError β} (h : Reads result numerals)
    (hf : ∀ a, result = .ok a → Reads (f a) more) : Reads (result >>= f) (numerals ++ more) := by
  constructor
  · rintro ⟨b, hb⟩
    obtain ⟨a, ha, hb⟩ := bind_eq_ok.1 hb
    intro ds hds
    rcases List.mem_append.1 hds with hds | hds
    · exact h.1 ⟨a, ha⟩ ds hds
    · exact (hf a ha).1 ⟨b, hb⟩ ds hds
  · intro hshort
    obtain ⟨a, ha⟩ := h.2 fun ds hds => hshort ds (List.mem_append_left _ hds)
    obtain ⟨b, hb⟩ := (hf a ha).2 fun ds hds => hshort ds (List.mem_append_right _ hds)
    exact ⟨b, bind_eq_ok.2 ⟨a, ha, hb⟩⟩

end Reads

/-- The digits of a phrase that is nothing but a node number. -/
def ordinalDigits (t : Text) : List Text :=
  match Vocabulary.ordinalPhrase.matchFront (Text.trim t) with
  | some m => [m.piece 1]
  | none => []

theorem reads_ordinal? (t : Text) : Reads (ordinal? t) (ordinalDigits t) := by
  rw [ordinal?, ordinalDigits]
  cases Vocabulary.ordinalPhrase.matchFront (Text.trim t) with
  | none => exact Reads.ok none
  | some m => exact (Reads.read (m.piece 1)).map some

namespace Utterance
open Vocabulary

/-- The digits of a mention by number. -/
def mentionDigits (labelWords : Bool) (t : Text) : List Text :=
  match quotations t with
  | _ :: _ => []
  | [] => if (cleanFragment labelWords t).isEmpty then []
    else ordinalDigits (cleanFragment labelWords t)

theorem reads_mention? (labelWords : Bool) (t : Text) :
    Reads (mention? labelWords t) (mentionDigits labelWords t) := by
  rw [mention?, mentionDigits]
  cases quotations t with
  | cons quoted rest => exact Reads.ok _
  | nil =>
    by_cases hempty : (cleanFragment labelWords t).isEmpty = true
    · simpa [hempty] using Reads.ok none
    · simpa [hempty] using (reads_ordinal? (cleanFragment labelWords t)).map _

def deleteDigits (t : Text) : List Text :=
  match givenLabel? t with
  | some _ => []
  | none =>
    match nodeNumber.search t with
    | some m => [m.piece 1]
    | none => mentionDigits false (after deleteVerbs t)

theorem reads_draftDelete (t : Text) (nodes : Listing) :
    Reads (draftDelete t nodes) (deleteDigits t) := by
  rw [draftDelete, deleteDigits]
  cases givenLabel? t with
  | some label => exact Reads.ok _
  | none =>
    cases nodeNumber.search t with
    | some m =>
      have hread := (Reads.read (m.piece 1)).bind fun n _ => Reads.ok (n : Int)
      exact hread.map _
    | none => exact (reads_mention? false _).map _

def updateDigits (t : Text) : List Text :=
  match updateSplit.matchFront (after updateVerbs t) with
  | some m => mentionDigits true (m.piece 1)
  | none =>
    match (quotations (after updateVerbs t)).getLast? with
    | some _ => mentionDigits true (quotation.replace " ".toList (after updateVerbs t))
    | none => []

theorem reads_draftUpdate (t : Text) (nodes : Listing) :
    Reads (draftUpdate t nodes) (updateDigits t) := by
  refine Reads.map ?_ _
  rw [updateSlots, updateDigits]
  cases updateSplit.matchFront (after updateVerbs t) with
  | some m => exact (reads_mention? true (m.piece 1)).map _
  | none =>
    cases (quotations (after updateVerbs t)).getLast? with
    | some quoted => exact (reads_mention? true _).map _
    | none => exact Reads.ok _

def endsDigits (body : Text) : List Text :=
  match pairSplit.matchFront body with
  | some m => mentionDigits false (m.piece 1) ++ mentionDigits false (m.piece 2)
  | none =>
    match twoNumbers.search body with
    | some m => [m.piece 1, m.piece 2]
    | none => []

theorem reads_ends (body : Text) : Reads (ends body) (endsDigits body) := by
  rw [ends, endsDigits]
  cases pairSplit.matchFront body with
  | some m =>
    exact (reads_mention? false (m.piece 1)).bind fun _ _ =>
      (reads_mention? false (m.piece 2)).map _
  | none =>
    cases twoNumbers.search body with
    | some m =>
      exact (Reads.read (m.piece 1)).bind fun _ _ => (Reads.read (m.piece 2)).map _
    | none => exact Reads.ok none

/-- The runs of digits that an utterance gives as node numbers. -/
def numerals (t : Text) : List Text :=
  match (detect (head (Text.trim t))).map Detector.intent with
  | some .delete => deleteDigits (Text.trim t)
  | some .update => updateDigits (Text.trim t)
  | some .connect => endsDigits (edgeBody connectVerbs (Text.trim t))
  | some .disconnect => endsDigits (edgeBody disconnectVerbs (Text.trim t))
  | _ => []

theorem reads_understand (t : Text) (nodes : Listing) :
    Reads (understand t nodes) (numerals t) := by
  rw [understand, numerals]
  cases hd : detect (head (Text.trim t)) with
  | none => exact Reads.ok _
  | some d =>
    have hmem : d ∈ detectors := List.mem_of_find?_eq_some hd
    simp only [detectors, List.mem_cons, List.not_mem_nil, or_false] at hmem
    rcases hmem with rfl | rfl | rfl | rfl | rfl | rfl
    · exact Reads.ok _
    · exact reads_draftDelete _ nodes
    · exact reads_draftUpdate _ nodes
    · exact (reads_ends _).map _
    · exact (reads_ends _).map _
    · exact Reads.ok _

/-- All of some texts are runs of digits in a text. -/
def RunsOf (t : Text) (runs : List Text) : Prop := ∀ ds ∈ runs, AllDigits ds ∧ ds <:+: t

variable {s t : Text} {runs more : List Text}

theorem RunsOf.nil (t : Text) : RunsOf t [] := by simp [RunsOf]

theorem RunsOf.append (h : RunsOf t runs) (h' : RunsOf t more) :
    RunsOf t (runs ++ more) := by
  intro ds hds
  rcases List.mem_append.1 hds with hds | hds
  · exact h ds hds
  · exact h' ds hds

theorem RunsOf.within (h : RunsOf s runs) (hst : RunsWithin s t) : RunsOf t runs := by
  intro ds hds
  obtain ⟨hdigits, hds⟩ := h ds hds
  exact ⟨hdigits, hst ds hdigits hds⟩

theorem RunsOf.piece {p : Pattern} {b : Option Char} {m : Match} (h : m.Of p b t)
    (hp : p.CapturesOnly AllDigits) (slot : Nat) : RunsOf t [m.piece slot] := by
  intro ds hds
  obtain rfl := List.mem_singleton.1 hds
  exact ⟨h.piece_of hp (by simp [AllDigits]) slot, h.piece_isInfix slot⟩

theorem runsOf_ordinalDigits (t : Text) : RunsOf t (ordinalDigits t) := by
  rw [ordinalDigits]
  cases hm : ordinalPhrase.matchFront (Text.trim t) with
  | none => exact .nil t
  | some m =>
    exact (RunsOf.piece (Pattern.matchFront_sound hm) capturesOnly_ordinalPhrase 1).within
      (.of_isInfix (Text.trim_isInfix t))

theorem runsOf_mentionDigits (labelWords : Bool) (t : Text) :
    RunsOf t (mentionDigits labelWords t) := by
  rw [mentionDigits]
  cases quotations t with
  | cons quoted rest => exact .nil t
  | nil =>
    by_cases hempty : (cleanFragment labelWords t).isEmpty = true
    · simpa [hempty] using RunsOf.nil t
    · simpa [hempty] using
        (runsOf_ordinalDigits _).within (cleanFragment_runsWithin labelWords t)

theorem runsOf_deleteDigits (t : Text) : RunsOf t (deleteDigits t) := by
  rw [deleteDigits]
  cases givenLabel? t with
  | some label => exact .nil t
  | none =>
    cases hm : nodeNumber.search t with
    | some m => exact .piece (Pattern.search_sound hm) capturesOnly_nodeNumber 1
    | none => exact (runsOf_mentionDigits false _).within (.of_isInfix (after_isInfix _ t))

theorem runsOf_updateDigits (t : Text) : RunsOf t (updateDigits t) := by
  refine RunsOf.within ?_ (.of_isInfix (after_isInfix updateVerbs t))
  rw [updateDigits]
  cases hm : updateSplit.matchFront (after updateVerbs t) with
  | some m =>
    exact (runsOf_mentionDigits true (m.piece 1)).within
      (.of_isInfix ((Pattern.matchFront_sound hm).piece_isInfix 1))
  | none =>
    cases (quotations (after updateVerbs t)).getLast? with
    | some quoted =>
      exact (runsOf_mentionDigits true _).within (Pattern.replace_runsWithin (by decide) _)
    | none => exact .nil _

theorem runsOf_endsDigits (body : Text) : RunsOf body (endsDigits body) := by
  rw [endsDigits]
  cases hm : pairSplit.matchFront body with
  | some m =>
    have hpiece := (Pattern.matchFront_sound hm).piece_isInfix
    exact ((runsOf_mentionDigits false (m.piece 1)).within (.of_isInfix (hpiece 1))).append
      ((runsOf_mentionDigits false (m.piece 2)).within (.of_isInfix (hpiece 2)))
  | none =>
    cases hm : twoNumbers.search body with
    | some m =>
      have hpiece := RunsOf.piece (Pattern.search_sound hm) capturesOnly_twoNumbers
      exact (hpiece 1).append (hpiece 2)
    | none => exact .nil body

theorem runsOf_numerals (t : Text) : RunsOf t (numerals t) := by
  refine RunsOf.within (s := Text.trim t) ?_ (.of_isInfix (Text.trim_isInfix t))
  have hedge (group : List String) (s : Text) : RunsOf s (endsDigits (edgeBody group s)) :=
    (runsOf_endsDigits _).within (.of_isInfix (edgeBody_isInfix group s))
  rw [Utterance.numerals]
  cases (detect (head (Text.trim t))).map Detector.intent with
  | none => exact .nil _
  | some intent =>
    cases intent with
    | delete => exact runsOf_deleteDigits _
    | update => exact runsOf_updateDigits _
    | connect => exact hedge connectVerbs _
    | disconnect => exact hedge disconnectVerbs _
    | add | explain | unknown => exact .nil _

end Utterance

end FlowTalk
