import FlowTalk.Interpret
import FlowTalk.Proofs.Pattern.Division
import FlowTalk.Proofs.Utterance.QuotedSlots

/-! Labels in quotes or after a naming word are taken as they stand. -/
namespace FlowTalk
open Pattern

variable {t l front : Text} {nodes : Listing}

namespace Utterance
open Vocabulary

/-- A label given as such is looked for first. -/
theorem newLabel_of_given (h : givenLabel? t = some l) : newLabel t = l := by
  have hnamed : ∀ l, ((namedLabel.search t).bind fun m =>
      let label := cleanLabel (m.piece 1)
      if label.isEmpty then none else some label) = some l → firstLabel t newLabels = l := by
    intro l hl
    obtain ⟨m, hm, hlabel⟩ := Option.bind_eq_some_iff.1 hl
    by_cases hempty : (cleanLabel (m.piece 1)).isEmpty = true
    · simp [hempty] at hlabel
    · simpa [newLabels, firstLabel, hm, hempty] using hlabel
  rw [givenLabel?] at h
  rw [newLabel]
  cases hq : quotations t with
  | nil =>
    rw [hq] at h
    exact hnamed l h
  | cons quoted rest =>
    rw [hq] at h
    by_cases hempty : quoted.isEmpty = true
    · simpa [hempty] using hnamed l (by simpa [hempty] using h)
    · simpa [hempty] using h

/-- The first quotation of a text is the label that it gives. -/
theorem givenLabel?_inQuotes (hfront : ∀ c ∈ front, isQuoteMark c = false)
    (hblank : Text.trim l ≠ []) (hquote : '"' ∉ l) :
    givenLabel? (front ++ inQuotes l) = some (Text.trim l) := by
  rw [givenLabel?, quotations_append_inQuotes (Text.ne_nil_of_trim hblank) hquote hfront]
  simp [hblank]

section named

variable (h : UnquotedLabel l)
include h

/-- Behind a naming word the whole rest of the text is the label. -/
theorem namedLabel_called :
    ∃ m, namedLabel.searchAfter (some ' ') ("called".toList ++ ' ' :: l) = some m ∧
      m.piece 1 = l := by
  have hrun : namedLabel.run ⟨some ' ', "called".toList ++ ' ' :: l, 0, []⟩ some =
      some ⟨l.getLast?, [], 7 + l.length, [⟨1, l, l.length⟩]⟩ :=
    run_or_of_some (p := phrase "called") (run_restOfText (k := 6) h.ne h.line h.ends.1)
  refine ⟨_, searchAfter_of_match (matchAfter_of_run hrun), ?_⟩
  simp [Match.piece, Match.piece?, Match.ofPlace, Captured.piece]

theorem givenLabel?_called (hfront : ∀ c ∈ front, isQuoteMark c = false)
    (hlast : front.getLast? = some ' ')
    (hnone : ∀ i < front.length, namedLabel.matchAfter ((front.take i).getLast?.or none)
      (front.drop i ++ ("called".toList ++ ' ' :: l)) = none) :
    givenLabel? (front ++ ("called".toList ++ ' ' :: l)) = some l := by
  obtain ⟨m, hm, hpiece⟩ : ∃ m, namedLabel.search (front ++ ("called".toList ++ ' ' :: l)) =
      some m ∧ m.piece 1 = l := by
    obtain ⟨m, hm, hpiece⟩ := namedLabel_called h
    refine ⟨{ m with head := front ++ m.head }, ?_, hpiece⟩
    rw [search, searchAfter_append hnone, hlast, Option.some_or, hm]
    rfl
  have hquotations : quotations (front ++ ("called".toList ++ ' ' :: l)) = [] := by
    have hcalled : ∀ c ∈ "called".toList, isQuoteMark c = false :=
      List.all_iff_forall_prop.1 (by decide)
    have hspace : isQuoteMark ' ' = false := by decide
    refine quotations_eq_nil fun c hc => ?_
    simp only [List.mem_append, List.mem_cons] at hc
    rcases hc with hc | hc | rfl | hc
    · exact hfront c hc
    · exact hcalled c hc
    · exact hspace
    · exact h.marks c hc
  simp only [givenLabel?, hquotations, hm, Option.bind_some, hpiece, h.clean]
  exact if_neg (by simpa using h.ne)

end named

/-- The text gives a label, and the words before the label are the request. -/
structure Gives (t front l : Text) : Prop where
  trim : Text.trim t = t
  label : givenLabel? t = some l
  cut : (labelMarker.search t).map Match.head = some front

namespace Gives

variable (h : Gives t front l)
include h

theorem interpret_add (hasks : asksToAdd (Text.trim (lower front)) = true) (nodes : Listing) :
    interpret t nodes = .ok (.add l) := by
  obtain ⟨hne, hl⟩ := trim_givenLabel? h.label
  have hdetector : ⟨.add, asksToAdd, draftAdd⟩ ∈ detectors := by simp [detectors]
  have hbuild : (Draft.add l).build nodes = .ok (.add l) := by
    simp [Draft.build, Draft.add, Draft.trimmedLabel, hne, hl]
  rw [← head_of_cut h.cut] at hasks
  rw [interpret, understand_of_accepts hdetector h.trim hasks, draftAdd, newLabel_of_given h.label,
    if_neg (by simpa using hne)]
  exact hbuild

theorem interpret_delete (hasks : asksToDelete (Text.trim (lower front)) = true)
    (nodes : Listing) : interpret t nodes = (Draft.delete (.label l)).build nodes := by
  have hdetector : ⟨.delete, asksToDelete, draftDelete⟩ ∈ detectors := by simp [detectors]
  rw [← head_of_cut h.cut] at hasks
  rw [interpret, understand_of_accepts hdetector h.trim hasks, draftDelete, h.label]
  rfl

end Gives

theorem gives_inQuotes {c : Char} (hfirst : (front ++ inQuotes l).head? = some c)
    (hc : isBlank c = false) (hfront : ∀ c ∈ front, isQuoteMark c = false)
    (hcut : (labelMarker.search (front ++ inQuotes l)).map Match.head = some front)
    (hblank : Text.trim l ≠ []) (hquote : '"' ∉ l) :
    Gives (front ++ inQuotes l) front (Text.trim l) :=
  ⟨trim_append_inQuotes hfirst hc, givenLabel?_inQuotes hfront hblank hquote, hcut⟩

theorem gives_called (h : UnquotedLabel l) (hfirst : ∀ c ∈ front.head?, isBlank c = false)
    (hfront : ∀ c ∈ front, isQuoteMark c = false) (hlast : front.getLast? = some ' ')
    (hnone : ∀ i < front.length, namedLabel.matchAfter ((front.take i).getLast?.or none)
      (front.drop i ++ ("called".toList ++ ' ' :: l)) = none)
    (hcut : (labelMarker.search (front ++ ("called".toList ++ ' ' :: l))).map Match.head =
      some front) :
    Gives (front ++ ("called".toList ++ ' ' :: l)) front l := by
  have hne : front ≠ [] := by
    rintro rfl
    simp at hlast
  refine ⟨?_, givenLabel?_called h hfront hlast hnone, hcut⟩
  rw [← List.append_assoc]
  refine Text.trim_append_cons_eq_self (by simp [hne]) h.ne ?_ h.ends.2 ' '
  rwa [List.head?_append_of_ne_nil _ hne]

end Utterance

open Utterance

/-- A label in quotes is taken without its outer white space, and a label after a naming word as it
is, whatever they look like: they are never read as numbers, as other nodes or as commands. -/
theorem interpret_givenLabel (nodes : Listing) :
    (∀ l : Text, Text.trim l ≠ [] → '"' ∉ l →
      interpret ("add a node ".toList ++ inQuotes l) nodes = .ok (.add (Text.trim l)) ∧
      interpret ("delete ".toList ++ inQuotes l) nodes =
        (Draft.delete (.label (Text.trim l))).build nodes) ∧
    (∀ l : Text, UnquotedLabel l →
      interpret ("add a node called ".toList ++ l) nodes = .ok (.add l) ∧
      interpret ("delete the node called ".toList ++ l) nodes =
        (Draft.delete (.label l)).build nodes) := by
  refine ⟨fun l hblank hquote => ⟨?_, ?_⟩, fun l hl => ⟨?_, ?_⟩⟩
  · have hgives : Gives ("add a node ".toList ++ inQuotes l) "add a node ".toList (Text.trim l) :=
      gives_inQuotes rfl (by decide) (List.all_iff_forall_prop.1 (by decide)) rfl hblank hquote
    exact hgives.interpret_add (by decide) nodes
  · have hgives : Gives ("delete ".toList ++ inQuotes l) "delete ".toList (Text.trim l) :=
      gives_inQuotes rfl (by decide) (List.all_iff_forall_prop.1 (by decide)) rfl hblank hquote
    exact hgives.interpret_delete (by decide) nodes
  · have hgives : Gives ("add a node ".toList ++ ("called".toList ++ ' ' :: l))
        "add a node ".toList l :=
      gives_called hl (by rintro c ⟨⟩; decide) (List.all_iff_forall_prop.1 (by decide)) rfl
        (fun i (hi : i < 11) => by interval_cases i <;> rfl) rfl
    exact hgives.interpret_add (by decide) nodes
  · have hgives : Gives ("delete the node ".toList ++ ("called".toList ++ ' ' :: l))
        "delete the node ".toList l :=
      gives_called hl (by rintro c ⟨⟩; decide) (List.all_iff_forall_prop.1 (by decide)) rfl
        (fun i (hi : i < 16) => by interval_cases i <;> rfl) rfl
    exact hgives.interpret_delete (by decide) nodes

/-- Labels that look like numbers, commands and edge words. -/
def lookalikeLabels : List String := ["Step 2", "7", "Delete Account", "the link"]

theorem interpret_givenLabel_lookalikes :
    (∀ l ∈ lookalikeLabels, Text.trim l.toList ≠ [] ∧ '"' ∉ l.toList ∧ UnquotedLabel l.toList) ∧
    ∀ l ∈ lookalikeLabels,
      interpret ("add a node ".toList ++ inQuotes l.toList) [] =
        .ok (.add (Text.trim l.toList)) ∧
      interpret ("delete the node called ".toList ++ l.toList) [] =
        (Draft.delete (.label l.toList)).build [] := by
  have hall : ∀ l ∈ lookalikeLabels,
      Text.trim l.toList ≠ [] ∧ '"' ∉ l.toList ∧ UnquotedLabel l.toList := by decide
  obtain ⟨hquoted, hnamed⟩ := interpret_givenLabel []
  refine ⟨hall, fun l hl => ?_⟩
  obtain ⟨hblank, hquote, hunquoted⟩ := hall l hl
  exact ⟨(hquoted l.toList hblank hquote).1, (hnamed l.toList hunquoted).2⟩

end FlowTalk
