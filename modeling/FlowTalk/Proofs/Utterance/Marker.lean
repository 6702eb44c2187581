import FlowTalk.Proofs.Pattern.WholeWord
import FlowTalk.Proofs.Text.Trim
import FlowTalk.Proofs.Utterance.Drafts
import Mathlib.Data.Bool.AllAny

/-! What follows the opening of a label has no say in what an utterance asks for. -/
namespace FlowTalk
open Pattern

variable {w : String} {c x : Char} {cs : List Char} {front mid rest rest' body back : Text}

/-- A word of letters that stands before a character of another kind stands there whatever follows
that character. -/
theorem WordAt.behind_stop (hw : ∀ c ∈ w.toList, c.isLower = true) (hc : isWord c = false)
    (h : WordAt w front body back) (heq : mid ++ c :: rest = body ++ back) :
    ∃ back', mid ++ c :: rest' = body ++ back' ∧ WordAt w front body back' := by
  have hback : ∃ a, mid = body ++ a ∧ back = a ++ c :: rest := by
    rcases List.append_eq_append_iff.1 heq with ⟨a, hbody, hrest⟩ | hmid
    · cases a with
      | nil => exact ⟨[], by simpa using hbody.symm, by simpa using hrest.symm⟩
      | cons d a =>
        have hd : c = d := (List.cons.inj hrest).1
        have hword := h.wording.all_isWord hw c (by simp [hbody, hd])
        rw [hc] at hword
        cases hword
    · exact hmid
  obtain ⟨a, rfl, rfl⟩ := hback
  refine ⟨a ++ c :: rest', by simp, h.wording, h.opens, ?_⟩
  have hcloses := h.closes
  cases a with
  | nil => simpa using hc
  | cons d a => simpa using hcloses

namespace Vocabulary

theorem isLower_of_namingWords : ∀ w ∈ namingWords, ∀ c ∈ w.toList, c.isLower = true := by
  simp [namingWords]

theorem lettered_namingWords : ∀ w ∈ namingWords, Lettered w := by
  simp [namingWords, Lettered]

theorem progressive_labelMarker : labelMarker.Progressive := by simp [labelMarker, letter]

/-- A quote mark that opens a label behind `front`. -/
def opensQuote (front : Text) (x : Char) : Bool :=
  baseLetter x == '"' || baseLetter x == '“' ||
    !front.getLast?.any isWord && (baseLetter x == '\'' || baseLetter x == '‘')

theorem labelMarker_fits_iff : labelMarker.Fits front.getLast? rest ↔
    rest.head?.any (opensQuote front) = true ∨
      ∃ w ∈ namingWords, ∃ body back, rest = body ++ back ∧ WordAt w front body back := by
  have hword : (wholeWord namingWords).Fits front.getLast? rest ↔ _ :=
    takes_wholeWord_iff lettered_namingWords front rfl
  rw [labelMarker, fits_or, hword, fits_or, fits_or, fits_notAfterWord_append, fits_or]
  refine or_congr ?_ Iff.rfl
  cases rest with
  | nil => simp [letter]
  | cons x rest => simp [letter, opensQuote]

/-- A label opens before a character that no word holds whatever follows that character. -/
theorem labelMarker_fits_congr (hc : isWord c = false) :
    labelMarker.Fits front.getLast? (mid ++ c :: rest) ↔
      labelMarker.Fits front.getLast? (mid ++ c :: rest') := by
  have hone : ∀ rest rest', labelMarker.Fits front.getLast? (mid ++ c :: rest) →
      labelMarker.Fits front.getLast? (mid ++ c :: rest') := by
    intro rest rest' h
    rcases labelMarker_fits_iff.1 h with hquote | ⟨w, hw, body, back, heq, hat⟩
    · refine labelMarker_fits_iff.2 (Or.inl ?_)
      cases mid with
      | nil => simpa using hquote
      | cons d mid => simpa using hquote
    · obtain ⟨back', heq', hat'⟩ := hat.behind_stop (isLower_of_namingWords w hw) hc heq
      exact labelMarker_fits_iff.2 (Or.inr ⟨w, hw, body, back', heq', hat'⟩)
  exact ⟨hone rest rest', hone rest' rest⟩

end Vocabulary

namespace Utterance
open Vocabulary

variable {t mark : Text} {nodes : Listing} {d : Draft}

theorem head_of_cut {cut : Text} (h : (labelMarker.search t).map Match.head = some cut) :
    head t = Text.trim (lower cut) := by
  obtain ⟨m, hm, rfl⟩ := Option.map_eq_some_iff.1 h
  rw [head, hm]

/-- A label that opens behind the front hides what differs after it. -/
theorem head_append_congr
    (hwithin : ∀ i < front.length,
      labelMarker.Fits (front.take i).getLast? (front.drop i ++ rest) ↔
        labelMarker.Fits (front.take i).getLast? (front.drop i ++ rest'))
    (hrest : labelMarker.Fits front.getLast? rest)
    (hrest' : labelMarker.Fits front.getLast? rest') :
    head (front ++ rest) = head (front ++ rest') := by
  have hmatch : ∀ b u, (labelMarker.matchAfter b u).isSome = true ↔ labelMarker.Fits b u :=
    fun _ _ => matchAfter_isSome_iff progressive_labelMarker
  have hcut : (labelMarker.search (front ++ rest)).map Match.head =
      (labelMarker.search (front ++ rest')).map Match.head := by
    refine searchAfter_head_congr (fun i hi => ?_) ?_ ?_
    · rw [Bool.eq_iff_iff, hmatch, hmatch, Option.or_none]
      exact hwithin i hi
    · rwa [hmatch, Option.or_none]
    · rwa [hmatch, Option.or_none]
  have hfound : (labelMarker.search (front ++ rest)).isSome = true :=
    (occursIn_iff progressive_labelMarker).2 ⟨front, rest, rfl, hrest⟩
  obtain ⟨m, hm⟩ := Option.isSome_iff_exists.1 hfound
  have hhead : (labelMarker.search (front ++ rest)).map Match.head = some m.head := by rw [hm]; rfl
  rw [head_of_cut hhead, head_of_cut (hcut ▸ hhead)]

theorem head_trim_quote (p s s' : Text) :
    head (Text.trim (p ++ ('"' :: s))) = head (Text.trim (p ++ ('"' :: s'))) := by
  have hquote : isBlank '"' = false := rfl
  have htrim := Text.trim_around (List.cons_ne_nil '"' []) (by simp [hquote]) (by simp [hquote]) p
  have hopens : ∀ u, labelMarker.Fits (p.dropWhile isBlank).getLast? ('"' :: u) := fun u =>
    labelMarker_fits_iff.2 (Or.inl (by simp [opensQuote, baseLetter]))
  rw [← List.singleton_append, ← List.singleton_append (l := s'), htrim, htrim]
  exact head_append_congr (fun i _ => labelMarker_fits_congr rfl) (hopens _) (hopens _)

/-- A trimmed front keeps a blank at its end unless nothing of it is left. -/
theorem dropWhile_isBlank_concat (p : Text) :
    (p ++ [' ']).dropWhile isBlank = [] ∨ ∃ q, (p ++ [' ']).dropWhile isBlank = q ++ [' '] := by
  rw [List.dropWhile_append]
  split
  · exact Or.inl rfl
  · exact Or.inr ⟨_, rfl⟩

theorem isWord_blank : isWord ' ' = false := rfl

theorem getLast?_dropWhile_concat (p : Text) :
    ((p ++ [' ']).dropWhile isBlank).getLast?.any isWord = false := by
  rcases dropWhile_isBlank_concat p with hnil | ⟨q, hq⟩
  · simp [hnil]
  · simp [hq, isWord_blank]

/-- So does a trimmed end that begins with a blank. -/
theorem head?_trimEndWhere_blank (u : Text) :
    (Text.trimEndWhere isBlank (' ' :: u)).head?.any isWord = false := by
  cases ht : Text.trimEndWhere isBlank (' ' :: u) with
  | nil => rfl
  | cons c rest =>
    have hprefix := ht ▸ Text.trimEndWhere_isPrefix isBlank (' ' :: u)
    obtain rfl : c = ' ' := (List.cons_prefix_cons.1 hprefix).1
    simpa using isWord_blank

theorem head_trim_namingWord (hw : w ∈ namingWords) (p s s' : Text) :
    head (Text.trim (p ++ [' '] ++ (w.toList ++ ' ' :: s))) =
      head (Text.trim (p ++ [' '] ++ (w.toList ++ ' ' :: s'))) := by
  have hlower := isLower_of_namingWords w hw
  have hne : w.toList ≠ [] := by
    intro hnil
    simpa [hnil] using (lettered_namingWords w hw).2.1
  have htrim := Text.trim_around hne
    (fun c hc => isBlank_of_isLower (hlower c (List.mem_of_mem_head? hc)))
    (fun c hc => isBlank_of_isLower (hlower c (List.mem_of_mem_getLast? hc))) (p ++ [' '])
  have hopens : ∀ u, labelMarker.Fits ((p ++ [' ']).dropWhile isBlank).getLast?
      (w.toList ++ Text.trimEndWhere isBlank (' ' :: u)) := fun u =>
    labelMarker_fits_iff.2 (Or.inr ⟨w, hw, w.toList, _, rfl, (lettered_namingWords w hw).wording,
      getLast?_dropWhile_concat p, head?_trimEndWhere_blank u⟩)
  rw [htrim, htrim]
  refine head_append_congr (fun i hi => ?_) (hopens s) (hopens s')
  -- the blank before the naming word closes every word that begins in front of it
  rcases dropWhile_isBlank_concat p with hnil | ⟨q, hq⟩
  · simp [hnil] at hi
  · have hi' : i ≤ q.length := by simpa [hq, Nat.lt_succ_iff] using hi
    rw [hq, List.drop_append_of_le_length hi', List.append_assoc, List.append_assoc]
    exact labelMarker_fits_congr isWord_blank

/-- The detector that an utterance selects. -/
def selected (t : Text) : Option Detector := detect (head (Text.trim t))

/-- What opens a label in the middle of an utterance: a quote or a naming word between blanks. -/
def labelOpenings : List Text :=
  ['"'] :: namingWords.map fun w => [' '] ++ w.toList ++ [' ']

theorem selected_congr (hmark : mark ∈ labelOpenings) (p s s' : Text) :
    selected (p ++ mark ++ s) = selected (p ++ mark ++ s') := by
  rw [selected, selected]
  congr 1
  rcases List.mem_cons.1 hmark with rfl | hmark
  · simpa using head_trim_quote p s s'
  · obtain ⟨w, hw, rfl⟩ := List.mem_map.1 hmark
    simpa using head_trim_namingWord hw p s s'

/-- A detector drafts a command of its own kind, or one that is not understood. -/
theorem draft_intent {found : Detector} (hfound : found ∈ detectors)
    (h : found.draft t nodes = .ok d) : d.intent = .unknown ∨ d.intent = found.intent := by
  simp only [detectors, List.mem_cons, List.not_mem_nil, or_false] at hfound
  rcases hfound with rfl | rfl | rfl | rfl | rfl | rfl
  · cases h
    exact Or.inr rfl
  · have h : draftDelete t nodes = .ok d := h
    rcases draftDelete_cases h with ⟨_, _, rfl⟩ | ⟨_, _, _, _, rfl⟩ | ⟨_, _, rfl⟩ | rfl
    · exact Or.inr rfl
    · exact Or.inr rfl
    · exact Or.inr rfl
    · exact Or.inl rfl
  · have h : draftUpdate t nodes = .ok d := h
    rcases draftUpdate_cases h with ⟨_, _, _, _, rfl⟩ | rfl
    · exact Or.inr rfl
    · exact Or.inl rfl
  · have h : draftConnect t nodes = .ok d := h
    rcases draftConnect_cases h with ⟨_, _, _, rfl⟩ | rfl
    · exact Or.inr rfl
    · exact Or.inl rfl
  · have h : draftDisconnect t nodes = .ok d := h
    rcases draftDisconnect_cases h with ⟨_, _, _, rfl⟩ | rfl
    · exact Or.inr rfl
    · exact Or.inl rfl
  · cases h
    exact Or.inr rfl

theorem understand_intent (h : understand t nodes = .ok d) :
    d.intent = .unknown ∨ ∃ found, selected t = some found ∧ d.intent = found.intent := by
  rcases understand_cases h with rfl | ⟨found, hmem, hfound, hdraft⟩
  · exact Or.inl rfl
  · rcases draft_intent hmem hdraft with hunknown | hintent
    · exact Or.inl hunknown
    · exact Or.inr ⟨found, hfound, hintent⟩

/-- What stands after the opening of a label neither changes the detector nor the kind of the
draft, except that the draft may not be understood. -/
theorem selected_ignores_label (hmark : mark ∈ labelOpenings) (p s s' : Text) :
    selected (p ++ mark ++ s) = selected (p ++ mark ++ s') ∧
      ∀ nodes d, understand (p ++ mark ++ s') nodes = .ok d →
        d.intent = .unknown ∨
          ∃ found, selected (p ++ mark ++ s) = some found ∧ d.intent = found.intent := by
  have hsame := selected_congr hmark p s s'
  refine ⟨hsame, fun nodes d h => ?_⟩
  rw [hsame]
  exact understand_intent h

theorem selected_ignores_label_called :
    " called ".toList ∈ labelOpenings ∧
      selected ("add a node".toList ++ " called ".toList ++ "delete the edge".toList) =
        selected ("add a node".toList ++ " called ".toList ++ "start".toList) := by
  have hmark : " called ".toList ∈ labelOpenings := by simp [labelOpenings, namingWords]
  exact ⟨hmark, (selected_ignores_label hmark _ _ _).1⟩

end Utterance

end FlowTalk
