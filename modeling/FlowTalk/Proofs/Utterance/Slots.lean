import FlowTalk.Proofs.Pattern.Demands
import FlowTalk.Proofs.Pattern.Forward
import FlowTalk.Proofs.Pattern.WholeWord
import FlowTalk.Proofs.Text.Digit
import FlowTalk.Proofs.Text.Trim
import FlowTalk.Proofs.Utterance.Drafts

/-! What a detector puts into a slot is more than white space. -/
namespace FlowTalk
open Pattern

variable {t l label quoted : Text} {labelWords : Bool} {m : Mention} {found : Match}

namespace Vocabulary

theorem demands_digits (slot : Nat) : (capture slot (some1 digit)).Demands isDigit :=
  demands_char.append_left.capture

theorem demands_nodeNumber : nodeNumber.Demands isDigit :=
  (demands_digits 1).append_right.append_left.or (demands_digits 1).append_right.append_left

theorem demands_ordinalPhrase : ordinalPhrase.Demands isDigit :=
  (demands_digits 1).append_right.append_left

end Vocabulary

namespace Utterance
open Vocabulary

theorem opensWith_between {opening : Char} (closing : Char) (hlower : opening.isLower = false)
    (hmark : isQuoteMark opening = true) : (between opening closing).OpensWith isQuoteMark := by
  refine (opensWith_char fun c hc => ?_).append.append
  rwa [eq_of_baseLetter (eq_of_beq hc) hlower]

/-- A quotation begins with a quote mark. -/
theorem opensWith_quotation : quotation.OpensWith isQuoteMark := by
  refine (((opensWith_between _ (by decide) (by decide)).or
    (opensWith_between _ (by decide) (by decide))).or ?_).or
      (opensWith_between _ (by decide) (by decide))
  exact ((opensWith_between _ (by decide) (by decide)).of_test takes_notAfterWord).append

theorem quotations_eq_nil (h : ∀ c ∈ t, isQuoteMark c = false) : quotations t = [] := by
  rw [quotations, allMatches_eq_nil (opensWith_quotation.searchAfter_eq_none h)]
  rfl

theorem trim_of_mem_quotations (h : quoted ∈ quotations t) : Text.trim quoted = quoted := by
  obtain ⟨m, _, rfl⟩ := List.mem_map.1 h
  exact Text.trim_trim _

@[simp]
theorem trim_cleanLabel (t : Text) : Text.trim (cleanLabel t) = cleanLabel t := Text.trim_trim _

/-- A label of one line that is taken as it stands when it is given without quotes. -/
structure UnquotedLabel (l : Text) : Prop where
  ne : l ≠ []
  line : '\n' ∉ l
  marks : ∀ c ∈ l, isQuoteMark c = false
  clean : cleanLabel l = l

instance (l : Text) : Decidable (UnquotedLabel l) :=
  decidable_of_iff (l ≠ [] ∧ '\n' ∉ l ∧ l.all (fun c => !isQuoteMark c) = true ∧ cleanLabel l = l)
    ⟨fun h => ⟨h.1, h.2.1, by simpa using h.2.2.1, h.2.2.2⟩,
      fun h => ⟨h.ne, h.line, by simpa using h.marks, h.clean⟩⟩

theorem UnquotedLabel.trim_eq (h : UnquotedLabel l) : Text.trim l = l := by
  have htrim := trim_cleanLabel l
  rwa [h.clean] at htrim

theorem UnquotedLabel.ends (h : UnquotedLabel l) :
    (∀ c ∈ l.head?, isBlank c = false) ∧ ∀ c ∈ l.getLast?, isBlank c = false :=
  Text.ends_of_trimWhere_eq h.trim_eq

@[simp]
theorem trim_cleanFragment (labelWords : Bool) (t : Text) :
    Text.trim (cleanFragment labelWords t) = cleanFragment labelWords t := Text.trim_trim _

theorem trim_firstLabel (t : Text) (places : List Pattern) :
    Text.trim (firstLabel t places) = firstLabel t places := by
  induction places with
  | nil => rfl
  | cons p rest ih =>
    rw [firstLabel]
    cases p.search t with
    | none => exact ih
    | some m =>
      by_cases hempty : (cleanLabel (m.piece 1)).isEmpty = true
      · simpa [hempty] using ih
      · simp [hempty]

theorem trim_newLabel (t : Text) : Text.trim (newLabel t) = newLabel t := by
  rw [newLabel]
  cases hq : quotations t with
  | nil => exact trim_firstLabel t newLabels
  | cons quoted rest =>
    by_cases hempty : quoted.isEmpty = true
    · simpa [hempty] using trim_firstLabel t newLabels
    · have hmem : quoted ∈ quotations t := by simp [hq]
      simpa [hempty] using trim_of_mem_quotations hmem

theorem trim_givenLabel? (h : givenLabel? t = some label) :
    label ≠ [] ∧ Text.trim label = label := by
  have hnamed : ∀ {label}, ((namedLabel.search t).bind fun m =>
      let label := cleanLabel (m.piece 1)
      if label.isEmpty then none else some label) = some label →
      label ≠ [] ∧ Text.trim label = label := by
    intro label h
    obtain ⟨m, _, h⟩ := Option.bind_eq_some_iff.1 h
    by_cases hempty : (cleanLabel (m.piece 1)).isEmpty = true
    · simp [hempty] at h
    · obtain rfl : cleanLabel (m.piece 1) = label := by simpa [hempty] using h
      exact ⟨by simpa using hempty, trim_cleanLabel _⟩
  rw [givenLabel?] at h
  cases hq : quotations t with
  | nil =>
    rw [hq] at h
    exact hnamed h
  | cons quoted rest =>
    rw [hq] at h
    by_cases hempty : quoted.isEmpty = true
    · exact hnamed (by simpa [hempty] using h)
    · obtain rfl : quoted = label := by simpa [hempty] using h
      have hmem : quoted ∈ quotations t := by simp [hq]
      exact ⟨by simpa using hempty, trim_of_mem_quotations hmem⟩

theorem trim_text_of_mention? (h : mention? labelWords t = .ok (some m)) :
    Text.trim m.text ≠ [] := by
  rcases mention?_cases h with ⟨quoted, rest, hq, hne, rfl⟩ | ⟨_, hne, hm⟩
  · have hmem : quoted ∈ quotations t := by simp [hq]
    simpa [Mention.text, trim_of_mem_quotations hmem] using hne
  · rcases hm with ⟨n, _, rfl⟩ | ⟨_, rfl⟩
    · simp [Mention.ofOrdinal, Mention.text, hne]
    · simpa [Mention.text] using hne

theorem trim_text_of_nodeNumber (h : nodeNumber.search t = some found) (n : Int) :
    Text.trim (Mention.ofOrdinal n found.body).text ≠ [] := by
  obtain ⟨c, hc, hdigit⟩ := demands_nodeNumber.exists_mem_body (search_sound h)
  have hne : found.body ≠ [] := List.ne_nil_of_mem hc
  have htext : (Mention.ofOrdinal n found.body).text = found.body := by
    simp [Mention.ofOrdinal, Mention.text, hne]
  rw [htext]
  exact Text.trim_ne_nil_iff.2 ⟨c, hc, isBlank_of_isDigit hdigit⟩

/-- A number without words of its own is called a node. -/
theorem trim_text_ofOrdinal_nil (n : Int) : Text.trim (Mention.ofOrdinal n []).text ≠ [] :=
  Text.trim_ne_nil_iff.2 ⟨'n', by simp [Mention.ofOrdinal, Mention.text], by decide⟩

end Utterance

end FlowTalk
