import FlowTalk.Proofs.Text.Runs
import FlowTalk.Proofs.Utterance.Separators
import FlowTalk.Proofs.Utterance.Slots

/-! Two labels in quotes with a word between them, and where such a text is divided. -/
namespace FlowTalk
open Pattern Vocabulary

variable {t u a b w front gap back x y rest : Text} {c : Char} {ws : List String} {m : Match}
  {separator : Pattern}

/-- A text in straight double quotes. -/
def inQuotes (t : Text) : Text := '"' :: (t ++ ['"'])

/-- Two texts in quotes with a word between them. -/
def quotedPair (a w b : Text) : Text := inQuotes a ++ (' ' :: (w ++ ' ' :: inQuotes b))

theorem quotedPair_eq_concat (a w b : Text) :
    quotedPair a w b = inQuotes a ++ (' ' :: (w ++ ' ' :: '"' :: b)) ++ ['"'] := by
  simp [quotedPair, inQuotes]

/-- The number of characters that are neither white space nor quotes. -/
def inked (t : Text) : Nat := t.countP fun c => !isBlank c && c != '"'

theorem inked_append (t u : Text) : inked (t ++ u) = inked t + inked u := List.countP_append

theorem inked_trim (t : Text) : inked (Text.trim t) = inked t :=
  Text.countP_trimWhere (fun c hc => by simp [hc]) t

theorem inked_le (h : t <:+: u) : inked t ≤ inked u := h.sublist.countP_le

/-- A phrase of the list with white space around it stands in the text. -/
def Splits (ws : List String) (t : Text) : Prop :=
  ∃ x gap y, Gap (Worded ws) gap ∧ t = x ++ (gap ++ y)

namespace Vocabulary

theorem Gap.ne_nil {Kind : Text → Prop} (h : Gap Kind gap) : gap ≠ [] := by
  obtain ⟨before, word, behind, rfl, _, ⟨hne, _⟩, _⟩ := h
  simp [hne]

theorem not_splits (h : ∀ c ∈ t, isBlank c = false) : ¬ Splits ws t := by
  rintro ⟨x, _, y, ⟨before, word, behind, rfl, _, ⟨hne, hblank⟩, _⟩, rfl⟩
  obtain ⟨c, hc⟩ := List.exists_mem_of_ne_nil before hne
  have hvisible := h c (by simp [hc])
  rw [hblank c hc] at hvisible
  cases hvisible

section visible

variable (hws : Visible ws)
include hws

theorem Gap.quote_not_mem (h : Gap (Worded ws) gap) : '"' ∉ gap := by
  obtain ⟨before, word, behind, rfl, hword, ⟨_, hbefore⟩, ⟨_, hbehind⟩⟩ := h
  have hquote : isBlank '"' = false := by decide
  have hnot : ∀ u : Text, (∀ c ∈ u, isBlank c = true) → '"' ∉ u := by
    intro u hu hmem
    rw [hu _ hmem] at hquote
    cases hquote
  simp [hnot before hbefore, hword.quote_not_mem hws, hnot behind hbehind]

theorem Gap.inked_pos (h : Gap (Worded ws) gap) : 0 < inked gap := by
  have hquote := h.quote_not_mem hws
  obtain ⟨before, word, behind, rfl, hword, _, _⟩ := h
  obtain ⟨x, hx, hblank⟩ := hword.exists_not_blank hws
  have hmem : x ∈ before ++ (word ++ behind) := by simp [hx]
  refine List.countP_pos_iff.2 ⟨x, hmem, ?_⟩
  have hne : x ≠ '"' := by
    rintro rfl
    exact hquote hmem
  simp [hblank, hne]

/-- A text with a gap has more than what stands on one side of the gap. -/
theorem not_trim_infix_of_gap (h : Gap (Worded ws) gap) (ht : t = x ++ (gap ++ y)) :
    ¬ Text.trim t <:+: '"' :: x ∧ ¬ Text.trim t <:+: y ++ ['"'] := by
  have hpos := h.inked_pos hws
  have hall : inked t = inked x + (inked gap + inked y) := by rw [ht, inked_append, inked_append]
  have hfront : inked ('"' :: x) = inked x := by simp [inked]
  have hback : inked (y ++ ['"']) = inked y := by simp [inked]
  constructor
  · intro hinfix
    have hle := inked_le hinfix
    rw [inked_trim] at hle
    omega
  · intro hinfix
    have hle := inked_le hinfix
    rw [inked_trim] at hle
    omega

end visible

end Vocabulary

namespace Vocabulary

/-- A gap in the first label would divide the text too. -/
theorem division_of_splits (hw : '\n' ∉ w) (ha : '\n' ∉ a) (hb : '\n' ∉ b)
    (h : Gap (Worded ws) gap) (ht : a = x ++ (gap ++ y)) :
    Division (Worded ws) (quotedPair a w b) ('"' :: x) gap
      (y ++ '"' :: (' ' :: (w ++ ' ' :: inQuotes b))) := by
  subst ht
  simp only [List.mem_append, not_or] at ha
  exact ⟨⟨[], by simp [quotedPair, inQuotes], Or.inl rfl⟩, h, by simp [ha],
    by simp [ha, hw, hb, inQuotes]⟩

/-- The word between the labels divides the text. -/
theorem division_between (hword : Worded ws w) (ha : '\n' ∉ a) (hb : '\n' ∉ b) :
    Division (Worded ws) (quotedPair a w b) (inQuotes a) (' ' :: (w ++ [' '])) (inQuotes b) :=
  ⟨⟨[], by simp [quotedPair], Or.inl rfl⟩,
    ⟨[' '], w, [' '], rfl, hword, ⟨by simp, isBlank_space⟩, ⟨by simp, isBlank_space⟩⟩,
    by simp [inQuotes, ha], by simp [inQuotes, hb]⟩

/-- No gap ends inside a word. -/
theorem Gap.eq_nil_of_append (hblank : ∀ c ∈ w, isBlank c = false) (h : Gap (Worded ws) gap)
    (hw : ' ' :: (w ++ [' ']) = gap ++ y) : y = [] := by
  obtain ⟨before, word, behind, rfl, _, ⟨hne, _⟩, ⟨hbehind, hbehindBlank⟩⟩ := h
  obtain ⟨c, before, rfl⟩ := List.exists_cons_of_ne_nil hne
  obtain ⟨d, hd⟩ := List.exists_mem_of_ne_nil _ hbehind
  rcases List.eq_nil_or_concat y with rfl | ⟨y, e, rfl⟩
  · rfl
  · have hall : (' ' :: w) ++ [' '] = (c :: (before ++ (word ++ behind)) ++ y) ++ [e] := by
      simpa using hw
    have hword := (List.cons.inj (List.append_inj' hall rfl).1).2
    have hmem : d ∈ w := by simp [hword, hd]
    exact absurd (hblank d hmem) (by simp [hbehindBlank d hd])

section quotedPair

variable (hws : Visible ws)
include hws

/-- No gap reaches over a quote: it stands in the first label, between the labels or in the second
label. -/
theorem Division.located (h : Division (Worded ws) (quotedPair a w b) front gap back) :
    (∃ x y, a = x ++ (gap ++ y) ∧ front = '"' :: x) ∨
      (∃ x y, ' ' :: (w ++ [' ']) = x ++ (gap ++ y) ∧ front = inQuotes a ++ x ∧
        back = y ++ inQuotes b) ∨
      ∃ x y, b = x ++ (gap ++ y) ∧ front = inQuotes a ++ (' ' :: (w ++ ' ' :: '"' :: x)) ∧
        back = y ++ ['"'] := by
  have hquote := h.gap.quote_not_mem hws
  have hne := h.gap.ne_nil
  obtain ⟨rest, htext, hrest⟩ := h.text
  have hnil : rest = [] := by
    refine hrest.resolve_right ?_
    rintro rfl
    have hlast := congrArg List.getLast? htext
    rw [quotedPair_eq_concat, List.getLast?_concat] at hlast
    simp [List.getLast?_append] at hlast
  rw [hnil, List.append_nil] at htext
  have hwhole : [] ++ '"' :: (a ++ '"' :: ((' ' :: (w ++ [' '])) ++ '"' :: (b ++ ['"']))) =
      front ++ (gap ++ back) := by simpa [quotedPair, inQuotes] using htext
  rcases piece_beside hwhole hquote with ⟨u, hu, _⟩ | ⟨x, rfl, hinside⟩
  · simp [hne] at hu
  · rcases piece_beside hinside hquote with ⟨y, ha, _⟩ | ⟨x, rfl, hbehind⟩
    · exact Or.inl ⟨x, y, ha, rfl⟩
    · rcases piece_beside hbehind hquote with ⟨y, hw, rfl⟩ | ⟨x, rfl, hlast⟩
      · exact Or.inr (Or.inl ⟨x, y, hw, by simp [inQuotes], rfl⟩)
      · rcases piece_beside hlast hquote with ⟨y, hb, rfl⟩ | ⟨u, _, hu⟩
        · exact Or.inr (Or.inr ⟨x, y, hb, by simp [inQuotes], rfl⟩)
        · simp [hne] at hu

/-- What the divider finds is divided between the labels if the labels are not cut. -/
theorem whole_of_divided (hsep : separator.Spells (Worded ws)) (hprogress : separator.Progressive)
    (hblank : ∀ c ∈ w, isBlank c = false)
    (h : (divider separator).matchFront (quotedPair a w b) = some m)
    (ha : Text.trim a <:+: m.piece 1) (hb : Text.trim b <:+: m.piece 2) :
    '\n' ∉ a ∧ '\n' ∉ b ∧ ¬ Splits ws a := by
  obtain ⟨⟨gap, hdivision⟩, hshortest⟩ := divider_sound hsep hprogress h
  rcases hdivision.located hws with ⟨x, y, hsplit, hfront⟩ | ⟨x, y, _, hfront, hback⟩ |
    ⟨x, y, hsplit, _, hback⟩
  · rw [hfront] at ha
    exact absurd ha (not_trim_infix_of_gap hws hdivision.gap hsplit).1
  · have haLine : '\n' ∉ a := fun hmem => hdivision.front.2 (by simp [hfront, inQuotes, hmem])
    have hbLine : '\n' ∉ b := fun hmem => hdivision.back.2 (by simp [hback, inQuotes, hmem])
    have hwLine : '\n' ∉ w := fun hmem => absurd (hblank _ hmem) (by decide)
    refine ⟨haLine, hbLine, ?_⟩
    -- the shortest first piece would end inside the first label
    rintro ⟨x', gap', y', hgap', hcut⟩
    have hle := hshortest _ _ _ (division_of_splits hwLine haLine hbLine hgap' hcut)
    have hlength := congrArg List.length hcut
    simp only [hfront, inQuotes, List.length_append, List.length_cons] at hle hlength
    omega
  · rw [hback] at hb
    exact absurd hb (not_trim_infix_of_gap hws hdivision.gap hsplit).2

/-- If nothing divides the first label and the labels are of one line, the text is divided into the
labels with their quotes. -/
theorem divided_in_quotes (hsep : separator.Spells (Worded ws)) (hprogress : separator.Progressive)
    (hword : Worded ws w) (hblank : ∀ c ∈ w, isBlank c = false) (ha : '\n' ∉ a) (hb : '\n' ∉ b)
    (hsplits : ¬ Splits ws a) :
    ∃ m, (divider separator).matchFront (quotedPair a w b) = some m ∧ m.piece 1 = inQuotes a ∧
      m.piece 2 = inQuotes b := by
  have hbetween := division_between hword ha hb
  obtain ⟨m, hm⟩ := divider_complete hsep hprogress hbetween
  obtain ⟨⟨gap, hdivision⟩, hshortest⟩ := divider_sound hsep hprogress hm
  have hle := hshortest _ _ _ hbetween
  rcases hdivision.located hws with ⟨x, y, hsplit, _⟩ | ⟨x, y, hgap, hfront, hback⟩ |
    ⟨x, y, _, hfront, _⟩
  · exact absurd ⟨x, gap, y, hdivision.gap, hsplit⟩ hsplits
  · have hx : x = [] := by
      rw [hfront, List.length_append] at hle
      exact List.length_eq_zero_iff.1 (by omega)
    subst hx
    have hy := hdivision.gap.eq_nil_of_append hblank hgap
    exact ⟨m, hm, by simp [hfront], by simp [hback, hy]⟩
  · rw [hfront, List.length_append, List.length_cons] at hle
    omega

end quotedPair

end Vocabulary

end FlowTalk
