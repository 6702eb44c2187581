import FlowTalk.Proofs.Pattern.Forward
import FlowTalk.Proofs.Pattern.Spelling
import FlowTalk.Utterance.Vocabulary

/-! A line that is divided at its first separator. -/
namespace FlowTalk
open Pattern Vocabulary

variable {s t : Place} {next : Place → Option Place} {accepts : Char → Bool} {separator : Pattern}
  {Kind : Text → Prop} {text fuel front gap back u : Text} {slot : Nat} {m : Match}

namespace Pattern

/-- A repetition that is not greedy stops at the first place from which matching goes on. -/
theorem rounds_lazy (h : rounds (char accepts).run false next fuel s = some t) :
    ∃ u, (∀ c ∈ u, accepts c = true) ∧ u <+: s.rest ∧ next (s.past u) = some t ∧
      ∀ v, v <+: u → v ≠ u → next (s.past v) = none := by
  induction fuel generalizing s with
  | nil => exact ⟨[], by simp, List.nil_prefix, h, fun v hv hne => absurd (List.prefix_nil.1 hv) hne⟩
  | cons c fuel ih =>
    cases hn : next s with
    | some t' =>
      obtain rfl : t' = t := by simpa [rounds, hn] using h
      exact ⟨[], by simp, List.nil_prefix, hn, fun v hv hne => absurd (List.prefix_nil.1 hv) hne⟩
    | none =>
      have hround : (char accepts).run s (rounds (char accepts).run false next fuel) = some t := by
        simpa [rounds, hn] using h
      obtain ⟨_, hm, hlater⟩ := run_sound hround
      obtain ⟨d, hd, hdrest, rfl⟩ := takes_char_iff.1 hm
      obtain ⟨u, hu, hpre, hnext, hbefore⟩ := ih hlater
      rw [Place.past_past] at hnext
      refine ⟨d :: u, by simpa using ⟨hd, hu⟩, prefix_past.2 ⟨hdrest, hpre⟩, hnext, ?_⟩
      intro v hv hne
      cases v with
      | nil => exact hn
      | cons x v =>
        obtain ⟨rfl, hv'⟩ := List.cons_prefix_cons.1 hv
        have hshort := hbefore v hv' fun heq => hne (by rw [heq])
        rwa [Place.past_past] at hshort

/-- A piece that is to be short ends where matching goes on for the first time. -/
theorem run_shortest (h : (shortest slot).run s next = some t) :
    ∃ u, u ≠ [] ∧ '\n' ∉ u ∧ u <+: s.rest ∧ next (Place.record slot s (s.past u)) = some t ∧
      ∀ v, v ≠ [] → v <+: u → v ≠ u → next (Place.record slot s (s.past v)) = none := by
  have hbody : inLine.run s (fun m => (many false inLine).run m fun m' =>
      next (Place.record slot s m')) = some t := h
  obtain ⟨_, hm, hlater⟩ := run_sound hbody
  obtain ⟨c, hc, hcrest, rfl⟩ := takes_char_iff.1 hm
  obtain ⟨u, hu, hpre, hnext, hbefore⟩ := rounds_lazy hlater
  rw [Place.past_past] at hnext
  refine ⟨c :: u, by simp, ?_, prefix_past.2 ⟨hcrest, hpre⟩, hnext, ?_⟩
  · intro hline
    rcases List.mem_cons.1 hline with rfl | hline
    · exact absurd hc (by decide)
    · exact absurd (hu _ hline) (by decide)
  · intro v hvne hv hne
    cases v with
    | nil => exact absurd rfl hvne
    | cons x v =>
      obtain ⟨rfl, hv'⟩ := List.cons_prefix_cons.1 hv
      have hshort := hbefore v hv' fun heq => hne (by rw [heq])
      rwa [Place.past_past] at hshort

end Pattern

namespace Vocabulary

/-- White space, a separator and white space. -/
def Gap (Kind : Text → Prop) (gap : Text) : Prop :=
  ∃ before word behind, gap = before ++ (word ++ behind) ∧ Kind word ∧
    (before ≠ [] ∧ ∀ c ∈ before, isBlank c = true) ∧ (behind ≠ [] ∧ ∀ c ∈ behind, isBlank c = true)

/-- The text is two pieces of one line each with a gap between them, perhaps with a line feed at
the end. -/
structure Division (Kind : Text → Prop) (text front gap back : Text) : Prop where
  text : ∃ rest, text = front ++ (gap ++ (back ++ rest)) ∧ (rest = [] ∨ rest = ['\n'])
  gap : Gap Kind gap
  front : front ≠ [] ∧ '\n' ∉ front
  back : back ≠ [] ∧ '\n' ∉ back

/-- A text that is divided at a separator. -/
def divider (separator : Pattern) : Pattern :=
  start ++ shortest 1 ++ blanks ++ separator ++ blanks ++ restOfText 2

/-- What a divider asks for after the first piece. -/
def remainder (separator : Pattern) : Pattern := blanks ++ separator ++ blanks ++ restOfText 2

theorem spells_gap (h : separator.Spells Kind) :
    (blanks ++ separator ++ blanks).Spells (Gap Kind) := fun s t => by
  rw [(spells_blanks.append h).append spells_blanks s t]
  refine exists_congr fun gap => and_congr_left fun _ => ?_
  constructor
  · rintro ⟨_, behind, ⟨before, word, hbefore, hword, rfl⟩, hbehind, rfl⟩
    exact ⟨before, word, behind, by simp, hword, hbefore, hbehind⟩
  · rintro ⟨before, word, behind, rfl, hword, hbefore, hbehind⟩
    exact ⟨before ++ word, behind, ⟨before, word, hbefore, hword, rfl⟩, hbehind, by simp⟩

theorem all_inLine_iff : (∀ c ∈ u, (c != '\n') = true) ↔ '\n' ∉ u := by
  constructor
  · intro h hmem
    exact absurd (h _ hmem) (by decide)
  · intro h c hc
    have hne : c ≠ '\n' := by
      rintro rfl
      exact h hc
    simpa using hne

theorem takes_shortest_iff : (shortest slot).Takes s t ↔
    ∃ u, u ≠ [] ∧ '\n' ∉ u ∧ u <+: s.rest ∧ t = Place.record slot s (s.past u) := by
  constructor
  · rintro ⟨_, hm, rfl⟩
    obtain ⟨u, hne, hu, hpre, rfl⟩ := takes_char_many_iff.1 hm
    exact ⟨u, hne, all_inLine_iff.1 hu, hpre, rfl⟩
  · rintro ⟨u, hne, hu, hpre, rfl⟩
    exact ⟨_, takes_char_many_iff.2 ⟨u, hne, all_inLine_iff.2 hu, hpre, rfl⟩, rfl⟩

theorem takes_restOfText_iff : (restOfText slot).Takes s t ↔
    ∃ u, u ≠ [] ∧ '\n' ∉ u ∧ u <+: s.rest ∧ t = Place.record slot s (s.past u) ∧
      t.atFinish = true := by
  constructor
  · rintro ⟨_, ⟨_, hm, rfl⟩, hfinish, rfl⟩
    obtain ⟨u, hne, hu, hpre, rfl⟩ := takes_some1_char_iff.1 hm
    exact ⟨u, hne, all_inLine_iff.1 hu, hpre, rfl, hfinish⟩
  · rintro ⟨u, hne, hu, hpre, rfl, hfinish⟩
    exact ⟨_, ⟨_, takes_some1_char_iff.2 ⟨u, hne, all_inLine_iff.2 hu, hpre, rfl⟩, rfl⟩,
      hfinish, rfl⟩

theorem progressive_remainder (h : separator.Progressive) : (remainder separator).Progressive := by
  have hblanks : blanks.Progressive := progressive_some1_char isBlank
  have hline : (some1 inLine).Progressive := progressive_some1_char _
  exact ⟨⟨⟨hblanks, h⟩, hblanks⟩, hline, trivial⟩

theorem progressive_shortest (slot : Nat) : (shortest slot).Progressive :=
  ⟨trivial, trivial, takes_char_shortens _⟩

theorem matchFront_divider : (divider separator).matchFront text =
    ((shortest 1).run ⟨none, text, 0, []⟩ fun s => (remainder separator).run s some).map
      (Match.ofPlace text) := rfl

/-- The place after the first piece of a text. -/
def afterFront (text front : Text) : Place :=
  Place.record 1 ⟨none, text, 0, []⟩ (Place.past ⟨none, text, 0, []⟩ front)

/-- The place after both pieces and the gap between them. -/
def afterBack (text front gap back : Text) : Place :=
  Place.record 2 ((afterFront text front).past gap) (((afterFront text front).past gap).past back)

theorem pieces_afterBack {rest : Text} (h : text = front ++ (gap ++ (back ++ rest))) :
    (Match.ofPlace text (afterBack text front gap back)).piece 1 = front ∧
      (Match.ofPlace text (afterBack text front gap back)).piece 2 = back := by
  subst h
  simp [Match.piece, Match.piece?, Captured.piece, Match.ofPlace, Place.record, Place.past,
    afterFront, afterBack]

section separator

variable (hsep : separator.Spells Kind)
include hsep

theorem division_of_takes (hfront : front ≠ [] ∧ '\n' ∉ front) (hpre : front <+: text)
    (h : (remainder separator).Takes (afterFront text front) t) :
    ∃ gap, Division Kind text front gap ((Match.ofPlace text t).piece 2) ∧
      (Match.ofPlace text t).piece 1 = front := by
  obtain ⟨_, hgap, hback⟩ := h
  obtain ⟨gap, hkind, hgapRest, rfl⟩ := (spells_gap hsep _ _).1 hgap
  obtain ⟨back, hne, hline, hbackRest, hplace, hfinish⟩ := takes_restOfText_iff.1 hback
  obtain rfl : t = afterBack text front gap back := hplace
  have hsplit : text = front ++ (gap ++ (back ++ _)) :=
    (Place.rest_eq_append (s := ⟨none, text, 0, []⟩) hpre).trans
      (congrArg _ ((Place.rest_eq_append hgapRest).trans
        (congrArg _ (Place.rest_eq_append hbackRest))))
  generalize hrest : (((afterFront text front).past gap).past back).rest = rest at hsplit
  have hend : rest = [] ∨ rest = ['\n'] := by
    rw [← hrest]
    simpa [Place.atFinish, Place.record, afterBack] using hfinish
  obtain ⟨hfirst, hsecond⟩ := pieces_afterBack hsplit
  rw [hfirst, hsecond]
  exact ⟨gap, ⟨⟨rest, hsplit, hend⟩, hkind, hfront, hne, hline⟩, rfl⟩

theorem takes_of_division (h : Division Kind text front gap back) :
    ∃ t, (remainder separator).Takes (afterFront text front) t := by
  obtain ⟨⟨rest, rfl, hrest⟩, hgap, hfront, hback⟩ := h
  have hplace : (afterFront (front ++ (gap ++ (back ++ rest))) front).rest =
      gap ++ (back ++ rest) := by simp [afterFront, Place.record, Place.past]
  refine ⟨_, _, (spells_gap hsep _ _).2 ⟨gap, hgap, ⟨back ++ rest, hplace.symm⟩, rfl⟩,
    takes_restOfText_iff.2 ⟨back, hback.1, hback.2, ⟨rest, ?_⟩, rfl, ?_⟩⟩
  · simp [Place.past, hplace]
  · have hlast : (((afterFront (front ++ (gap ++ (back ++ rest))) front).past gap).past back).rest =
        rest := by simp [Place.past, hplace]
    simpa [Place.atFinish, Place.record, hlast] using hrest

/-- The divider goes on after a first piece if there is no division with a shorter one. -/
theorem matchFront_divider_of_run (hfront : front ≠ [] ∧ '\n' ∉ front) (hpre : front <+: text)
    (hshortest : ∀ front' gap back, Division Kind text front' gap back →
      front.length ≤ front'.length)
    (hrun : (remainder separator).run (afterFront text front) some = some t) :
    (divider separator).matchFront text = some (Match.ofPlace text t) := by
  have hsome : ((shortest 1).run ⟨none, text, 0, []⟩ fun s =>
      (remainder separator).run s some).isSome = true :=
    run_complete (progressive_shortest 1)
      (takes_shortest_iff.2 ⟨front, hfront.1, hfront.2, hpre, rfl⟩)
      (Option.isSome_of_eq_some hrun)
  obtain ⟨t', ht'⟩ := Option.isSome_iff_exists.1 hsome
  obtain ⟨u, hne, hline, hu, hnext, hfirst⟩ := run_shortest ht'
  obtain ⟨_, htakes, _⟩ := run_sound hnext
  obtain ⟨gap, hdivision, _⟩ := division_of_takes hsep ⟨hne, hline⟩ hu htakes
  have hle := hshortest _ _ _ hdivision
  have hprefix : front <+: u := List.prefix_of_prefix_length_le hpre hu hle
  by_cases hsame : front = u
  · subst hsame
    obtain rfl : t = t' := Option.some.inj (hrun.symm.trans hnext)
    rw [matchFront_divider, ht']
    rfl
  · have hnone : (remainder separator).run (afterFront text front) some = none :=
      hfirst front hfront.1 hprefix hsame
    rw [hrun] at hnone
    cases hnone

variable (hprogress : separator.Progressive)
include hprogress

/-- A divider finds the division with the shortest first piece. -/
theorem divider_sound (h : (divider separator).matchFront text = some m) :
    (∃ gap, Division Kind text (m.piece 1) gap (m.piece 2)) ∧
      ∀ front gap back, Division Kind text front gap back → (m.piece 1).length ≤ front.length := by
  rw [matchFront_divider] at h
  obtain ⟨t, ht, rfl⟩ := Option.map_eq_some_iff.1 h
  obtain ⟨u, hne, hline, hpre, hnext, hfirst⟩ := run_shortest ht
  obtain ⟨_, htakes, hsame⟩ := run_sound hnext
  obtain rfl := Option.some.inj hsame
  obtain ⟨gap, hdivision, hpiece⟩ := division_of_takes hsep ⟨hne, hline⟩ hpre htakes
  rw [hpiece]
  refine ⟨⟨gap, hdivision⟩, fun front gap back hother => Nat.le_of_not_lt fun hless => ?_⟩
  obtain ⟨m, hm⟩ := takes_of_division hsep hother
  have hshort : front <+: u := by
    obtain ⟨rest, htext, _⟩ := hother.text
    exact List.prefix_of_prefix_length_le ⟨_, htext.symm⟩ hpre (Nat.le_of_lt hless)
  have hnone := hfirst front hother.front.1 hshort fun heq => Nat.ne_of_lt hless (by rw [heq])
  have hsome : ((remainder separator).run (afterFront text front) some).isSome = true :=
    run_complete (progressive_remainder hprogress) hm rfl
  rw [afterFront, hnone] at hsome
  cases hsome

theorem divider_complete (h : Division Kind text front gap back) :
    ∃ m, (divider separator).matchFront text = some m := by
  obtain ⟨t, ht⟩ := takes_of_division hsep h
  obtain ⟨rest, htext, _⟩ := h.text
  have hfront : (shortest 1).Takes ⟨none, text, 0, []⟩ (afterFront text front) :=
    takes_shortest_iff.2 ⟨front, h.front.1, h.front.2, ⟨_, htext.symm⟩, rfl⟩
  have hrun : ((shortest 1).run ⟨none, text, 0, []⟩ fun s =>
      (remainder separator).run s some).isSome = true :=
    run_complete (progressive_shortest 1) hfront
      (run_complete (progressive_remainder hprogress) ht rfl)
  obtain ⟨s, hs⟩ := Option.isSome_iff_exists.1 hrun
  exact ⟨_, by rw [matchFront_divider, hs]; rfl⟩

end separator

/-- White space does not stand in a word in front of it. -/
theorem prefix_of_blank {v rest a z : Text} {c : Char} (h : v ++ rest = a ++ c :: z)
    (hv : ∀ d ∈ v, isBlank d = false) (hc : isBlank c = true) : v <+: a := by
  rcases List.append_eq_append_iff.1 h with ⟨e, rfl, _⟩ | ⟨e, rfl, he⟩
  · exact List.prefix_append v e
  · cases e with
    | nil => simp
    | cons d e =>
      obtain ⟨rfl, _⟩ := List.cons.inj he
      rw [hv c (by simp)] at hc
      cases hc

/-- The first piece of a division holds the first two words if the second cannot begin a
separator. -/
theorem Division.length_le {w v rest : Text} (h : Division Kind (w ++ ' ' :: (v ++ rest)) front gap back)
    (hw : ∀ c ∈ w, isBlank c = false) (hv : ∀ c ∈ v, isBlank c = false) (hne : v ≠ [])
    (hkind : ∀ u, Kind u → u ≠ [] ∧ u.head? ≠ v.head?) :
    (w ++ ' ' :: v).length ≤ front.length := by
  obtain ⟨⟨tail, htext, _⟩, ⟨before, word, behind, rfl, hword, ⟨hbefore, hblank⟩, _⟩, _, _⟩ := h
  obtain ⟨c, before, rfl⟩ := List.exists_cons_of_ne_nil hbefore
  have hc := hblank c (by simp)
  obtain ⟨a, rfl⟩ := prefix_of_blank htext hw hc
  rw [List.append_assoc, List.append_cancel_left_eq] at htext
  cases a with
  | nil =>
    -- the separator would begin with the second word
    exfalso
    have hrest : v ++ rest = before ++ (word ++ (behind ++ (back ++ tail))) := by
      simpa using (List.cons.inj htext).2
    obtain ⟨hwordNe, hfirst⟩ := hkind word hword
    obtain ⟨d, v, rfl⟩ := List.exists_cons_of_ne_nil hne
    cases before with
    | nil =>
      obtain ⟨e, word, rfl⟩ := List.exists_cons_of_ne_nil hwordNe
      exact hfirst (congrArg some (List.cons.inj hrest).1.symm)
    | cons e before =>
      obtain rfl : d = e := (List.cons.inj hrest).1
      have hd := hv d (by simp)
      rw [hblank d (by simp)] at hd
      cases hd
  | cons d a =>
    have hrest : v ++ rest = a ++ (c :: (before ++ (word ++ behind) ++ (back ++ tail))) := by
      simpa using (List.cons.inj htext).2
    have hlength := (prefix_of_blank hrest hv hc).length_le
    simp only [List.length_append, List.length_cons]
    omega

/-- Behind one space the rest of the text is captured whole. -/
theorem run_restOfText {l : Text} {b : Option Char} {k : Nat} {cs : List Captured} (hne : l ≠ [])
    (hline : '\n' ∉ l) (hfirst : ∀ c ∈ l.head?, isBlank c = false) :
    (blanks ++ restOfText slot).run ⟨b, ' ' :: l, k, cs⟩ some =
      some ⟨l.getLast?, [], k + 1 + l.length, ⟨slot, l, l.length⟩ :: cs⟩ := by
  have hend : finish.run (Place.record slot ⟨some ' ', l, k + 1, cs⟩
      ⟨l.getLast?.or (some ' '), [], k + 1 + l.length, cs⟩) some =
        some ⟨l.getLast?, [], k + 1 + l.length, ⟨slot, l, l.length⟩ :: cs⟩ := by
    simp [run, Place.atFinish, Place.record, List.getLast?_eq_some_getLast hne]
  have hrest : (some1 inLine).run ⟨some ' ', l ++ [], k + 1, cs⟩
      (fun s => finish.run (Place.record slot ⟨some ' ', l, k + 1, cs⟩ s) some) =
        some ⟨l.getLast?, [], k + 1 + l.length, ⟨slot, l, l.length⟩ :: cs⟩ :=
    run_some1_char (all_inLine_iff.2 hline) hne (by simp) hend
  rw [List.append_nil] at hrest
  exact run_some1_char (u := [' ']) isBlank_space (by simp) hfirst hrest

end Vocabulary

end FlowTalk
