import FlowTalk.Proofs.Pattern.Forward

/-! Matching finds a way of the pattern whenever there is one, if no round of a repetition is
empty. -/
namespace FlowTalk

variable {p q : Pattern} {s t m : Place} {next : Place → Option Place} {b : Option Char}
  {u rest : Text}

/-- The place after the text `u`. -/
def Place.past (s : Place) (u : Text) : Place :=
  { s with
    before := u.getLast?.or s.before
    rest := s.rest.drop u.length
    taken := s.taken + u.length }

theorem Place.past_past (s : Place) (u v : Text) : (s.past u).past v = s.past (u ++ v) := by
  simp [past, List.getLast?_append, Option.or_assoc, Nat.add_assoc]

theorem Place.rest_eq_append {u : Text} (h : u <+: s.rest) : s.rest = u ++ (s.past u).rest := by
  obtain ⟨rest, hrest⟩ := h
  simp [past, ← hrest]

theorem Place.step_eq_past {c : Char} (h : s.rest = c :: rest) : s.step c rest = s.past [c] := by
  simp [past, step, h]

namespace Pattern

/-- No round of a repetition in the pattern is empty. -/
def Progressive : Pattern → Prop
  | .seq first second | .either first second => first.Progressive ∧ second.Progressive
  | .many _ body => body.Progressive ∧ ∀ s t, body.Takes s t → t.rest.length < s.rest.length
  | .capture _ body => body.Progressive
  | _ => True

/-- The rounds are not too few: each of them shortens the rest of the text. -/
theorem rounds_complete {round : Place → (Place → Option Place) → Option Place}
    {R : Place → Place → Prop}
    (hround : ∀ {s m next}, R s m → (next m).isSome = true → (round s next).isSome = true)
    (hshort : ∀ s m, R s m → m.rest.length < s.rest.length) {greedy : Bool} {fuel : Text}
    (hfuel : s.rest.length ≤ fuel.length) (h : Relation.ReflTransGen R s m)
    (hnext : (next m).isSome = true) : (rounds round greedy next fuel s).isSome = true := by
  induction fuel generalizing s with
  | nil =>
    rcases h.cases_head with rfl | ⟨m', hone, _⟩
    · exact hnext
    · have hless := hshort s m' hone
      simp only [List.length_nil] at hfuel
      omega
  | cons c fuel ih =>
    rcases h.cases_head with rfl | ⟨m', hone, hmore⟩
    · cases greedy with
      | true =>
        rw [rounds, if_pos rfl]
        split
        · rfl
        · exact hnext
      | false =>
        rw [rounds, if_neg (by simp)]
        split
        · rfl
        · next hnone => simp [hnone] at hnext
    · have hless := hshort s m' hone
      simp only [List.length_cons] at hfuel
      have hlater := hround hone (ih (by omega) hmore)
      cases greedy with
      | true =>
        rw [rounds, if_pos rfl]
        split
        · rfl
        · next hnone => simp [hnone] at hlater
      | false =>
        rw [rounds, if_neg (by simp)]
        split
        · rfl
        · exact hlater

theorem run_complete (hp : p.Progressive) (h : p.Takes s m) (hnext : (next m).isSome = true) :
    (p.run s next).isSome = true := by
  induction p generalizing s m next with
  | nothing =>
    obtain rfl := h
    exact hnext
  | char accepts =>
    obtain ⟨c, rest, hr, hc, rfl⟩ := h
    simpa [run, hr, hc] using hnext
  | seq first second ih₁ ih₂ =>
    obtain ⟨m', h₁, h₂⟩ := h
    exact ih₁ hp.1 h₁ (ih₂ hp.2 h₂ hnext)
  | either first second ih₁ ih₂ =>
    rw [run]
    split
    · rfl
    · next hnone =>
      rcases h with h | h
      · have hfirst := ih₁ hp.1 h hnext
        simp [hnone] at hfirst
      · exact ih₂ hp.2 h hnext
  | many greedy body ih =>
    exact rounds_complete (R := body.Takes) (fun h hn => ih hp.1 h hn) hp.2 (Nat.le_refl _) h hnext
  | notAhead body ih =>
    obtain ⟨hnone, rfl⟩ := h
    simpa [run, hnone] using hnext
  | notAfterWord =>
    obtain ⟨hw, rfl⟩ := h
    simpa [run, hw] using hnext
  | boundary =>
    obtain ⟨hb, rfl⟩ := h
    simpa [run, hb] using hnext
  | start =>
    obtain ⟨hb, rfl⟩ := h
    simpa [run, hb] using hnext
  | finish =>
    obtain ⟨hf, rfl⟩ := h
    simpa [run, hf] using hnext
  | capture slot body ih =>
    obtain ⟨m', hm, rfl⟩ := h
    exact ih hp hm hnext

theorem run_eq_none_of_not_takes (h : ∀ t, ¬ p.Takes s t) : p.run s next = none := by
  cases hr : p.run s next with
  | none => rfl
  | some t =>
    obtain ⟨m, hm, _⟩ := run_sound hr
    exact absurd hm (h m)

/-- If there is but one way, matching takes it. -/
theorem run_eq_of_unique (hp : p.Progressive) (htakes : p.Takes s m)
    (hunique : ∀ t, p.Takes s t → t = m) (hnext : (next m).isSome = true) :
    p.run s next = next m := by
  obtain ⟨t, ht⟩ := Option.isSome_iff_exists.1 (run_complete hp htakes hnext)
  obtain ⟨m', hm', hnext'⟩ := run_sound ht
  rw [ht, ← hnext', hunique m' hm']

/-- The pattern has a way through the front of a text that follows the character `b`. -/
def Fits (p : Pattern) (b : Option Char) (t : Text) : Prop := ∃ s, p.Takes ⟨b, t, 0, []⟩ s

@[simp]
theorem fits_or : (p ||| q).Fits b u ↔ p.Fits b u ∨ q.Fits b u := exists_or

@[simp]
theorem fits_char {accepts : Char → Bool} :
    (char accepts).Fits b u ↔ u.head?.any accepts = true := by
  constructor
  · rintro ⟨_, c, rest, rfl, hc, _⟩
    simpa using hc
  · intro h
    cases u with
    | nil => simp at h
    | cons c rest => exact ⟨_, c, rest, rfl, by simpa using h, rfl⟩

theorem fits_notAfterWord_append :
    (notAfterWord ++ p).Fits b u ↔ b.any isWord = false ∧ p.Fits b u := by
  constructor
  · rintro ⟨s, _, ⟨hbefore, rfl⟩, hs⟩
    exact ⟨hbefore, s, hs⟩
  · rintro ⟨hbefore, s, hs⟩
    exact ⟨s, _, ⟨hbefore, rfl⟩, hs⟩

theorem run_isSome_iff (hp : p.Progressive) :
    (p.run s some).isSome = true ↔ ∃ t, p.Takes s t := by
  constructor
  · intro h
    obtain ⟨t, ht⟩ := Option.isSome_iff_exists.1 h
    obtain ⟨m, hm, _⟩ := run_sound ht
    exact ⟨m, hm⟩
  · rintro ⟨t, ht⟩
    exact run_complete hp ht rfl

theorem matchAfter_isSome_iff (hp : p.Progressive) :
    (p.matchAfter b u).isSome = true ↔ p.Fits b u := by
  rw [matchAfter, Option.isSome_map]
  exact run_isSome_iff hp

theorem searchAfter_isSome_iff (hp : p.Progressive) : (p.searchAfter b u).isSome = true ↔
    ∃ front rest, u = front ++ rest ∧ p.Fits (front.getLast?.or b) rest := by
  constructor
  · intro h
    obtain ⟨m, hm⟩ := Option.isSome_iff_exists.1 h
    have hof := searchAfter_sound hm
    obtain ⟨s, hs, _⟩ := hof.takes
    exact ⟨m.head, m.body ++ m.tail, hof.text, s, hs⟩
  · rintro ⟨front, rest, rfl, hfits⟩
    induction front generalizing b with
    | nil =>
      have hfits : p.Fits b rest := hfits
      obtain ⟨m, hm⟩ := Option.isSome_iff_exists.1 ((matchAfter_isSome_iff hp).2 hfits)
      rw [List.nil_append, searchAfter_of_match hm]
      rfl
    | cons c front ih =>
      have hlater := ih (b := some c) (by simpa [List.getLast?_cons] using hfits)
      rw [List.cons_append, searchAfter]
      split
      · rfl
      · rw [Option.isSome_map]
        exact hlater

theorem occursIn_iff (hp : p.Progressive) : p.occursIn u = true ↔
    ∃ front rest, u = front ++ rest ∧ p.Fits front.getLast? rest := by
  rw [occursIn, search, searchAfter_isSome_iff hp]
  simp only [Option.or_none]

@[simp]
theorem progressive_char (accepts : Char → Bool) : (char accepts).Progressive := trivial

@[simp]
theorem progressive_append : (p ++ q).Progressive ↔ p.Progressive ∧ q.Progressive := Iff.rfl

@[simp]
theorem progressive_or : (p ||| q).Progressive ↔ p.Progressive ∧ q.Progressive := Iff.rfl

@[simp]
theorem progressive_notAfterWord : notAfterWord.Progressive := trivial

@[simp]
theorem progressive_boundary : boundary.Progressive := trivial

theorem takes_char_shortens (accepts : Char → Bool) (s m : Place)
    (h : (char accepts).Takes s m) :
    m.rest.length < s.rest.length := by
  obtain ⟨c, rest, hr, _, rfl⟩ := h
  simp [hr, Place.step]

@[simp]
theorem progressive_some1_char (accepts : Char → Bool) : (some1 (char accepts)).Progressive :=
  ⟨trivial, trivial, takes_char_shortens accepts⟩

@[simp]
theorem progressive_phrase (w : String) : (phrase w).Progressive := by
  rw [phrase]
  induction w.toList with
  | nil => trivial
  | cons c cs ih =>
    refine ⟨?_, ih⟩
    split
    · exact progressive_some1_char isBlank
    · exact progressive_char _

@[simp]
theorem progressive_oneOf (ws : List String) : (oneOf ws).Progressive := by
  rw [oneOf, choice]
  induction ws with
  | nil => trivial
  | cons w ws ih => exact ⟨progressive_phrase w, ih⟩

@[simp]
theorem progressive_wholeWord (ws : List String) : (wholeWord ws).Progressive := by
  simp [wholeWord]

end Pattern

end FlowTalk
