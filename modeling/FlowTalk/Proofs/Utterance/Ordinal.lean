import FlowTalk.Mention
import FlowTalk.Proofs.Number.Digits
import FlowTalk.Proofs.Pattern.Spelling
import FlowTalk.Proofs.Text.Digit
import FlowTalk.Proofs.Text.LetterCase
import FlowTalk.Proofs.Utterance.Sentence
import FlowTalk.Utterance.Ordinal

/-! The texts that are node numbers: a noun, a number sign and digits, told without the pattern for
them. -/
namespace FlowTalk
open Pattern Vocabulary

variable {t u front ds ds' : Text} {s : Place} {c x : Char} {n : Nat}

/-- All of the text is white space. -/
def AllBlank (u : Text) : Prop := ∀ c ∈ u, isBlank c = true

/-- A noun for nodes, up to the case of its letters. -/
def IsNoun (u : Text) : Prop := ∃ noun ∈ nodeNouns, u.map baseLetter = noun.toList

/-- What may stand before the digits of a node number: perhaps a noun with white space behind it,
then perhaps a number sign, and white space. -/
def NumberFront (front : Text) : Prop :=
  ∃ noun sign gap, front = noun ++ (sign ++ gap) ∧
    (noun = [] ∨ ∃ word behind, noun = word ++ behind ∧ IsNoun word ∧ AllBlank behind) ∧
    (sign = [] ∨ sign = ['#']) ∧ AllBlank gap

/-- The text is nothing but a node number with the given digits. -/
structure NumberPhrase (t ds : Text) : Prop where
  text : ∃ front, t = front ++ ds ∧ NumberFront front
  ne_nil : ds ≠ []
  digits : ∀ c ∈ ds, isDigit c = true

theorem numberFront_nil : NumberFront [] :=
  ⟨[], [], [], rfl, Or.inl rfl, Or.inl rfl, by simp [AllBlank]⟩

theorem numberFront_sign : NumberFront ['#'] :=
  ⟨[], ['#'], [], rfl, Or.inl rfl, Or.inr rfl, by simp [AllBlank]⟩

theorem numberFront_node : NumberFront "node ".toList := by
  have hnoun : IsNoun "node".toList := ⟨"node", by decide, by decide⟩
  have hspace : AllBlank [' '] := isBlank_space
  exact ⟨"node ".toList, [], [], rfl, Or.inr ⟨_, _, rfl, hnoun, hspace⟩, Or.inl rfl,
    by simp [AllBlank]⟩

/-! The pattern for node numbers -/

/-- What the pattern asks for before the digits. -/
def numberFront : Pattern :=
  optional (oneOf nodeNouns ++ blanks0) ++ optional (letter '#') ++ blanks0

theorem spells_blanks0 : blanks0.Spells AllBlank := by
  intro s t
  have hblanks : blanks0.Takes s t ↔ _ := takes_many_char_iff
  exact hblanks

theorem spells_nouns : (oneOf nodeNouns).Spells IsNoun := by
  apply (spells_oneOf nodeNouns).congr
  intro u
  have hnouns : SmallWords nodeNouns := by decide
  constructor
  · rintro ⟨noun, hnoun, hwording⟩
    exact ⟨noun, hnoun, (wording_iff_map (hnouns noun hnoun).2).1 hwording⟩
  · rintro ⟨noun, hnoun, hmap⟩
    exact ⟨noun, hnoun, (wording_iff_map (hnouns noun hnoun).2).2 hmap⟩

theorem spells_sign : (letter '#').Spells (· = ['#']) := by
  intro s t
  have hletter : (letter '#').Takes s t ↔ _ := takes_char_iff
  rw [hletter]
  constructor
  · rintro ⟨c, hc, hpre, rfl⟩
    obtain rfl : c = '#' := eq_of_baseLetter (eq_of_beq hc) (by decide)
    exact ⟨['#'], rfl, hpre, rfl⟩
  · rintro ⟨_, rfl, hpre, rfl⟩
    exact ⟨'#', by decide, hpre, rfl⟩

theorem spells_numberFront : numberFront.Spells NumberFront := by
  have hnoun := (spells_nouns.append spells_blanks0).or spells_nothing
  have hfront := (hnoun.append (spells_sign.or spells_nothing)).append spells_blanks0
  apply hfront.congr
  intro u
  constructor
  · rintro ⟨_, gap, ⟨noun, sign, hnoun, hsign, rfl⟩, hgap, rfl⟩
    refine ⟨noun, sign, gap, List.append_assoc noun sign gap, ?_, hsign.symm, hgap⟩
    rcases hnoun with ⟨word, behind, hword, hbehind, rfl⟩ | rfl
    · exact Or.inr ⟨word, behind, rfl, hword, hbehind⟩
    · exact Or.inl rfl
  · rintro ⟨noun, sign, gap, rfl, hnoun, hsign, hgap⟩
    refine ⟨noun ++ sign, gap, ⟨noun, sign, ?_, hsign.symm, rfl⟩, hgap,
      (List.append_assoc noun sign gap).symm⟩
    rcases hnoun with rfl | ⟨word, behind, rfl, hword, hbehind⟩
    · exact Or.inr rfl
    · exact Or.inl ⟨word, behind, hword, hbehind, rfl⟩

/-- The place behind digits that are captured. -/
def pastDigits (t front ds : Text) : Place :=
  Place.record 1 (Place.past ⟨none, t, 0, []⟩ front) ((Place.past ⟨none, t, 0, []⟩ front).past ds)

theorem piece_pastDigits {rest : Text} (h : t = front ++ (ds ++ rest)) :
    (Match.ofPlace t (pastDigits t front ds)).piece 1 = ds := by
  subst h
  simp [Match.piece, Match.piece?, Captured.piece, Match.ofPlace, Place.record, Place.past,
    pastDigits]

theorem rest_pastDigits {rest : Text} (h : t = front ++ (ds ++ rest)) :
    (pastDigits t front ds).rest = rest := by
  subst h
  simp [Place.record, Place.past, pastDigits]

theorem takes_ordinalPhrase_iff : ordinalPhrase.Takes ⟨none, t, 0, []⟩ s ↔
    ∃ front ds, NumberFront front ∧ (ds ≠ [] ∧ ∀ c ∈ ds, isDigit c = true) ∧
      (∃ rest, t = front ++ (ds ++ rest)) ∧ s = pastDigits t front ds ∧ s.atFinish = true := by
  constructor
  · rintro ⟨_, ⟨m, ⟨m₁, ⟨m₂, ⟨_, ⟨_, rfl⟩, hnoun⟩, hsign⟩, hgap⟩, m₃, hds, rfl⟩, hfinish, rfl⟩
    have hfront : numberFront.Takes ⟨none, t, 0, []⟩ m := ⟨m₁, ⟨m₂, hnoun, hsign⟩, hgap⟩
    obtain ⟨front, hkind, hpre, rfl⟩ := (spells_numberFront _ _).1 hfront
    obtain ⟨ds, hne, hall, hrest, rfl⟩ := takes_some1_char_iff.1 hds
    refine ⟨front, ds, hkind, ⟨hne, hall⟩,
      ⟨((Place.past ⟨none, t, 0, []⟩ front).past ds).rest, ?_⟩, rfl, hfinish⟩
    rw [← Place.rest_eq_append hrest]
    exact Place.rest_eq_append (s := ⟨none, t, 0, []⟩) hpre
  · rintro ⟨front, ds, hkind, ⟨hne, hall⟩, ⟨rest, rfl⟩, rfl, hfinish⟩
    obtain ⟨m₁, ⟨m₂, hnoun, hsign⟩, hgap⟩ :=
      (spells_numberFront ⟨none, front ++ (ds ++ rest), 0, []⟩ _).2
        ⟨front, hkind, List.prefix_append front _, rfl⟩
    have hds : (some1 digit).Takes (Place.past ⟨none, front ++ (ds ++ rest), 0, []⟩ front)
        ((Place.past ⟨none, front ++ (ds ++ rest), 0, []⟩ front).past ds) :=
      takes_some1_char_iff.2 ⟨ds, hne, hall, by simp [Place.past], rfl⟩
    exact ⟨_, ⟨_, ⟨m₁, ⟨m₂, ⟨_, ⟨rfl, rfl⟩, hnoun⟩, hsign⟩, hgap⟩, _, hds, rfl⟩, hfinish, rfl⟩

theorem progressive_ordinalPhrase : ordinalPhrase.Progressive := by
  have hblanks : blanks0.Progressive := ⟨trivial, takes_char_shortens isBlank⟩
  have hnouns : (oneOf nodeNouns).Progressive := progressive_oneOf nodeNouns
  have hdigits : (some1 digit).Progressive := progressive_some1_char isDigit
  exact ⟨⟨⟨⟨⟨trivial, ⟨hnouns, hblanks⟩, trivial⟩, trivial, trivial⟩, hblanks⟩, hdigits⟩, trivial⟩

/-! Node numbers -/

theorem isDigit_baseLetter (x : Char) : isDigit (baseLetter x) = isDigit x := by
  rw [baseLetter]
  split
  · next hx =>
    subst hx
    decide
  · split
    · next hx =>
      subst hx
      decide
    · split
      · next hx =>
        rcases hx with rfl | rfl
        · decide
        · decide
      · exact ignoresCase_isDigit x

theorem IsNoun.no_digit (h : IsNoun u) : ∀ c ∈ u, isDigit c = false := by
  intro c hc
  obtain ⟨noun, hnoun, hmap⟩ := h
  have hmem : baseLetter c ∈ noun.toList := hmap ▸ List.mem_map_of_mem hc
  have hnouns : SmallWords nodeNouns := by decide
  have hlower : (baseLetter c).isLower = true := (hnouns noun hnoun).2 _ hmem
  rw [← isDigit_baseLetter]
  exact (isLetter_of_isAlpha (by simp [Char.isAlpha, hlower])).digit

theorem AllBlank.no_digit (h : AllBlank u) : ∀ c ∈ u, isDigit c = false := by
  intro c hc
  rw [Bool.eq_false_iff]
  intro hdigit
  have hblank := h c hc
  rw [isBlank_of_isDigit hdigit] at hblank
  cases hblank

theorem NumberFront.no_digit (h : NumberFront front) : ∀ c ∈ front, isDigit c = false := by
  obtain ⟨noun, sign, gap, rfl, hnoun, hsign, hgap⟩ := h
  intro c hc
  rcases List.mem_append.1 hc with hc | hc
  · rcases hnoun with rfl | ⟨word, behind, rfl, hword, hbehind⟩
    · cases hc
    · rcases List.mem_append.1 hc with hc | hc
      · exact hword.no_digit c hc
      · exact hbehind.no_digit c hc
  · rcases List.mem_append.1 hc with hc | hc
    · rcases hsign with rfl | rfl
      · cases hc
      · obtain rfl := List.mem_singleton.1 hc
        decide
    · exact hgap.no_digit c hc

namespace NumberPhrase

/-- The digits are those from the first digit of the text. -/
theorem eq_dropWhile (h : NumberPhrase t ds) : ds = t.dropWhile fun c => !isDigit c := by
  obtain ⟨⟨front, rfl, hfront⟩, _, hall⟩ := h
  have hskip : front.dropWhile (fun c => !isDigit c) = [] := by
    apply List.dropWhile_eq_nil_iff.2
    intro c hc
    simp [hfront.no_digit c hc]
  have hstop : ∀ c ∈ ds.head?, (!isDigit c) = false := by
    intro c hc
    simp [hall c (List.mem_of_mem_head? hc)]
  rw [Text.dropWhile_append_of_stop hstop, hskip, List.nil_append]

theorem unique (h : NumberPhrase t ds) (h' : NumberPhrase t ds') : ds = ds' :=
  h.eq_dropWhile.trans h'.eq_dropWhile.symm

theorem exists_iff {P : Text → Prop} (h : NumberPhrase t ds) :
    (∃ ds, NumberPhrase t ds ∧ P ds) ↔ P ds := by
  constructor
  · rintro ⟨ds', h', hds'⟩
    rwa [h.unique h']
  · intro hds
    exact ⟨ds, h, hds⟩

theorem of_match {m : Match} (hlast : ∀ c ∈ t.getLast?, c ≠ '\n')
    (h : ordinalPhrase.matchFront t = some m) : NumberPhrase t (m.piece 1) := by
  obtain ⟨s, hs, rfl⟩ := Option.map_eq_some_iff.1 h
  obtain ⟨m, htakes, hsame⟩ := run_sound hs
  obtain rfl := Option.some.inj hsame
  obtain ⟨front, ds, hfront, ⟨hne, hall⟩, ⟨rest, ht⟩, rfl, hfinish⟩ :=
    takes_ordinalPhrase_iff.1 htakes
  rw [piece_pastDigits ht]
  have hrest : rest = [] ∨ rest = ['\n'] := by
    simpa [Place.atFinish, rest_pastDigits ht] using hfinish
  rcases hrest with rfl | rfl
  · exact ⟨⟨front, by simpa using ht, hfront⟩, hne, hall⟩
  · exact absurd rfl (hlast '\n' (by simp [ht]))

/-- The pattern captures the digits. -/
theorem exists_match (hlast : ∀ c ∈ t.getLast?, c ≠ '\n') (h : NumberPhrase t ds) :
    ∃ m, ordinalPhrase.matchFront t = some m ∧ m.piece 1 = ds := by
  have htakes : ∃ s, ordinalPhrase.Takes ⟨none, t, 0, []⟩ s := by
    obtain ⟨⟨front, rfl, hfront⟩, hne, hall⟩ := h
    have htext : front ++ ds = front ++ (ds ++ []) := by rw [List.append_nil]
    have hend : (pastDigits (front ++ ds) front ds).atFinish = true := by
      rw [Place.atFinish, rest_pastDigits htext]
      rfl
    exact ⟨pastDigits (front ++ ds) front ds,
      takes_ordinalPhrase_iff.2 ⟨front, ds, hfront, ⟨hne, hall⟩, ⟨[], htext⟩, rfl, hend⟩⟩
  obtain ⟨m, hm⟩ :=
    Option.isSome_iff_exists.1 ((matchAfter_isSome_iff progressive_ordinalPhrase).2 htakes)
  exact ⟨m, hm, (of_match hlast hm).unique h⟩

/-- Behind a front that begins with something to see, digits are a node number. -/
theorem of_front (hfront : NumberFront front)
    (hfirst : ∀ c ∈ (front ++ ds).head?, isBlank c = false) (hne : ds ≠ [])
    (hds : ∀ c ∈ ds, isDigit c = true) : NumberPhrase (Text.trim (front ++ ds)) ds := by
  have hlast : ∀ c ∈ ds.getLast?, isBlank c = false := by
    intro c hc
    exact isBlank_of_isDigit (hds c (List.mem_of_getLast? hc))
  rw [Text.trim_append_eq_self hne hfirst hlast]
  exact ⟨⟨front, rfl, hfront⟩, hne, hds⟩

theorem of_digits (hne : ds ≠ []) (hds : ∀ c ∈ ds, isDigit c = true) :
    NumberPhrase (Text.trim ds) ds := by
  have hfirst : ∀ c ∈ ds.head?, isBlank c = false := by
    intro c hc
    exact isBlank_of_isDigit (hds c (List.mem_of_mem_head? hc))
  exact of_front numberFront_nil hfirst hne hds

end NumberPhrase

/-- Trimmed text does not end with a line feed. -/
theorem getLast?_trim (t : Text) : ∀ c ∈ (Text.trim t).getLast?, c ≠ '\n' := by
  rintro c hc rfl
  have hblank := (Text.ends_of_trimWhere_eq (Text.trim_trim t)).2 _ hc
  exact absurd hblank (by decide)

theorem ordinal?_of_phrase (h : NumberPhrase (Text.trim t) ds) :
    ordinal? t = (Numeral.read ds).map some := by
  obtain ⟨m, hm, hpiece⟩ := h.exists_match (getLast?_trim t)
  rw [ordinal?, hm]
  simp only [hpiece]

theorem ordinal?_of_no_phrase (h : ¬ ∃ ds, NumberPhrase (Text.trim t) ds) :
    ordinal? t = .ok none := by
  cases hm : ordinalPhrase.matchFront (Text.trim t) with
  | none => rw [ordinal?, hm]
  | some m => exact absurd ⟨_, NumberPhrase.of_match (getLast?_trim t) hm⟩ h

/-- What is read is decided by the digits: their value, nothing if there are none, and a fault if
there are too many. -/
theorem ordinal?_eq_iff (t : Text) :
    (∀ n, ordinal? t = .ok (some n) ↔
        ∃ ds, NumberPhrase (Text.trim t) ds ∧ ds.length ≤ maxDigits ∧ Numeral.value ds = n) ∧
      (ordinal? t = .ok none ↔ ¬ ∃ ds, NumberPhrase (Text.trim t) ds) ∧
      (ordinal? t = .error .tooLong ↔
        ∃ ds, NumberPhrase (Text.trim t) ds ∧ maxDigits < ds.length) := by
  by_cases hphrase : ∃ ds, NumberPhrase (Text.trim t) ds
  · obtain ⟨ds, hds⟩ := hphrase
    have hany : ∃ ds, NumberPhrase (Text.trim t) ds := ⟨ds, hds⟩
    simp only [hds.exists_iff, ordinal?_of_phrase hds, hany, not_true_eq_false, Numeral.read]
    by_cases hlength : ds.length ≤ maxDigits
    · simp [hlength, Except.map]
    · simp [hlength, Except.map, Nat.lt_of_not_le hlength]
  · have hnone (P : Text → Prop) : ¬ ∃ ds, NumberPhrase (Text.trim t) ds ∧ P ds := by
      rintro ⟨ds, hds, _⟩
      exact hphrase ⟨ds, hds⟩
    simp [ordinal?_of_no_phrase hphrase, hnone, hphrase]

/-- A number behind a front is read if it is not too long. -/
theorem ordinal?_front (hfront : NumberFront front)
    (hfirst : ∀ c ∈ front.head?, isBlank c = false) (hn : (Text.ofNat n).length ≤ maxDigits) :
    ordinal? (front ++ Text.ofNat n) = .ok (some n) := by
  have hdecimal := mem_decimals_of_mem_ofNat n
  have hhead : ∀ c ∈ (front ++ Text.ofNat n).head?, isBlank c = false := by
    intro c hc
    cases front with
    | nil => exact isBlank_of_mem_decimals c (hdecimal c (List.mem_of_mem_head? hc))
    | cons d front => exact hfirst c hc
  have hphrase := NumberPhrase.of_front hfront hhead (ofNat_ne_nil n)
    fun c hc => isDigit_of_mem_decimals c (hdecimal c hc)
  rw [ordinal?_of_phrase hphrase, Numeral.read_ofNat hn]
  rfl

/-- A text is read as a node number if and only if, without outer white space, it is perhaps a noun,
perhaps a number sign and digits of any script, which are the number; nothing is read from any other
text, and of such a text nothing is in the way but the number of its digits. A number is read back
from its digits, from these behind a number sign, and from its mention. -/
theorem ordinal_exact (t : Text) (k : Nat) :
    (∀ n, ordinal? t = .ok (some n) ↔
        ∃ ds, NumberPhrase (Text.trim t) ds ∧ ds.length ≤ maxDigits ∧ Numeral.value ds = n) ∧
      (ordinal? t = .ok none ↔ ¬ ∃ ds, NumberPhrase (Text.trim t) ds) ∧
      (ordinal? t = .error .tooLong ↔ ∃ ds, NumberPhrase (Text.trim t) ds ∧ maxDigits < ds.length) ∧
      ((Text.ofNat k).length ≤ maxDigits →
        ordinal? (Text.ofNat k) = .ok (some k) ∧ ordinal? ('#' :: Text.ofNat k) = .ok (some k) ∧
          ordinal? (Mention.ofOrdinal k []).text = .ok (some k)) := by
  obtain ⟨hsome, hnone, hlong⟩ := ordinal?_eq_iff t
  refine ⟨hsome, hnone, hlong, ?_⟩
  intro hk
  have hsign : ∀ c ∈ ['#'].head?, isBlank c = false := by
    rintro c ⟨⟩
    decide
  have hnode : ∀ c ∈ "node ".toList.head?, isBlank c = false := by
    rintro c ⟨⟩
    decide
  have hplain := ordinal?_front numberFront_nil (by simp) hk
  have hsigned := ordinal?_front numberFront_sign hsign hk
  have hmention := ordinal?_front numberFront_node hnode hk
  exact ⟨hplain, hsigned, hmention⟩

/-- A number in each of its forms; a long s, white space of several kinds and digits of two
scripts. -/
theorem ordinal_exact_forms :
    (Text.ofNat 42).length ≤ maxDigits ∧ ordinal? "42".toList = .ok (some 42) ∧
      ordinal? "#42".toList = .ok (some 42) ∧ ordinal? "node 42".toList = .ok (some 42) ∧
      ordinal? "\u3000ſTEP\t# ٤２\n".toList = .ok (some 42) := by
  obtain ⟨hread, _, _, hwritten⟩ := ordinal_exact "\u3000ſTEP\t# ٤２\n".toList 42
  have hlength : (Text.ofNat 42).length ≤ maxDigits := by decide
  obtain ⟨hplain, hsign, hnode⟩ := hwritten hlength
  have hdigits : Text.ofNat 42 = "42".toList := by decide
  have hmention : (Mention.ofOrdinal (42 : Nat) []).text = "node 42".toList := by decide
  rw [hdigits] at hplain hsign
  rw [hmention] at hnode
  have htrim : Text.trim "\u3000ſTEP\t# ٤２\n".toList = "ſTEP\t# ".toList ++ "٤２".toList := by
    decide +kernel
  have hnoun : IsNoun "ſTEP".toList := ⟨"step", by decide, by decide⟩
  have htab : AllBlank ['\t'] := List.forall_mem_singleton.2 (by decide)
  have hfront : NumberFront "ſTEP\t# ".toList :=
    ⟨"ſTEP\t".toList, ['#'], [' '], rfl, Or.inr ⟨_, _, rfl, hnoun, htab⟩, Or.inr rfl, isBlank_space⟩
  have hds : ∀ c ∈ "٤２".toList, isDigit c = true := List.all_iff_forall_prop.1 (by decide)
  have hphrase : NumberPhrase (Text.trim "\u3000ſTEP\t# ٤２\n".toList) "٤２".toList :=
    ⟨⟨_, htrim, hfront⟩, by decide, hds⟩
  refine ⟨hlength, hplain, hsign, hnode, ?_⟩
  exact (hread 42).2 ⟨"٤２".toList, hphrase, by decide, by decide⟩

theorem ordinal?_of_long (hds : ∀ c ∈ ds, isDigit c = true) (hlong : maxDigits < ds.length) :
    NumberPhrase (Text.trim ds) ds ∧ ordinal? ds = .error .tooLong := by
  have hne : ds ≠ [] := by
    rintro rfl
    simp at hlong
  have hphrase := NumberPhrase.of_digits hne hds
  refine ⟨hphrase, ?_⟩
  rw [ordinal?_of_phrase hphrase, Numeral.read, if_neg (Nat.not_le_of_lt hlong)]
  rfl

/-- A node number with one digit more than can be read. -/
theorem ordinal_too_long :
    (¬ ∃ ds, NumberPhrase (Text.trim (List.replicate 4301 '1')) ds ∧ ds.length ≤ maxDigits) ∧
      ordinal? (List.replicate 4301 '1') ≠ .ok none := by
  have hdigits : ∀ c ∈ List.replicate 4301 '1', isDigit c = true := by
    intro c hc
    rw [List.eq_of_mem_replicate hc]
    decide
  have hlong : maxDigits < (List.replicate 4301 '1').length := by
    rw [List.length_replicate]
    decide
  obtain ⟨hphrase, hread⟩ := ordinal?_of_long hdigits hlong
  refine ⟨?_, ?_⟩
  · rw [hphrase.exists_iff]
    exact Nat.not_le_of_lt hlong
  · rw [hread]
    exact nofun

end FlowTalk
