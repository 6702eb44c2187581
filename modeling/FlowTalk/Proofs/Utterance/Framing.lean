import FlowTalk.Proofs.Pattern.Demands
import FlowTalk.Proofs.Utterance.Pieces
import FlowTalk.Proofs.Utterance.Sentence

/-! The words that frame a mention: what is left of a sentence once they are gone. -/
namespace FlowTalk
open Pattern

variable {w : Text} {ws init : List Text} {group : List String} {s t : Place}
  {next : Place → Option Place} {m : Match}

/-- The words without the last one if that is of a group and not the only one. -/
def withoutLast (group : List String) (ws : List Text) : List Text :=
  if ws.dropLast ≠ [] ∧ Among group (ws.getLastD []) then ws.dropLast else ws

/-- The words without those at the front that are of a group; one word stays. -/
def withoutFirst (group : List String) : List Text → List Text
  | w :: v :: ws => if Among group w then withoutFirst group (v :: ws) else w :: v :: ws
  | ws => ws

theorem withoutLast_concat (hinit : init ≠ []) :
    withoutLast group (init ++ [w]) = if Among group w then init else init ++ [w] := by
  simp [withoutLast, hinit]

theorem withoutLast_singleton (w : Text) : withoutLast group [w] = [w] := by simp [withoutLast]

theorem withoutLast_isPrefix (group : List String) (ws : List Text) :
    withoutLast group ws <+: ws := by
  rw [withoutLast]
  split
  · exact List.dropLast_prefix ws
  · exact List.prefix_refl ws

theorem withoutLast_ne_nil (h : ws ≠ []) : withoutLast group ws ≠ [] := by
  rw [withoutLast]
  split
  · next hlast => exact hlast.1
  · exact h

theorem withoutFirst_isSuffix (group : List String) (ws : List Text) :
    withoutFirst group ws <:+ ws := by
  fun_induction withoutFirst group ws with
  | case1 w v ws _ ih => exact ih.trans (List.suffix_cons w (v :: ws))
  | case2 w v ws _ => exact List.suffix_refl _
  | case3 ws _ => exact List.suffix_refl ws

theorem withoutFirst_ne_nil (h : ws ≠ []) : withoutFirst group ws ≠ [] := by
  fun_induction withoutFirst group ws with
  | case1 w v ws _ ih => exact ih (by simp)
  | case2 w v ws _ => exact h
  | case3 ws _ => exact h

namespace Vocabulary

def fillers : List String := ["together", "please", "now"]

def articles : List String := ["the", "a", "an", "this", "that", "my"]

/-- A word of a group at the end of a text, with the white space before it. -/
def trailing (group : List String) : Pattern := blanks ++ oneOf group ++ finish

theorem trailingFiller_eq : trailingFiller = trailing fillers := rfl

theorem trailingNodeWord_eq : trailingNodeWord = trailing nodeWords := rfl

theorem progressive_trailing (group : List String) : (trailing group).Progressive := by
  simp [trailing, blanks, blank, Progressive]

theorem takes_trailing_iff : (trailing group).Takes s t ↔
    ∃ u v, u ≠ [] ∧ (∀ c ∈ u, isBlank c = true) ∧ (∃ g ∈ group, Wording g.toList v) ∧
      u ++ v <+: s.rest ∧ t = s.past (u ++ v) ∧ t.atFinish = true := by
  constructor
  · rintro ⟨_, hword, hfinish, rfl⟩
    obtain ⟨_, ⟨u, v, hu, hv, rfl⟩, hpre, rfl⟩ :=
      (spells_blanks.append (spells_oneOf group) _ _).1 hword
    exact ⟨u, v, hu.1, hu.2, hv, hpre, rfl, hfinish⟩
  · rintro ⟨u, v, hne, hu, hv, hpre, rfl, hfinish⟩
    refine ⟨_, (spells_blanks.append (spells_oneOf group) _ _).2 ?_, hfinish, rfl⟩
    exact ⟨u ++ v, ⟨u, v, ⟨hne, hu⟩, hv, rfl⟩, hpre, rfl⟩

end Vocabulary

section split

variable {x y u v : Text} {p : Char → Bool}

theorem eq_nil_of_getLast?_append (hlast : (x ++ u).getLast?.any p = true)
    (hu : ∀ c ∈ u, p c = false) : u = [] := by
  by_contra hne
  rw [List.getLast?_append_of_ne_nil _ hne, List.getLast?_eq_some_getLast hne] at hlast
  simp [hu _ (List.getLast_mem hne)] at hlast

/-- A text has one last place where a character of a class stands. -/
theorem append_eq_append_of_last (h : x ++ u = y ++ v) (hx : x.getLast?.any p = true)
    (hy : y.getLast?.any p = true) (hu : ∀ c ∈ u, p c = false) (hv : ∀ c ∈ v, p c = false) :
    x = y ∧ u = v := by
  rcases List.append_eq_append_iff.1 h with ⟨as, rfl, rfl⟩ | ⟨bs, rfl, rfl⟩
  · obtain rfl := eq_nil_of_getLast?_append hy fun c hc => hu c (by simp [hc])
    simp
  · obtain rfl := eq_nil_of_getLast?_append hx fun c hc => hv c (by simp [hc])
    simp

end split

theorem isBlank_of_wording {g : String} (hg : ∀ c ∈ g.toList, c.isLower = true)
    (h : Wording g.toList w) : ∀ c ∈ w, isBlank c = false := by
  intro c hc
  refine isBlank_of_isWord (isWord_of_isLower_baseLetter (hg _ ?_))
  rw [← (wording_iff_map hg).1 h]
  exact List.mem_map_of_mem hc

theorem lineFeed_not_mem_sentence (hws : ∀ v ∈ ws, IsPlain v) : '\n' ∉ sentence ws := by
  intro hmem
  rcases mem_sentence hmem with hc | ⟨v, hv, hc⟩
  · exact absurd hc (by decide)
  · exact absurd ((hws v hv).letter hc).blank (by decide)

/-- There is but one space behind a sentence: white space in front of it would end the last
word. -/
theorem eq_sentence_of_blanks {x u : Text} (hinit : init ≠ []) (hplain : ∀ v ∈ init, IsPlain v)
    (hne : u ≠ []) (hu : ∀ c ∈ u, isBlank c = true) (h : x ++ u = sentence init ++ [' ']) :
    x = sentence init := by
  obtain ⟨u, d, rfl⟩ := (List.eq_nil_or_concat' u).resolve_left hne
  rw [← List.append_assoc] at h
  have hinside : x ++ u = sentence init := (List.append_inj' h rfl).1
  obtain ⟨c, hc⟩ := Option.isSome_iff_exists.1
    (List.getLast?_isSome.2 (sentence_ne_nil hinit hplain))
  have hlast : (x ++ u).getLast?.any (fun c => !isBlank c) = true := by
    simp [hinside, hc, (getLast?_sentence hinit hplain hc).blank]
  have hnil : u = [] := eq_nil_of_getLast?_append hlast fun c hc => by simp [hu c (by simp [hc])]
  simpa [hnil] using hinside

namespace Vocabulary

/-- What a pattern for the last word finds in a sentence of two words or more is the last word and
the space before it. -/
theorem trailing_found (hgroup : SmallWords group) (hws : ∀ v ∈ init ++ [w], IsPlain v)
    (hinit : init ≠ []) (h : m.Of (trailing group) none (sentence (init ++ [w]))) :
    Among group w ∧ m.head = sentence init ∧ m.body ≠ [] ∧ m.tail = [] := by
  have hw := hws w (by simp)
  have hplain : ∀ v ∈ init, IsPlain v := fun v hv => hws v (by simp [hv])
  obtain ⟨s, htakes, hrest, _⟩ := h.takes
  obtain ⟨u, v, hne, hu, ⟨g, hg, hv⟩, hpre, rfl, hfinish⟩ := takes_trailing_iff.1 htakes
  have htail : m.tail = [] := by
    have hline : '\n' ∉ m.tail := fun hmem =>
      lineFeed_not_mem_sentence hws (h.tail_isSuffix.subset hmem)
    rw [Place.atFinish, hrest] at hfinish
    rcases Bool.or_eq_true_iff.1 hfinish with hnil | hfeed
    · simpa using hnil
    · exact absurd (by simp [eq_of_beq hfeed]) hline
  have hbody : m.body = u ++ v := by
    have hwhole : m.body ++ m.tail = u ++ v ++ _ := Place.rest_eq_append hpre
    rw [hrest] at hwhole
    exact List.append_cancel_right hwhole
  have hsplit : (m.head ++ u) ++ v = (sentence init ++ [' ']) ++ w := by
    have htext := h.text
    rw [htail, List.append_nil, hbody, sentence_concat hinit] at htext
    simpa using htext.symm
  obtain ⟨d, hd⟩ := Option.isSome_iff_exists.1 (List.getLast?_isSome.2 hne)
  obtain ⟨hfront, rfl⟩ := append_eq_append_of_last (p := isBlank) hsplit
    (by simp [List.getLast?_append, hd, hu d (List.mem_of_getLast? hd)])
    (by simp [show isBlank ' ' = true by decide])
    (isBlank_of_wording (hgroup g hg).2 hv) (fun c hc => (hw.letter hc).blank)
  exact ⟨(among_iff_wording hgroup hw).2 ⟨g, hg, hv⟩,
    eq_sentence_of_blanks hinit hplain hne hu hfront, by simp [hbody, hne], htail⟩

/-- A word of the group at the end of a sentence is cut off, unless it is all there is. -/
theorem erase_trailing (hgroup : SmallWords group) (hne : ws ≠ []) (hws : ∀ v ∈ ws, IsPlain v) :
    (trailing group).erase (sentence ws) = sentence (withoutLast group ws) := by
  obtain ⟨init, w, rfl⟩ := (List.eq_nil_or_concat' ws).resolve_left hne
  have hw := hws w (by simp)
  by_cases hinit : init = []
  · subst hinit
    have hblank : (trailing group).Demands isBlank :=
      demands_char.append_left.append_left.append_left
    rw [List.nil_append, withoutLast_singleton, sentence_singleton]
    exact erase_eq_self (hblank.search_eq_none fun c hc => (hw.letter hc).blank)
  · rw [withoutLast_concat hinit]
    cases hs : (trailing group).search (sentence (init ++ [w])) with
    | some m =>
      obtain ⟨hamong, hhead, hbody, htail⟩ :=
        trailing_found hgroup hws hinit (search_sound hs)
      rw [if_pos hamong, erase_eq_head hs hbody htail, hhead]
    | none =>
      have hnot : ¬ Among group w := by
        intro hamong
        have hfits : (trailing group).Fits (sentence init).getLast? (' ' :: w) := by
          obtain ⟨g, hg, hwording⟩ := (among_iff_wording hgroup hw).1 hamong
          refine ⟨Place.past _ ([' '] ++ w), takes_trailing_iff.2
            ⟨[' '], w, by simp, isBlank_space, ⟨g, hg, hwording⟩, List.prefix_refl _, rfl, ?_⟩⟩
          simp [Place.past, Place.atFinish]
        have hfound := (occursIn_iff (progressive_trailing group)).2
          ⟨sentence init, ' ' :: w, rfl, hfits⟩
        rw [← sentence_concat hinit, occursIn, hs] at hfound
        cases hfound
      rw [if_neg hnot, erase_eq_self hs]

/-- Nothing is cut off at the end of a text that ends with neither a letter nor a line feed. -/
theorem search_lastWord_eq_none {p : Pattern} {t : Text} (hgroup : SmallWords group)
    (hlast : ∀ c ∈ t.getLast?, (baseLetter c).isLower = false ∧ c ≠ '\n') :
    (p ++ oneOf group ++ finish).search t = none := by
  refine Option.eq_none_iff_forall_ne_some.2 fun m hm => ?_
  have hof := search_sound hm
  obtain ⟨_, ⟨_, ⟨s, hp, hword⟩, hfinish, rfl⟩, hrest, _⟩ := hof.takes
  obtain ⟨u, hu⟩ := hp.advances
  obtain ⟨v, ⟨g, hg, hv⟩, hpre, rfl⟩ := (spells_oneOf group _ _).1 hword
  have hmap := (wording_iff_map (hgroup g hg).2).1 hv
  have hne : v ≠ [] := by
    rintro rfl
    exact (hgroup g hg).1 hmap.symm
  have hbody : m.body ++ m.tail = u ++ s.rest := hu.rest
  have htext : t = m.head ++ (u ++ (v ++ m.tail)) := by
    rw [hof.text, hbody, Place.rest_eq_append hpre, hrest]
  rw [Place.atFinish, hrest] at hfinish
  rcases Bool.or_eq_true_iff.1 hfinish with hnil | hfeed
  · have hnil : m.tail = [] := by simpa using hnil
    have hend : t.getLast? = some (v.getLast hne) := by
      rw [htext, hnil, List.append_nil, ← List.append_assoc, List.getLast?_append_of_ne_nil _ hne,
        List.getLast?_eq_some_getLast hne]
    have hlower := (hgroup g hg).2 (baseLetter (v.getLast hne)) (by
      rw [← hmap]
      exact List.mem_map_of_mem (List.getLast_mem hne))
    rw [(hlast _ hend).1] at hlower
    cases hlower
  · have hend : t.getLast? = some '\n' := by
      simp [htext, eq_of_beq hfeed, List.getLast?_append]
    exact (hlast _ hend).2 rfl

/-- A word of a group with the white space after it. -/
def leadingWord (group : List String) : Pattern := oneOf group ++ blanks

/-- Words of a group at the front of a text. -/
def leading (group : List String) : Pattern := start ++ some1 (leadingWord group)

theorem leadingArticles_eq : leadingArticles = leading articles := rfl

theorem takes_leadingWord_iff : (leadingWord group).Takes s t ↔
    ∃ v u, (∃ g ∈ group, Wording g.toList v) ∧ u ≠ [] ∧ (∀ c ∈ u, isBlank c = true) ∧
      v ++ u <+: s.rest ∧ t = s.past (v ++ u) := by
  constructor
  · intro h
    obtain ⟨_, ⟨v, u, hv, hu, rfl⟩, hpre, rfl⟩ :=
      ((spells_oneOf group).append spells_blanks _ _).1 h
    exact ⟨v, u, hv, hu.1, hu.2, hpre, rfl⟩
  · rintro ⟨v, u, hv, hne, hu, hpre, rfl⟩
    exact ((spells_oneOf group).append spells_blanks _ _).2
      ⟨v ++ u, ⟨v, u, hv, ⟨hne, hu⟩, rfl⟩, hpre, rfl⟩

theorem progressive_leadingWord (group : List String) : (leadingWord group).Progressive := by
  simp [leadingWord, blanks, blank]

/-- The last word of a sentence is not taken: no white space follows it. -/
theorem not_takes_leadingWord_singleton (hw : IsPlain w) (hs : s.rest = w) :
    ¬ (leadingWord group).Takes s t := by
  intro h
  obtain ⟨v, u, _, hne, hu, ⟨rest, hrest⟩, _⟩ := takes_leadingWord_iff.1 h
  obtain ⟨c, u, rfl⟩ := List.exists_cons_of_ne_nil hne
  have hc : c ∈ w := by simp [← hs, ← hrest]
  have hblank := hu c (by simp)
  rw [(hw.letter hc).blank] at hblank
  cases hblank

/-- Before another word, a word of the group is taken, with the space after it, and nothing else. -/
theorem takes_leadingWord_sentence (hgroup : SmallWords group) (hw : IsPlain w) (hne : ws ≠ [])
    (hws : ∀ v ∈ ws, IsPlain v) (hs : s.rest = sentence (w :: ws)) :
    (leadingWord group).Takes s t ↔ Among group w ∧ t = s.past (w ++ [' ']) := by
  rw [sentence_cons hne] at hs
  rw [takes_leadingWord_iff, among_iff_wording hgroup hw, hs]
  have hnot : ∀ {v : Text}, (∀ c ∈ v, isBlank c = false) → ∀ c ∈ v, (!isBlank c) = true :=
    fun h c hc => by simp [h c hc]
  constructor
  · rintro ⟨v, u, ⟨g, hg, hv⟩, hu, hblank, ⟨rest, hrest⟩, rfl⟩
    obtain ⟨d, u, rfl⟩ := List.exists_cons_of_ne_nil hu
    have hsame : v = w := by
      have hstop : (d :: u ++ rest).head?.any (fun c => !isBlank c) = false := by
        simp [hblank d (by simp)]
      rw [List.append_assoc] at hrest
      rw [← takeWhile_append_of_stop (hnot (isBlank_of_wording (hgroup g hg).2 hv)) hstop, hrest,
        takeWhile_append_of_stop (hnot fun c hc => (hw.letter hc).blank) (by simp; decide)]
    subst hsame
    have hback : d :: u ++ rest = ' ' :: sentence ws := by
      rw [List.append_assoc] at hrest
      exact List.append_cancel_left hrest
    obtain ⟨rfl, hlater⟩ := List.cons.inj hback
    have hlater : u ++ rest = sentence ws := hlater
    cases u with
    | nil => exact ⟨⟨g, hg, hv⟩, rfl⟩
    | cons c u =>
      have hc := (head?_sentence hne hws (c := c) (by simp [← hlater])).blank
      rw [hblank c (by simp)] at hc
      cases hc
  · rintro ⟨⟨g, hg, hv⟩, rfl⟩
    exact ⟨w, [' '], ⟨g, hg, hv⟩, by simp, isBlank_space, ⟨sentence ws, by simp⟩, rfl⟩

theorem run_leadingWord_last (hw : IsPlain w) (hs : s.rest = w)
    (next : Place → Option Place) : (leadingWord group).run s next = none :=
  run_eq_none_of_not_takes fun _ => not_takes_leadingWord_singleton hw hs

section round

variable (hgroup : SmallWords group) (hw : IsPlain w) (hne : ws ≠ []) (hws : ∀ v ∈ ws, IsPlain v)
  (hs : s.rest = sentence (w :: ws))
include hgroup hw hne hws hs

theorem run_leadingWord_of_among (hamong : Among group w)
    (hnext : (next (s.past (w ++ [' ']))).isSome = true) :
    (leadingWord group).run s next = next (s.past (w ++ [' '])) :=
  run_eq_of_unique (progressive_leadingWord group)
    ((takes_leadingWord_sentence hgroup hw hne hws hs).2 ⟨hamong, rfl⟩)
    (fun _ h => ((takes_leadingWord_sentence hgroup hw hne hws hs).1 h).2) hnext

theorem run_leadingWord_of_not_among (hnot : ¬ Among group w) (next : Place → Option Place) :
    (leadingWord group).run s next = none :=
  run_eq_none_of_not_takes fun _ h =>
    hnot ((takes_leadingWord_sentence hgroup hw hne hws hs).1 h).1

end round

theorem rest_past_word (hne : ws ≠ []) (hs : s.rest = sentence (w :: ws)) :
    (s.past (w ++ [' '])).rest = sentence ws := by
  simp [Place.past, hs, sentence_cons hne]

theorem rounds_eq_self {round : Place → (Place → Option Place) → Option Place}
    (h : ∀ next, round s next = none) (fuel : Text) : rounds round true some fuel s = some s := by
  cases fuel with
  | nil => rfl
  | cons c fuel => simp [rounds, h]

/-- The rounds go on as long as there is a word of the group with another behind it. -/
theorem rounds_leadingWord (hgroup : SmallWords group) (hne : ws ≠ []) (hws : ∀ v ∈ ws, IsPlain v)
    {fuel : Text} (hfuel : s.rest.length ≤ fuel.length) (hs : s.rest = sentence ws) :
    ∃ t, rounds (leadingWord group).run true some fuel s = some t ∧
      t.rest = sentence (withoutFirst group ws) := by
  induction ws generalizing s fuel with
  | nil => exact absurd rfl hne
  | cons w ws ih =>
    have hw := hws w (by simp)
    have hmore : ∀ u ∈ ws, IsPlain u := fun u hu => hws u (by simp [hu])
    cases ws with
    | nil =>
      have hlast : s.rest = w := hs.trans (sentence_singleton w)
      exact ⟨s, rounds_eq_self (run_leadingWord_last hw hlast) fuel, hs⟩
    | cons v ws =>
      rw [withoutFirst]
      by_cases hamong : Among group w
      · rw [if_pos hamong]
        have hrest := rest_past_word (by simp) hs
        have hlength := congrArg List.length (hs.trans (sentence_cons (by simp)))
        rw [List.length_append, List.length_cons] at hlength
        cases fuel with
        | nil =>
          rw [List.length_nil] at hfuel
          omega
        | cons c fuel =>
          rw [List.length_cons] at hfuel
          have hshort : (s.past (w ++ [' '])).rest.length ≤ fuel.length := by
            rw [hrest]
            omega
          obtain ⟨t, ht, hlater⟩ := ih (by simp) hmore hshort hrest
          have hround := run_leadingWord_of_among hgroup hw (by simp) hmore hs hamong
            (Option.isSome_of_eq_some ht)
          exact ⟨t, by simp [rounds, hround, ht], hlater⟩
      · rw [if_neg hamong]
        exact ⟨s, rounds_eq_self
          (run_leadingWord_of_not_among hgroup hw (by simp) hmore hs hamong) fuel, hs⟩

theorem matchFront_leading (hgroup : SmallWords group) (hne : ws ≠ []) (hws : ∀ v ∈ ws, IsPlain v) :
    (leading group).matchFront (sentence ws) = none ∧ withoutFirst group ws = ws ∨
      ∃ m, (leading group).matchFront (sentence ws) = some m ∧
        m.tail = sentence (withoutFirst group ws) := by
  have hrun : (leading group).run ⟨none, sentence ws, 0, []⟩ some =
      (leadingWord group).run ⟨none, sentence ws, 0, []⟩ fun t =>
        rounds (leadingWord group).run true some t.rest t := rfl
  have hnone : (∀ next, (leadingWord group).run ⟨none, sentence ws, 0, []⟩ next = none) →
      (leading group).matchFront (sentence ws) = none := by
    intro h
    rw [matchFront, matchAfter, hrun, h]
    rfl
  obtain ⟨w, ws, rfl⟩ := List.exists_cons_of_ne_nil hne
  have hw := hws w (by simp)
  have hmore : ∀ u ∈ ws, IsPlain u := fun u hu => hws u (by simp [hu])
  cases ws with
  | nil => exact Or.inl ⟨hnone (run_leadingWord_last hw (sentence_singleton w)), rfl⟩
  | cons v ws =>
    by_cases hamong : Among group w
    · rw [withoutFirst, if_pos hamong]
      obtain ⟨t, ht, hlater⟩ := rounds_leadingWord hgroup (by simp) hmore (le_refl _)
        (rest_past_word (s := ⟨none, sentence (w :: v :: ws), 0, []⟩) (by simp) rfl)
      have hround : ((leadingWord group).run ⟨none, sentence (w :: v :: ws), 0, []⟩ fun t =>
          rounds (leadingWord group).run true some t.rest t) = _ :=
        run_leadingWord_of_among hgroup hw (by simp) hmore rfl hamong (Option.isSome_of_eq_some ht)
      exact Or.inr ⟨_, matchAfter_of_run (hrun.trans (hround.trans ht)), hlater⟩
    · rw [withoutFirst, if_neg hamong]
      exact Or.inl ⟨hnone (run_leadingWord_of_not_among hgroup hw (by simp) hmore rfl hamong), rfl⟩

/-- Words of the group at the front of a sentence are cut off; the last word stays. -/
theorem erase_leading (hgroup : SmallWords group) (hne : ws ≠ []) (hws : ∀ v ∈ ws, IsPlain v) :
    (leading group).erase (sentence ws) = sentence (withoutFirst group ws) := by
  have hstart : (leading group).AtStart := atStart_start.append
  have hblank : (leading group).Demands isBlank :=
    demands_char.append_left.append_right.append_left.append_right
  have hsearch := hstart.search_eq_matchFront (sentence ws)
  rcases matchFront_leading hgroup hne hws with ⟨hnone, hsame⟩ | ⟨m, hm, htail⟩
  · rw [erase_eq_self (hsearch.trans hnone), hsame]
  · obtain ⟨c, hc, _⟩ := hblank.exists_mem_body (search_sound (hsearch.trans hm))
    rw [hstart.erase_eq_tail (hsearch.trans hm) (List.ne_nil_of_mem hc), htail]

end Vocabulary

namespace Utterance
open Vocabulary

/-- The words of a sentence that a mention keeps. -/
def bare (ws : List Text) : List Text :=
  withoutLast nodeWords (withoutFirst articles (withoutLast fillers ws))

theorem cleanLabel_sentence (hne : ws ≠ []) (hws : ∀ v ∈ ws, IsPlain v) :
    cleanLabel (sentence ws) = sentence ws := by
  have hend : Text.trimEndWhere isEndMark (sentence ws) = sentence ws :=
    Text.trimEndWhere_eq_self fun _ hc => (getLast?_sentence hne hws hc).endMark
  have hquote : Text.trimWhere isQuoteMark (sentence ws) = sentence ws :=
    Text.trimWhere_eq_self (fun _ hc => (head?_sentence hne hws hc).quoteMark)
      fun _ hc => (getLast?_sentence hne hws hc).quoteMark
  rw [cleanLabel, trim_sentence hne hws, hend, trim_sentence hne hws, hquote,
    trim_sentence hne hws]

/-- What a mention keeps of a sentence is a sentence. -/
theorem bare_plain (hne : ws ≠ []) (hws : ∀ v ∈ ws, IsPlain v) :
    bare ws ≠ [] ∧ ∀ v ∈ bare ws, IsPlain v := by
  refine ⟨withoutLast_ne_nil (withoutFirst_ne_nil (withoutLast_ne_nil hne)), fun v hv => hws v ?_⟩
  have hfront := (withoutLast_isPrefix nodeWords _).subset hv
  have hback := (withoutFirst_isSuffix articles _).subset hfront
  exact (withoutLast_isPrefix fillers ws).subset hback

theorem cleanFragment_sentence (hne : ws ≠ []) (hws : ∀ v ∈ ws, IsPlain v) :
    cleanFragment false (sentence ws) = sentence (bare ws) := by
  have hfiller : ∀ v ∈ withoutLast fillers ws, IsPlain v := fun v hv =>
    hws v ((withoutLast_isPrefix fillers ws).subset hv)
  have hfillerNe : withoutLast fillers ws ≠ [] := withoutLast_ne_nil hne
  have harticle : ∀ v ∈ withoutFirst articles (withoutLast fillers ws), IsPlain v := fun v hv =>
    hfiller v ((withoutFirst_isSuffix articles _).subset hv)
  obtain ⟨hbareNe, hbare⟩ := bare_plain hne hws
  simp only [cleanFragment, Bool.false_eq_true, if_false]
  rw [cleanLabel_sentence hne hws, trailingFiller_eq, erase_trailing (by decide) hne hws,
    leadingArticles_eq, erase_leading (by decide) hfillerNe hfiller, trailingNodeWord_eq,
    erase_trailing (by decide) (withoutFirst_ne_nil hfillerNe) harticle, ← bare,
    cleanLabel_sentence hbareNe hbare]

/-- There is one word only, or no article in front and no filler and no word for nodes behind. -/
def Unframed (ws : List Text) : Prop :=
  ws.length = 1 ∨ ¬ Among articles (ws.headD []) ∧ ¬ Among fillers (ws.getLastD []) ∧
    ¬ Among nodeWords (ws.getLastD [])

theorem bare_eq_self (h : Unframed ws) : bare ws = ws := by
  rcases h with hone | ⟨harticle, hfiller, hnode⟩
  · obtain ⟨w, rfl⟩ := List.length_eq_one_iff.1 hone
    simp [bare, withoutLast, withoutFirst]
  · have hlast : ∀ {group : List String}, ¬ Among group (ws.getLastD []) →
        withoutLast group ws = ws := fun hnot => if_neg fun hcut => hnot hcut.2
    have hfirst : withoutFirst articles ws = ws := by
      cases ws with
      | nil => rfl
      | cons w ws =>
        cases ws with
        | nil => rfl
        | cons v ws => exact if_neg harticle
    rw [bare, hlast hfiller, hfirst, hlast hnode]

end Utterance

end FlowTalk
