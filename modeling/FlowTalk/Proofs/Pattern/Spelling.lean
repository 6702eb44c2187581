import FlowTalk.Proofs.Pattern.Complete
import FlowTalk.Proofs.Pattern.Words

/-! What a phrase matches, told without the pattern for it. -/
namespace FlowTalk

/-- A text spells a phrase: each letter stands in either case, and for a space there is white space
of any length. -/
inductive Wording : List Char → Text → Prop
  | nil : Wording [] []
  | letter {c x : Char} {w u : List Char} : c ≠ ' ' → Pattern.baseLetter x = c → Wording w u →
      Wording (c :: w) (x :: u)
  | space {w u v : List Char} : u ≠ [] → (∀ x ∈ u, isBlank x = true) → Wording w v →
      Wording (' ' :: w) (u ++ v)

variable {p q : Pattern} {s t : Place} {accepts : Char → Bool} {greedy : Bool} {u : Text}
  {w : String} {ws : List String}

namespace Pattern

theorem prefix_past {u v : Text} : u ++ v <+: s.rest ↔ u <+: s.rest ∧ v <+: (s.past u).rest := by
  constructor
  · rintro ⟨rest, hrest⟩
    exact ⟨⟨v ++ rest, by simp [← hrest]⟩, ⟨rest, by simp [Place.past, ← hrest]⟩⟩
  · rintro ⟨⟨rest, hrest⟩, hv⟩
    rw [← hrest]
    simpa [Place.past, ← hrest] using hv

theorem takes_char_iff : (char accepts).Takes s t ↔
    ∃ c, accepts c = true ∧ [c] <+: s.rest ∧ t = s.past [c] := by
  constructor
  · rintro ⟨c, rest, hr, hc, rfl⟩
    exact ⟨c, hc, ⟨rest, hr.symm⟩, Place.step_eq_past hr⟩
  · rintro ⟨c, hc, ⟨rest, hr⟩, rfl⟩
    exact ⟨c, rest, hr.symm, hc, (Place.step_eq_past hr.symm).symm⟩

/-- The rounds of a test and a character take a text such that the test holds before each of its
characters. -/
theorem takes_many_guarded {R : Place → Place → Prop} {G : Place → Char → Prop}
    (hR : ∀ s t, R s t ↔ ∃ c, G s c ∧ [c] <+: s.rest ∧ t = s.past [c]) :
    Relation.ReflTransGen R s t ↔ ∃ u, u <+: s.rest ∧ t = s.past u ∧
      ∀ i (h : i < u.length), G (s.past (u.take i)) u[i] := by
  constructor
  · intro h
    induction h with
    | refl => exact ⟨[], List.nil_prefix, rfl, by simp⟩
    | tail _ hstep ih =>
      obtain ⟨u, ⟨rest, hu⟩, rfl, hguard⟩ := ih
      obtain ⟨c, hc, ⟨rest', hr⟩, rfl⟩ := (hR _ _).1 hstep
      have hrest : rest = c :: rest' := by
        have hdrop : (s.past u).rest = rest := by simp [Place.past, ← hu]
        rw [← hdrop, ← hr]
        rfl
      refine ⟨u ++ [c], ⟨rest', by simp [← hu, hrest]⟩, Place.past_past s u [c], ?_⟩
      intro i hi
      rcases Nat.lt_or_ge i u.length with hlt | hge
      · rw [List.getElem_append_left hlt, List.take_append_of_le_length (by omega)]
        exact hguard i hlt
      · obtain rfl : i = u.length := by
          simp only [List.length_append, List.length_singleton] at hi
          omega
        simpa using hc
  · rintro ⟨u, hu, rfl, hguard⟩
    induction u generalizing s with
    | nil => exact .refl
    | cons c u ih =>
      obtain ⟨rest, hr⟩ := hu
      have hfirst : R s (s.past [c]) :=
        (hR _ _).2 ⟨c, hguard 0 (by simp), ⟨u ++ rest, hr⟩, rfl⟩
      have hlater := ih (s := s.past [c]) ⟨rest, by simp [Place.past, ← hr]⟩ fun i hi => by
        have hnext := hguard (i + 1) (by simpa using hi)
        rw [Place.past_past]
        simpa using hnext
      rw [Place.past_past] at hlater
      exact .head hfirst hlater

theorem takes_many_char_iff : (many greedy (char accepts)).Takes s t ↔
    ∃ u, (∀ c ∈ u, accepts c = true) ∧ u <+: s.rest ∧ t = s.past u := by
  have hrounds : (many greedy (char accepts)).Takes s t ↔ _ :=
    takes_many_guarded (G := fun _ c => accepts c = true) fun _ _ => takes_char_iff
  rw [hrounds]
  constructor
  · rintro ⟨u, hu, ht, hall⟩
    refine ⟨u, fun c hc => ?_, hu, ht⟩
    obtain ⟨i, hi, rfl⟩ := List.mem_iff_getElem.1 hc
    exact hall i hi
  · rintro ⟨u, hall, hu, ht⟩
    exact ⟨u, hu, ht, fun i hi => hall _ (List.getElem_mem hi)⟩

/-- A repetition of any character that does not begin a match stops at the first one or before. -/
theorem takes_many_notAhead_iff : (many greedy (notAhead q ++ anything)).Takes s t ↔
    ∃ u, u <+: s.rest ∧ t = s.past u ∧ ∀ i < u.length, q.run (s.past (u.take i)) some = none := by
  have hround : ∀ s t, (notAhead q ++ anything).Takes s t ↔
      ∃ c, q.run s some = none ∧ [c] <+: s.rest ∧ t = s.past [c] := by
    intro s t
    constructor
    · rintro ⟨m, ⟨hnone, rfl⟩, hm⟩
      obtain ⟨c, _, hc, rfl⟩ := takes_char_iff.1 hm
      exact ⟨c, hnone, hc, rfl⟩
    · rintro ⟨c, hnone, hc, rfl⟩
      exact ⟨s, ⟨hnone, rfl⟩, takes_char_iff.2 ⟨c, rfl, hc, rfl⟩⟩
  exact takes_many_guarded (G := fun s _ => q.run s some = none) hround

theorem takes_append_iff : (p ++ q).Takes s t ↔ ∃ m, p.Takes s m ∧ q.Takes m t := Iff.rfl

theorem takes_char_many_iff : (char accepts ++ many greedy (char accepts)).Takes s t ↔
    ∃ u, u ≠ [] ∧ (∀ c ∈ u, accepts c = true) ∧ u <+: s.rest ∧ t = s.past u := by
  constructor
  · rintro ⟨m, hm, hmore⟩
    obtain ⟨c, hc, hfirst, rfl⟩ := takes_char_iff.1 hm
    obtain ⟨u, hu, hrest, rfl⟩ := takes_many_char_iff.1 hmore
    exact ⟨c :: u, by simp, List.forall_mem_cons.2 ⟨hc, hu⟩, prefix_past.2 ⟨hfirst, hrest⟩,
      Place.past_past s [c] u⟩
  · rintro ⟨u, hne, hu, hpre, rfl⟩
    obtain ⟨c, u, rfl⟩ := List.exists_cons_of_ne_nil hne
    obtain ⟨hc, hu⟩ := List.forall_mem_cons.1 hu
    obtain ⟨hfirst, hrest⟩ := prefix_past.1 (List.singleton_append ▸ hpre)
    exact ⟨s.past [c], takes_char_iff.2 ⟨c, hc, hfirst, rfl⟩,
      takes_many_char_iff.2 ⟨u, hu, hrest, (Place.past_past s [c] u).symm⟩⟩

theorem takes_some1_char_iff : (some1 (char accepts)).Takes s t ↔
    ∃ u, u ≠ [] ∧ (∀ c ∈ u, accepts c = true) ∧ u <+: s.rest ∧ t = s.past u :=
  takes_char_many_iff

/-- A phrase takes the texts that spell it. -/
theorem takes_phrase_iff : (phrase w).Takes s t ↔
    ∃ u, Wording w.toList u ∧ u <+: s.rest ∧ t = s.past u := by
  rw [phrase]
  induction w.toList generalizing s with
  | nil =>
    constructor
    · rintro rfl
      exact ⟨[], .nil, List.nil_prefix, rfl⟩
    · rintro ⟨u, hu, _, rfl⟩
      cases hu
      rfl
  | cons c w ih =>
    rw [List.foldr_cons, takes_append_iff]
    constructor
    · rintro ⟨m, hm, hmore⟩
      obtain ⟨v, hv, hrest, rfl⟩ := ih.1 hmore
      by_cases hc : c = ' '
      · rw [if_pos hc] at hm
        obtain ⟨u, hne, hu, hfirst, rfl⟩ := takes_some1_char_iff.1 hm
        subst hc
        exact ⟨u ++ v, .space hne hu hv, prefix_past.2 ⟨hfirst, hrest⟩, Place.past_past s u v⟩
      · rw [if_neg hc] at hm
        obtain ⟨x, hx, hfirst, rfl⟩ := takes_char_iff.1 hm
        exact ⟨x :: v, .letter hc (by simpa using hx) hv, prefix_past.2 ⟨hfirst, hrest⟩,
          Place.past_past s [x] v⟩
    · rintro ⟨_, hspell, hpre, rfl⟩
      cases hspell with
      | @letter _ x _ v hc hx hv =>
        obtain ⟨hfirst, hrest⟩ := prefix_past.1 (List.singleton_append ▸ hpre)
        refine ⟨s.past [x], ?_, ih.2 ⟨v, hv, hrest, (Place.past_past s [x] v).symm⟩⟩
        rw [if_neg hc]
        exact takes_char_iff.2 ⟨x, by simpa using hx, hfirst, rfl⟩
      | @space _ u v hne hu hv =>
        obtain ⟨hfirst, hrest⟩ := prefix_past.1 hpre
        refine ⟨s.past u, ?_, ih.2 ⟨v, hv, hrest, (Place.past_past s u v).symm⟩⟩
        rw [if_pos rfl]
        exact takes_some1_char_iff.2 ⟨u, hne, hu, hfirst, rfl⟩

theorem takes_oneOf_iff : (oneOf ws).Takes s t ↔ ∃ w ∈ ws, (phrase w).Takes s t := by
  rw [oneOf, choice]
  induction ws with
  | nil =>
    constructor
    · rintro ⟨_, _, _, hnever, _⟩
      cases hnever
    · rintro ⟨_, hw, _⟩
      cases hw
  | cons w ws ih =>
    have hor : (List.foldr (· ||| ·) never ((w :: ws).map phrase)).Takes s t ↔
        (phrase w).Takes s t ∨ (List.foldr (· ||| ·) never (ws.map phrase)).Takes s t := Iff.rfl
    rw [hor, ih]
    simp

/-- The pattern takes the texts of a kind, wherever they stand. -/
def Spells (p : Pattern) (Kind : Text → Prop) : Prop :=
  ∀ s t, p.Takes s t ↔ ∃ u, Kind u ∧ u <+: s.rest ∧ t = s.past u

variable {Kind Kind' : Text → Prop}

theorem spells_blanks : blanks.Spells fun u => u ≠ [] ∧ ∀ c ∈ u, isBlank c = true := fun s t => by
  have hblanks : blanks.Takes s t ↔ _ := takes_some1_char_iff
  simp only [hblanks, and_assoc]

theorem isBlank_space : ∀ c ∈ [' '], isBlank c = true := List.forall_mem_singleton.2 (by decide)

theorem spells_phrase (w : String) : (phrase w).Spells (Wording w.toList) :=
  fun _ _ => takes_phrase_iff

theorem spells_oneOf (ws : List String) :
    (oneOf ws).Spells fun u => ∃ w ∈ ws, Wording w.toList u := fun s t => by
  rw [takes_oneOf_iff]
  simp only [takes_phrase_iff]
  constructor
  · rintro ⟨w, hw, u, hu, hpre, rfl⟩
    exact ⟨u, ⟨w, hw, hu⟩, hpre, rfl⟩
  · rintro ⟨u, ⟨w, hw, hu⟩, hpre, rfl⟩
    exact ⟨w, hw, u, hu, hpre, rfl⟩

theorem spells_nothing : nothing.Spells (· = []) := fun s t => by
  constructor
  · rintro rfl
    exact ⟨[], rfl, List.nil_prefix, rfl⟩
  · rintro ⟨_, rfl, _, rfl⟩
    rfl

theorem Spells.congr (hp : p.Spells Kind) (h : ∀ u, Kind u ↔ Kind' u) : p.Spells Kind' :=
  fun s t => (hp s t).trans (exists_congr fun u => by rw [h u])

theorem Spells.append (hp : p.Spells Kind) (hq : q.Spells Kind') :
    (p ++ q).Spells fun u => ∃ v w, Kind v ∧ Kind' w ∧ u = v ++ w := fun s t => by
  rw [takes_append_iff]
  constructor
  · rintro ⟨m, hm, hmt⟩
    obtain ⟨v, hv, hvs, rfl⟩ := (hp _ _).1 hm
    obtain ⟨w, hw, hws, rfl⟩ := (hq _ _).1 hmt
    exact ⟨v ++ w, ⟨v, w, hv, hw, rfl⟩, prefix_past.2 ⟨hvs, hws⟩, Place.past_past s v w⟩
  · rintro ⟨_, ⟨v, w, hv, hw, rfl⟩, hpre, rfl⟩
    obtain ⟨hvs, hws⟩ := prefix_past.1 hpre
    exact ⟨s.past v, (hp _ _).2 ⟨v, hv, hvs, rfl⟩,
      (hq _ _).2 ⟨w, hw, hws, (Place.past_past s v w).symm⟩⟩

theorem Spells.or (hp : p.Spells Kind) (hq : q.Spells Kind') :
    (p ||| q).Spells fun u => Kind u ∨ Kind' u := fun s t => by
  have hor : (p ||| q).Takes s t ↔ p.Takes s t ∨ q.Takes s t := Iff.rfl
  rw [hor, hp, hq, ← exists_or]
  refine exists_congr fun u => ?_
  rw [or_and_right]

end Pattern

end FlowTalk
