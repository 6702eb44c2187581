import FlowTalk.Pattern.Words
import FlowTalk.Proofs.Pattern.Search

/-! What a pattern does on a text of which the next characters are known. -/
namespace FlowTalk.Pattern

variable {p q : Pattern} {s t : Place} {next : Place → Option Place} {accepts : Char → Bool}
  {b : Option Char} {u rest text : Text} {k : Nat} {cs : List Captured} {m : Match} {c : Char}

theorem run_or_of_some (h : p.run s next = some t) : (p ||| q).run s next = some t := by
  simp [HOr.hOr, OrOp.or, run, h]

theorem run_or_of_none (h : p.run s next = none) : (p ||| q).run s next = q.run s next := by
  simp [HOr.hOr, OrOp.or, run, h]

theorem run_char_of_not (h : ∀ c ∈ s.rest.head?, accepts c = false) :
    (char accepts).run s next = none := by
  cases hr : s.rest with
  | nil => simp [run, hr]
  | cons c rest => simp [run, hr, h c (by simp [hr])]

theorem run_boundary (h : s.atBoundary = true) : boundary.run s next = next s := by
  simp [run, h]

/-- A repetition first takes all it can. The rest goes on from there if that succeeds. -/
theorem run_many_char (hu : ∀ c ∈ u, accepts c = true)
    (hrest : ∀ c ∈ rest.head?, accepts c = false)
    (hnext : next ⟨u.getLast?.or b, rest, k + u.length, cs⟩ = some t) :
    (many true (char accepts)).run ⟨b, u ++ rest, k, cs⟩ next = some t := by
  have hrounds : ∀ fuel : Text, u.length ≤ fuel.length →
      rounds (char accepts).run true next fuel ⟨b, u ++ rest, k, cs⟩ = some t := by
    induction u generalizing b k with
    | nil =>
      intro fuel _
      cases fuel with
      | nil => simpa [rounds] using hnext
      | cons d fuel =>
        have hstop : (char accepts).run ⟨b, rest, k, cs⟩
            (rounds (char accepts).run true next fuel) = none := run_char_of_not hrest
        simpa [rounds, hstop] using hnext
    | cons c u ih =>
      intro fuel hfuel
      cases fuel with
      | nil => simp at hfuel
      | cons d fuel =>
        have hlater := ih (b := some c) (k := k + 1) (fun x hx => hu x (by simp [hx]))
          (by simpa [List.getLast?_cons, Nat.add_comm, Nat.add_left_comm] using hnext)
          fuel (by simpa using hfuel)
        have hround : (char accepts).run ⟨b, c :: (u ++ rest), k, cs⟩
            (rounds (char accepts).run true next fuel) = some t := by
          simpa [run, hu c (by simp), Place.step] using hlater
        simp [rounds, hround]
  exact hrounds _ (by simp)

theorem run_some1_char (hu : ∀ c ∈ u, accepts c = true) (hne : u ≠ [])
    (hrest : ∀ c ∈ rest.head?, accepts c = false)
    (hnext : next ⟨u.getLast?.or b, rest, k + u.length, cs⟩ = some t) :
    (some1 (char accepts)).run ⟨b, u ++ rest, k, cs⟩ next = some t := by
  cases u with
  | nil => exact absurd rfl hne
  | cons c u =>
    have hmany : (many true (char accepts)).run ⟨some c, u ++ rest, k + 1, cs⟩ next = some t := by
      refine run_many_char (fun x hx => hu x (by simp [hx])) hrest ?_
      simpa [List.getLast?_cons, Nat.add_comm, Nat.add_left_comm] using hnext
    change (char accepts).run ⟨b, c :: (u ++ rest), k, cs⟩
      (fun t => (many true (char accepts)).run t next) = some t
    simpa [run, hu c (by simp), Place.step] using hmany

/-- A phrase without spaces takes a character for each of its letters. -/
theorem run_phrase {w : String} (hw : ' ' ∉ w.toList) : (phrase w).run ⟨b, text, k, cs⟩ next =
    if w.toList <+: text.map baseLetter then
      next ⟨(text.take w.toList.length).getLast?.or b, text.drop w.toList.length,
        k + w.toList.length, cs⟩
    else none := by
  rw [phrase]
  generalize w.toList = w at hw ⊢
  induction w generalizing b text k with
  | nil => simp [run]
  | cons c w ih =>
    obtain ⟨hc, hw⟩ := List.ne_and_not_mem_of_not_mem_cons hw
    rw [List.foldr_cons, if_neg (Ne.symm hc)]
    cases text with
    | nil =>
      rw [List.map_nil, if_neg (List.not_mem_nil <| ·.subset List.mem_cons_self)]
      rfl
    | cons x text =>
      have hlast : (x :: text.take w.length).getLast?.or b =
          (text.take w.length).getLast?.or (some x) := by
        rw [List.getLast?_cons]
        cases (text.take w.length).getLast? <;> rfl
      have hcount : k + 1 + w.length = k + (w.length + 1) := by omega
      change (if baseLetter x == c then _ else none) = _
      by_cases hx : baseLetter x = c
      · rw [if_pos (beq_iff_eq.2 hx), Place.step]
        dsimp only
        rw [ih hw, List.length_cons, List.take_succ_cons, List.map_cons, hx, hlast, hcount,
          List.drop_succ_cons]
        simp only [List.cons_prefix_cons, true_and]
      · simp [hx, Ne.symm hx]

theorem matchAfter_of_run (h : p.run ⟨b, text, 0, []⟩ some = some s) :
    p.matchAfter b text = some (Match.ofPlace text s) := by
  rw [matchAfter, h]
  rfl

theorem searchAfter_of_match (h : p.matchAfter b text = some m) :
    p.searchAfter b text = some m := by
  cases text with
  | nil => exact h
  | cons c rest => simp [searchAfter, h]

/-- Where no match begins, the search goes on after the next character. -/
theorem searchAfter_cons (h : p.matchAfter b (c :: rest) = none) :
    p.searchAfter b (c :: rest) = (p.searchAfter (some c) rest).map (Match.push c) := by
  simp [searchAfter, h]

/-- Where no match begins in the front of a text, the search goes on after it. -/
theorem searchAfter_append {front : Text}
    (h : ∀ i < front.length,
      p.matchAfter ((front.take i).getLast?.or b) (front.drop i ++ rest) = none) :
    p.searchAfter b (front ++ rest) =
      (p.searchAfter (front.getLast?.or b) rest).map
        fun m => { m with head := front ++ m.head } := by
  induction front generalizing b with
  | nil => simp
  | cons c front ih =>
    have hlater := ih (b := some c) fun i hi => by
      have hstep := h (i + 1) (by simpa using hi)
      simpa [List.getLast?_cons] using hstep
    have hfront : p.matchAfter b (c :: (front ++ rest)) = none := h 0 (by simp)
    rw [List.cons_append, searchAfter_cons hfront, hlater, Option.map_map]
    simp [List.getLast?_cons, Function.comp_def, Match.push]

theorem searchAfter_head_of_match (h : (p.matchAfter b text).isSome = true) :
    (p.searchAfter b text).map Match.head = some [] := by
  obtain ⟨m, hm⟩ := Option.isSome_iff_exists.1 h
  rw [searchAfter_of_match hm, Option.map_some, (matchAfter_sound hm).2]

/-- Two texts with a common front are cut at the same place if the pattern matches behind the
front and the rests make no difference within it. -/
theorem searchAfter_head_congr {front rest' : Text}
    (h : ∀ i < front.length,
      (p.matchAfter ((front.take i).getLast?.or b) (front.drop i ++ rest)).isSome =
        (p.matchAfter ((front.take i).getLast?.or b) (front.drop i ++ rest')).isSome)
    (hrest : (p.matchAfter (front.getLast?.or b) rest).isSome = true)
    (hrest' : (p.matchAfter (front.getLast?.or b) rest').isSome = true) :
    (p.searchAfter b (front ++ rest)).map Match.head =
      (p.searchAfter b (front ++ rest')).map Match.head := by
  induction front generalizing b with
  | nil =>
    rw [List.getLast?_nil, Option.none_or] at hrest hrest'
    rw [List.nil_append, List.nil_append, searchAfter_head_of_match hrest,
      searchAfter_head_of_match hrest']
  | cons c front ih =>
    have hfront : (p.matchAfter b (c :: (front ++ rest))).isSome =
        (p.matchAfter b (c :: (front ++ rest'))).isSome := h 0 (by simp)
    have hlater := ih (b := some c)
      (fun i hi => by simpa [List.getLast?_cons] using h (i + 1) (by simpa using hi))
      (by simpa [List.getLast?_cons] using hrest) (by simpa [List.getLast?_cons] using hrest')
    rw [List.cons_append, List.cons_append]
    cases hm : (p.matchAfter b (c :: (front ++ rest))).isSome with
    | true =>
      rw [hm] at hfront
      rw [searchAfter_head_of_match hm, searchAfter_head_of_match hfront.symm]
    | false =>
      rw [hm] at hfront
      have hnone := Option.isSome_eq_false_iff.1 hm
      have hnone' := Option.isSome_eq_false_iff.1 hfront.symm
      rw [searchAfter_cons (Option.isNone_iff_eq_none.1 hnone),
        searchAfter_cons (Option.isNone_iff_eq_none.1 hnone')]
      have hpush := congrArg (Option.map (List.cons c)) hlater
      simpa [Option.map_map, Function.comp_def, Match.push] using hpush

/-- The pattern matches only where the text goes on with a character of a class. -/
def OpensWith (accepts : Char → Bool) (p : Pattern) : Prop :=
  ∀ s t, p.Takes s t → ∃ c rest, s.rest = c :: rest ∧ accepts c = true

theorem OpensWith.run_eq_none (hp : p.OpensWith accepts)
    (h : ∀ c ∈ s.rest.head?, accepts c = false) : p.run s next = none := by
  cases hr : p.run s next with
  | none => rfl
  | some t =>
    obtain ⟨m, htakes, _⟩ := run_sound hr
    obtain ⟨c, rest, hrest, hc⟩ := hp s m htakes
    have hno := h c (by simp [hrest])
    rw [hc] at hno
    cases hno

theorem OpensWith.matchAfter_eq_none (hp : p.OpensWith accepts)
    (h : ∀ c ∈ text.head?, accepts c = false) : p.matchAfter b text = none := by
  rw [matchAfter, hp.run_eq_none h]
  rfl

theorem OpensWith.searchAfter_eq_none (hp : p.OpensWith accepts)
    (h : ∀ c ∈ text, accepts c = false) : p.searchAfter b text = none := by
  induction text generalizing b with
  | nil => exact hp.matchAfter_eq_none (by simp)
  | cons c rest ih =>
    rw [searchAfter_cons (hp.matchAfter_eq_none (by simpa using h c (by simp))),
      ih fun d hd => h d (by simp [hd])]
    rfl

/-- The search goes on behind a text without such characters. -/
theorem OpensWith.searchAfter_append {front : Text} (hp : p.OpensWith accepts)
    (h : ∀ c ∈ front, accepts c = false) :
    p.searchAfter b (front ++ rest) =
      (p.searchAfter (front.getLast?.or b) rest).map
        fun m => { m with head := front ++ m.head } := by
  refine Pattern.searchAfter_append fun i hi => hp.matchAfter_eq_none ?_
  rw [List.drop_eq_getElem_cons hi, List.cons_append, List.head?_cons]
  rintro c ⟨⟩
  exact h _ (List.getElem_mem hi)

theorem opensWith_char {class' : Char → Bool} (h : ∀ c, class' c = true → accepts c = true) :
    (char class').OpensWith accepts := by
  rintro s t ⟨c, rest, hr, hc, rfl⟩
  exact ⟨c, rest, hr, h c hc⟩

theorem OpensWith.append (hp : p.OpensWith accepts) : (p ++ q).OpensWith accepts := by
  rintro s t ⟨m, hm, _⟩
  exact hp s m hm

/-- Tests that take nothing leave the opening to what follows. -/
theorem OpensWith.of_test (hp : ∀ s t, p.Takes s t → t = s) (hq : q.OpensWith accepts) :
    (p ++ q).OpensWith accepts := by
  rintro s t ⟨m, hm, hmt⟩
  obtain rfl := hp s m hm
  exact hq m t hmt

theorem takes_boundary (s t : Place) (h : boundary.Takes s t) : t = s := h.2

theorem takes_notAfterWord (s t : Place) (h : notAfterWord.Takes s t) : t = s := h.2

theorem OpensWith.or (hp : p.OpensWith accepts) (hq : q.OpensWith accepts) :
    (p ||| q).OpensWith accepts := by
  rintro s t (h | h)
  · exact hp s t h
  · exact hq s t h

/-- A phrase opens with its first letter, in either case. -/
theorem opensWith_phrase {w : String} (hc : w.toList.head? = some c) (hblank : c ≠ ' ')
    (h : ∀ x, baseLetter x = c → accepts x = true) : (phrase w).OpensWith accepts := by
  rw [phrase]
  cases hw : w.toList with
  | nil => simp [hw] at hc
  | cons d ds =>
    obtain rfl : d = c := by simpa [hw] using hc
    simp only [List.foldr_cons, if_neg hblank]
    exact (opensWith_char fun x hx => h x (by simpa using hx)).append

theorem opensWith_oneOf {ws : List String} (h : ∀ w ∈ ws, (phrase w).OpensWith accepts) :
    (oneOf ws).OpensWith accepts := by
  rw [oneOf, choice]
  induction ws with
  | nil =>
    rintro s t ⟨c, rest, _, hnever, _⟩
    cases hnever
  | cons w ws ih => exact (h w (by simp)).or (ih fun w' hw' => h w' (by simp [hw']))

end FlowTalk.Pattern
