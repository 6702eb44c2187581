import FlowTalk.Pattern.Search
import FlowTalk.Proofs.Pattern.Takes

/-! A match that a search finds is a way of the pattern through a piece of the text. -/
namespace FlowTalk

variable {p : Pattern} {b : Option Char} {t new : Text} {m : Match}

/-- The match is one of the pattern, in a text that follows the character `b`. -/
structure Match.Of (p : Pattern) (b : Option Char) (t : Text) (m : Match) : Prop where
  text : t = m.head ++ (m.body ++ m.tail)
  takes : ∃ s, p.Takes ⟨m.head.getLast?.or b, m.body ++ m.tail, 0, []⟩ s ∧
    s.rest = m.tail ∧ s.captures = m.captures

namespace Match.Of

theorem push {c : Char} (h : m.Of p (some c) t) : (m.push c).Of p b (c :: t) := by
  refine ⟨by simp [Match.push, h.text], ?_⟩
  have hbefore : (c :: m.head).getLast?.or b = m.head.getLast?.or (some c) := by
    cases hlast : m.head.getLast? <;> simp [List.getLast?_cons, hlast]
  simpa [Match.push, hbefore] using h.takes

theorem advances (h : m.Of p b t) :
    ∃ s, p.Takes ⟨m.head.getLast?.or b, m.body ++ m.tail, 0, []⟩ s ∧
      Place.Advances ⟨m.head.getLast?.or b, m.body ++ m.tail, 0, []⟩ m.body s ∧
      s.captures = m.captures := by
  obtain ⟨s, htakes, hrest, hcaptures⟩ := h.takes
  obtain ⟨u, hu⟩ := htakes.advances
  have hbody : m.body = u := List.append_cancel_right (hu.rest.trans (by rw [hrest]))
  exact ⟨s, htakes, hbody ▸ hu, hcaptures⟩

theorem piece?_eq_some {slot : Nat} {w : Text} (h : m.piece? slot = some w) :
    ∃ c ∈ m.captures, c.piece = w := by
  obtain ⟨c, hc, rfl⟩ := Option.map_eq_some_iff.1 h
  exact ⟨c, List.mem_of_find?_eq_some hc, rfl⟩

theorem piece_isInfix_body (h : m.Of p b t) (slot : Nat) : m.piece slot <:+: m.body := by
  rw [Match.piece]
  cases hw : m.piece? slot with
  | none => exact List.nil_infix
  | some w =>
    obtain ⟨c, hc, rfl⟩ := piece?_eq_some hw
    obtain ⟨s, _, hadv, hcaptures⟩ := h.advances
    have hold := hadv.captured c (hcaptures ▸ hc)
    simpa using hold

theorem body_isInfix (h : m.Of p b t) : m.body <:+: t :=
  ⟨m.head, m.tail, by rw [h.text, List.append_assoc]⟩

theorem piece_isInfix (h : m.Of p b t) (slot : Nat) : m.piece slot <:+: t :=
  (h.piece_isInfix_body slot).trans h.body_isInfix

theorem tail_isSuffix (h : m.Of p b t) : m.tail <:+ t :=
  ⟨m.head ++ m.body, by rw [h.text, List.append_assoc]⟩

theorem head_isPrefix (h : m.Of p b t) : m.head <+: t := ⟨m.body ++ m.tail, h.text.symm⟩

theorem piece_of {P : Text → Prop} (h : m.Of p b t) (hp : p.CapturesOnly P) (hnil : P [])
    (slot : Nat) : P (m.piece slot) := by
  rw [Match.piece]
  cases hw : m.piece? slot with
  | none => exact hnil
  | some w =>
    obtain ⟨c, hc, rfl⟩ := piece?_eq_some hw
    obtain ⟨s, htakes, _, hcaptures⟩ := h.takes
    exact htakes.captures hp (by simp) c (hcaptures ▸ hc)

end Match.Of

namespace Pattern

theorem matchAfter_sound (h : p.matchAfter b t = some m) : m.Of p b t ∧ m.head = [] := by
  obtain ⟨s, hs, rfl⟩ := Option.map_eq_some_iff.1 h
  obtain ⟨s', htakes, hlast⟩ := run_sound hs
  obtain rfl := Option.some.inj hlast
  obtain ⟨u, hu⟩ := htakes.advances
  have htext : t = u ++ s'.rest := hu.rest
  have hbody : t.take s'.taken = u := by simpa using hu.take_eq
  refine ⟨⟨?_, s', ?_, rfl, rfl⟩, rfl⟩
  · simpa [Match.ofPlace, hbody] using htext
  · simpa [Match.ofPlace, hbody, ← htext] using htakes

theorem matchFront_sound (h : p.matchFront t = some m) : m.Of p none t :=
  (matchAfter_sound h).1

theorem searchAfter_sound (h : p.searchAfter b t = some m) : m.Of p b t := by
  induction t generalizing b m with
  | nil => exact (matchAfter_sound h).1
  | cons c rest ih =>
    cases hfront : p.matchAfter b (c :: rest) with
    | some m' =>
      obtain rfl : m' = m := by simpa [searchAfter, hfront] using h
      exact (matchAfter_sound hfront).1
    | none =>
      have hlater : (p.searchAfter (some c) rest).map (Match.push c) = some m := by
        simpa [searchAfter, hfront] using h
      obtain ⟨m', hm', rfl⟩ := Option.map_eq_some_iff.1 hlater
      exact (ih hm').push

theorem search_sound (h : p.search t = some m) : m.Of p none t := searchAfter_sound h

theorem matchesAfter_of_none (h : p.searchAfter b t = none) (fuel : Text) :
    p.matchesAfter fuel b t = [] := by
  cases fuel with
  | nil => rfl
  | cons c fuel => simp [matchesAfter, h]

theorem matchesAfter_of_some (h : p.searchAfter b t = some m) (hbody : m.body ≠ []) (c : Char)
    (fuel : Text) :
    p.matchesAfter (c :: fuel) b t = m :: p.matchesAfter fuel m.body.getLast? m.tail := by
  simp [matchesAfter, h, hbody]

theorem piece_isInfix_of_mem_matchesAfter {fuel : Text} (h : m ∈ p.matchesAfter fuel b t)
    (slot : Nat) : m.piece slot <:+: t := by
  induction fuel generalizing b t with
  | nil => cases h
  | cons c fuel ih =>
    cases hs : p.searchAfter b t with
    | none =>
      rw [matchesAfter_of_none hs] at h
      cases h
    | some found =>
      have hfound := searchAfter_sound hs
      by_cases hbody : found.body = []
      · simp [matchesAfter, hs, hbody] at h
      · rw [matchesAfter_of_some hs hbody] at h
        rcases List.mem_cons.1 h with rfl | h
        · exact hfound.piece_isInfix slot
        · exact (ih h).trans hfound.tail_isSuffix.isInfix

theorem replaceAfter_of_none (h : p.searchAfter b t = none) (fuel : Text) :
    p.replaceAfter new fuel b t = t := by
  cases fuel with
  | nil => rfl
  | cons c fuel => simp [replaceAfter, h]

theorem replaceAfter_of_some (h : p.searchAfter b t = some m) (hbody : m.body ≠ []) (c : Char)
    (fuel : Text) : p.replaceAfter new (c :: fuel) b t =
      m.head ++ new ++ p.replaceAfter new fuel m.body.getLast? m.tail := by
  simp [replaceAfter, h, hbody]

theorem allMatches_eq_nil (h : p.search t = none) : p.allMatches t = [] :=
  matchesAfter_of_none h t

theorem erase_eq_self (h : p.search t = none) : p.erase t = t := replaceAfter_of_none h t

theorem erase_of_empty (h : p.search t = some m) (hbody : m.body = []) : p.erase t = t := by
  change p.searchAfter none t = some m at h
  cases t with
  | nil => rfl
  | cons c rest => simp [erase, replace, replaceAfter, h, hbody]

theorem erase_of_search (h : p.search t = some m) (hbody : m.body ≠ []) :
    ∃ fuel, p.erase t = m.head ++ p.replaceAfter [] fuel m.body.getLast? m.tail := by
  change p.searchAfter none t = some m at h
  cases t with
  | nil =>
    have htext := (searchAfter_sound h).text
    simp only [List.nil_eq, List.append_eq_nil_iff] at htext
    exact absurd htext.2.1 hbody
  | cons c rest =>
    refine ⟨rest, ?_⟩
    rw [erase, replace, replaceAfter_of_some h hbody, List.append_nil]

/-- A pattern for the front of a text matches nowhere after a character. -/
theorem AtStart.searchAfter_eq_none (hp : p.AtStart) (c : Char) (t : Text) :
    p.searchAfter (some c) t = none := by
  cases hs : p.searchAfter (some c) t with
  | none => rfl
  | some m =>
    obtain ⟨s, htakes, _⟩ := (searchAfter_sound hs).takes
    have hbefore := hp _ _ htakes
    cases hlast : m.head.getLast? <;> simp [hlast] at hbefore

theorem AtStart.search_eq_matchFront (hp : p.AtStart) (t : Text) :
    p.search t = p.matchFront t := by
  rw [search, matchFront]
  cases t with
  | nil => rfl
  | cons c rest =>
    rw [searchAfter, hp.searchAfter_eq_none]
    cases p.matchAfter none (c :: rest) with
    | none => rfl
    | some m => rfl

theorem AtStart.replaceAfter_eq_self (hp : p.AtStart) (fuel : Text) (c : Char) (t : Text) :
    p.replaceAfter new fuel (some c) t = t :=
  replaceAfter_of_none (hp.searchAfter_eq_none c t) fuel

theorem AtStart.erase_eq_tail (hp : p.AtStart) (h : p.search t = some m) (hbody : m.body ≠ []) :
    p.erase t = m.tail := by
  obtain ⟨s, htakes, _⟩ := (search_sound h).takes
  have hhead : m.head = [] := by simpa using hp _ _ htakes
  obtain ⟨fuel, herase⟩ := erase_of_search h hbody
  rw [herase, hhead, List.nil_append, List.getLast?_eq_some_getLast hbody,
    hp.replaceAfter_eq_self]

theorem AtStart.erase_isSuffix (hp : p.AtStart) (t : Text) : p.erase t <:+ t := by
  cases hs : p.search t with
  | none => simp [erase_eq_self hs]
  | some m =>
    by_cases hbody : m.body = []
    · simp [erase_of_empty hs hbody]
    · rw [hp.erase_eq_tail hs hbody]
      exact (search_sound hs).tail_isSuffix

theorem replaceAfter_nil_sublist (p : Pattern) (fuel : Text) (b : Option Char) (t : Text) :
    (p.replaceAfter [] fuel b t).Sublist t := by
  induction fuel generalizing b t with
  | nil => exact List.Sublist.refl t
  | cons c fuel ih =>
    cases hs : p.searchAfter b t with
    | none => simp [replaceAfter, hs]
    | some m =>
      by_cases hbody : m.body.isEmpty = true
      · simp [replaceAfter, hs, hbody]
      · have hm := searchAfter_sound hs
        have htail : (p.replaceAfter [] fuel m.body.getLast? m.tail).Sublist (m.body ++ m.tail) :=
          (ih _ m.tail).trans (List.sublist_append_right _ _)
        have hout : p.replaceAfter [] (c :: fuel) b t =
            m.head ++ p.replaceAfter [] fuel m.body.getLast? m.tail := by
          simp [replaceAfter, hs, hbody]
        rw [hout]
        have hwhole := htail.append_left m.head
        rwa [← hm.text] at hwhole

/-- Erasing at the end of a text leaves its front, and perhaps the line feed that ends it. -/
theorem AtFinish.erase_eq (hp : p.AtFinish) (t : Text) :
    ∃ front rest, p.erase t = front ++ rest ∧ front <+: t ∧ ∀ c ∈ rest, c = '\n' := by
  have hself : ∃ front rest, t = front ++ rest ∧ front <+: t ∧ ∀ c ∈ rest, c = '\n' :=
    ⟨t, [], by simp, List.prefix_refl t, by simp⟩
  cases hs : p.search t with
  | none => rwa [erase_eq_self hs]
  | some m =>
    by_cases hbody : m.body = []
    · rwa [erase_of_empty hs hbody]
    · have hm := search_sound hs
      obtain ⟨s, htakes, hrest, _⟩ := hm.takes
      have hfinish : m.tail = [] ∨ m.tail = ['\n'] := by
        simpa [Place.atFinish, hrest] using hp _ _ htakes
      obtain ⟨fuel, herase⟩ := erase_of_search hs hbody
      refine ⟨m.head, _, herase, hm.head_isPrefix, ?_⟩
      intro d hd
      have hd := (replaceAfter_nil_sublist p _ _ _).subset hd
      rcases hfinish with htail | htail
      · simp [htail] at hd
      · simpa [htail] using hd

/-- A match that ends the text is cut off. -/
theorem erase_eq_head (h : p.search t = some m) (hbody : m.body ≠ []) (htail : m.tail = []) :
    p.erase t = m.head := by
  obtain ⟨fuel, herase⟩ := erase_of_search h hbody
  rw [herase, htail, List.sublist_nil.1 (replaceAfter_nil_sublist p _ _ _), List.append_nil]

theorem AtFinish.erase_isPrefix (hp : p.AtFinish) (hlast : ∀ c ∈ t.getLast?, c ≠ '\n') :
    p.erase t <+: t := by
  cases hs : p.search t with
  | none => simp [erase_eq_self hs]
  | some m =>
    by_cases hbody : m.body = []
    · simp [erase_of_empty hs hbody]
    · have hm := search_sound hs
      obtain ⟨s, htakes, hrest, _⟩ := hm.takes
      have hfinish : m.tail = [] ∨ m.tail = ['\n'] := by
        simpa [Place.atFinish, hrest] using hp _ _ htakes
      rcases hfinish with htail | htail
      · rw [erase_eq_head hs hbody htail]
        exact hm.head_isPrefix
      · have htext : t = m.head ++ m.body ++ ['\n'] := by
          rw [← htail, List.append_assoc]
          exact hm.text
        exact absurd rfl (hlast '\n' (by rw [htext, List.getLast?_concat]; rfl))

end Pattern

end FlowTalk
