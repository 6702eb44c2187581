import FlowTalk.Pattern.Search
import FlowTalk.Pattern.Words
import FlowTalk.Proofs.Text.LetterCase

/-! A pattern that does not see the case of letters matches a text and its small letters alike. -/
namespace FlowTalk

variable {p q : Pattern} {accepts : Char → Bool} {b : Option Char} {t : Text}

def Captured.small (c : Captured) : Captured := { c with rest := FlowTalk.small c.rest }

def Place.small (s : Place) : Place :=
  ⟨s.before.map Char.toLower, FlowTalk.small s.rest, s.taken, s.captures.map Captured.small⟩

def Match.small (m : Match) : Match :=
  ⟨FlowTalk.small m.head, FlowTalk.small m.body, FlowTalk.small m.tail,
    m.captures.map Captured.small⟩

theorem Captured.piece_small (c : Captured) : c.small.piece = FlowTalk.small c.piece :=
  (small_take c.length c.rest).symm

namespace Place

@[simp]
theorem afterWord_small (s : Place) : s.small.afterWord = s.afterWord :=
  any_map_toLower ignoresCase_isWord s.before

@[simp]
theorem beforeWord_small (s : Place) : s.small.beforeWord = s.beforeWord := by
  rw [beforeWord, small, head?_small, any_map_toLower ignoresCase_isWord, beforeWord]

@[simp]
theorem atBoundary_small (s : Place) : s.small.atBoundary = s.atBoundary := by
  simp [atBoundary]

@[simp]
theorem atFinish_small (s : Place) : s.small.atFinish = s.atFinish := by
  have hline : ∀ c : Char, c.toLower = '\n' ↔ c = '\n' := fun c => toLower_eq_iff (by decide)
  have hlast : FlowTalk.small s.rest = ['\n'] ↔ s.rest = ['\n'] := by
    rcases s.rest with _ | ⟨c, _ | ⟨d, rest⟩⟩ <;> simp [hline]
  rw [Bool.eq_iff_iff]
  simp [atFinish, small, hlast]

end Place

namespace Match

theorem ofPlace_small (t : Text) (s : Place) :
    ofPlace (FlowTalk.small t) s.small = (ofPlace t s).small := by
  simp [ofPlace, small, Place.small, small_take]

theorem piece_small (m : Match) (slot : Nat) :
    m.small.piece slot = FlowTalk.small (m.piece slot) := by
  have hsame : (fun c : Captured => c.slot == slot) ∘ Captured.small = fun c => c.slot == slot := rfl
  rw [piece, piece?, small, List.find?_map, hsame, piece, piece?]
  cases m.captures.find? fun c => c.slot == slot with
  | none => rfl
  | some c => exact c.piece_small

end Match

namespace Pattern

/-- Whatever a pattern accepts, it accepts in the other case. -/
def IgnoresCase : Pattern → Prop
  | .nothing | .notAfterWord | .boundary | .start | .finish => True
  | .char accepts => FlowTalk.IgnoresCase accepts
  | .seq first second | .either first second => first.IgnoresCase ∧ second.IgnoresCase
  | .many _ body | .notAhead body | .capture _ body => body.IgnoresCase

/-- Rounds that lead to the same places up to case. -/
theorem rounds_small {round : Place → (Place → Option Place) → Option Place}
    {next next' : Place → Option Place} {greedy : Bool}
    (hround : ∀ {k k' : Place → Option Place}, (∀ s, k' s.small = (k s).map Place.small) →
      ∀ s : Place, round s.small k' = (round s k).map Place.small)
    (hnext : ∀ s, next' s.small = (next s).map Place.small) (fuel : Text) (s : Place) :
    rounds round greedy next' (small fuel) s.small =
      (rounds round greedy next fuel s).map Place.small := by
  induction fuel generalizing s with
  | nil => exact hnext s
  | cons c fuel ih =>
    have hone := hround ih s
    rw [small_cons, rounds, rounds, hone, hnext]
    cases greedy with
    | true => cases round s (rounds round true next fuel) <;> rfl
    | false => cases next s <;> rfl

theorem run_small (hp : p.IgnoresCase) {next next' : Place → Option Place}
    (hnext : ∀ s, next' s.small = (next s).map Place.small) (s : Place) :
    p.run s.small next' = (p.run s next).map Place.small := by
  induction p generalizing s next next' with
  | nothing => exact hnext s
  | char accepts =>
    have haccepts : ∀ c : Char, accepts c.toLower = accepts c := hp
    cases hr : s.rest with
    | nil => simp [run, Place.small, hr]
    | cons c rest =>
      have hstep := hnext (s.step c rest)
      by_cases hc : accepts c = true
      · simpa [run, Place.small, Place.step, hr, haccepts, hc] using hstep
      · simp [run, Place.small, hr, haccepts, hc]
  | seq first second ih₁ ih₂ => exact ih₁ hp.1 (fun m => ih₂ hp.2 hnext m) s
  | either first second ih₁ ih₂ =>
    rw [run, run, ih₁ hp.1 hnext, ih₂ hp.2 hnext]
    cases first.run s next <;> rfl
  | many greedy body ih => exact rounds_small (ih hp) hnext s.rest s
  | notAhead body ih =>
    have hbody : body.run s.small some = (body.run s some).map Place.small :=
      ih hp (fun _ => rfl) s
    rw [run, run, hbody, hnext]
    cases body.run s some <;> rfl
  | notAfterWord =>
    rw [run, run, Place.afterWord_small, hnext]
    split <;> rfl
  | boundary =>
    rw [run, run, Place.atBoundary_small, hnext]
    split <;> rfl
  | start =>
    have hfront : s.small.before.isNone = s.before.isNone := Option.isNone_map
    rw [run, run, hfront, hnext]
    split <;> rfl
  | finish =>
    rw [run, run, Place.atFinish_small, hnext]
    split <;> rfl
  | capture slot body ih =>
    exact ih hp (fun m => hnext (Place.record slot s m)) s

theorem matchAfter_small (hp : p.IgnoresCase) (b : Option Char) (t : Text) :
    p.matchAfter (b.map Char.toLower) (small t) = (p.matchAfter b t).map Match.small := by
  have hrun : p.run (Place.small ⟨b, t, 0, []⟩) some =
      (p.run ⟨b, t, 0, []⟩ some).map Place.small := run_small hp (fun _ => rfl) _
  rw [matchAfter, matchAfter]
  change (p.run (Place.small ⟨b, t, 0, []⟩) some).map _ = _
  rw [hrun, Option.map_map, Option.map_map]
  exact congrArg (Option.map · _) (funext fun s => Match.ofPlace_small t s)

theorem searchAfter_small (hp : p.IgnoresCase) (b : Option Char) (t : Text) :
    p.searchAfter (b.map Char.toLower) (small t) = (p.searchAfter b t).map Match.small := by
  induction t generalizing b with
  | nil => exact matchAfter_small hp b []
  | cons c rest ih =>
    have hfront := matchAfter_small hp b (c :: rest)
    have hlater : p.searchAfter (some c.toLower) (small rest) =
        (p.searchAfter (some c) rest).map Match.small := ih (some c)
    rw [small_cons] at hfront ⊢
    rw [searchAfter, searchAfter, hfront, hlater]
    cases p.matchAfter b (c :: rest) with
    | some m => rfl
    | none => cases p.searchAfter (some c) rest <;> rfl

theorem matchFront_small (hp : p.IgnoresCase) (t : Text) :
    p.matchFront (small t) = (p.matchFront t).map Match.small := matchAfter_small hp none t

theorem search_small (hp : p.IgnoresCase) (t : Text) :
    p.search (small t) = (p.search t).map Match.small := searchAfter_small hp none t

theorem matchesAfter_small (hp : p.IgnoresCase) (fuel : Text) (b : Option Char) (t : Text) :
    p.matchesAfter (small fuel) (b.map Char.toLower) (small t) =
      (p.matchesAfter fuel b t).map Match.small := by
  induction fuel generalizing b t with
  | nil => rfl
  | cons c fuel ih =>
    rw [small_cons, matchesAfter, matchesAfter, searchAfter_small hp]
    cases p.searchAfter b t with
    | none => rfl
    | some m =>
      by_cases hbody : m.body = []
      · simp [Match.small, hbody]
      · simp [Match.small, hbody, ih]

theorem allMatches_small (hp : p.IgnoresCase) (t : Text) :
    p.allMatches (small t) = (p.allMatches t).map Match.small := matchesAfter_small hp t none t

theorem replaceAfter_small (hp : p.IgnoresCase) (new fuel : Text) (b : Option Char) (t : Text) :
    p.replaceAfter (small new) (small fuel) (b.map Char.toLower) (small t) =
      small (p.replaceAfter new fuel b t) := by
  induction fuel generalizing b t with
  | nil => rfl
  | cons c fuel ih =>
    rw [small_cons, replaceAfter, replaceAfter, searchAfter_small hp]
    cases p.searchAfter b t with
    | none => rfl
    | some m =>
      by_cases hbody : m.body = []
      · simp [Match.small, hbody]
      · simp [Match.small, hbody, ih]

theorem replace_small (hp : p.IgnoresCase) (new t : Text) :
    p.replace (small new) (small t) = small (p.replace new t) :=
  replaceAfter_small hp new t none t

theorem erase_small (hp : p.IgnoresCase) (t : Text) : p.erase (small t) = small (p.erase t) :=
  replace_small hp [] t

@[simp]
theorem ignoresCase_append : (p ++ q).IgnoresCase ↔ p.IgnoresCase ∧ q.IgnoresCase := Iff.rfl

@[simp]
theorem ignoresCase_or : (p ||| q).IgnoresCase ↔ p.IgnoresCase ∧ q.IgnoresCase := Iff.rfl

@[simp]
theorem ignoresCase_char : (char accepts).IgnoresCase ↔ FlowTalk.IgnoresCase accepts := Iff.rfl

@[simp]
theorem ignoresCase_nothing : nothing.IgnoresCase := trivial

@[simp]
theorem ignoresCase_notAfterWord : notAfterWord.IgnoresCase := trivial

@[simp]
theorem ignoresCase_boundary : boundary.IgnoresCase := trivial

@[simp]
theorem ignoresCase_start : start.IgnoresCase := trivial

@[simp]
theorem ignoresCase_finish : finish.IgnoresCase := trivial

@[simp]
theorem ignoresCase_many {greedy : Bool} : (many greedy p).IgnoresCase ↔ p.IgnoresCase := Iff.rfl

@[simp]
theorem ignoresCase_notAhead : (notAhead p).IgnoresCase ↔ p.IgnoresCase := Iff.rfl

@[simp]
theorem ignoresCase_capture {slot : Nat} : (capture slot p).IgnoresCase ↔ p.IgnoresCase := Iff.rfl

theorem ignoresCase_baseLetter : FlowTalk.IgnoresCase baseLetter :=
  ignoresCase_of_capitals (by decide)

@[simp]
theorem ignoresCase_letter (c : Char) : (letter c).IgnoresCase := fun x =>
  congrArg (· == c) (ignoresCase_baseLetter x)

@[simp]
theorem ignoresCase_never : never.IgnoresCase := fun _ => rfl

@[simp]
theorem ignoresCase_anything : anything.IgnoresCase := fun _ => rfl

@[simp]
theorem ignoresCase_inLine : inLine.IgnoresCase := ignoresCase_of_capitals (by decide)

@[simp]
theorem ignoresCase_blank : blank.IgnoresCase := ignoresCase_isBlank

@[simp]
theorem ignoresCase_digit : digit.IgnoresCase := ignoresCase_isDigit

@[simp]
theorem ignoresCase_optional : (optional p).IgnoresCase ↔ p.IgnoresCase := by simp [optional]

@[simp]
theorem ignoresCase_some1 : (some1 p).IgnoresCase ↔ p.IgnoresCase := by simp [some1]

@[simp]
theorem ignoresCase_blanks : blanks.IgnoresCase := by simp [blanks]

@[simp]
theorem ignoresCase_blanks0 : blanks0.IgnoresCase := by simp [blanks0]

@[simp]
theorem ignoresCase_phrase (s : String) : (phrase s).IgnoresCase := by
  rw [phrase]
  induction s.toList with
  | nil => trivial
  | cons c cs ih =>
    refine ⟨?_, ih⟩
    split
    · exact ignoresCase_blanks
    · exact ignoresCase_letter c

@[simp]
theorem ignoresCase_oneOf (ss : List String) : (oneOf ss).IgnoresCase := by
  rw [oneOf, choice]
  induction ss with
  | nil => exact ignoresCase_never
  | cons s ss ih => exact ⟨ignoresCase_phrase s, ih⟩

@[simp]
theorem ignoresCase_wholeWord (ss : List String) : (wholeWord ss).IgnoresCase := by
  simp [wholeWord]

end Pattern

end FlowTalk
