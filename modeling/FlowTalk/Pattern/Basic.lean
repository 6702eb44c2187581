import FlowTalk.Text.Word

/-! Patterns for pieces of text, and the ordered search for a way to match one. -/
namespace FlowTalk

/-- A pattern. Of two alternatives the first that lets the whole match is taken; a repetition takes
as many rounds as it can, or as few if it is not greedy. -/
inductive Pattern where
  | nothing
  | char (accepts : Char → Bool)
  | seq (first second : Pattern)
  | either (first second : Pattern)
  | many (greedy : Bool) (body : Pattern)
  | notAhead (body : Pattern)
  | notAfterWord
  | boundary
  | start
  | finish
  | capture (slot : Nat) (body : Pattern)

/-- A captured piece: the first `length` characters of `rest`. -/
structure Captured where
  slot : Nat
  rest : Text
  length : Nat

def Captured.piece (c : Captured) : Text := c.rest.take c.length

/-- A place in a text that is being matched: the character before it, the text after it, how many
characters the match has taken, and the pieces captured so far, the latest first. -/
structure Place where
  before : Option Char
  rest : Text
  taken : Nat
  captures : List Captured

namespace Place

def afterWord (s : Place) : Bool := s.before.any isWord

def beforeWord (s : Place) : Bool := s.rest.head?.any isWord

def atBoundary (s : Place) : Bool := s.afterWord != s.beforeWord

/-- The end of a text is also just before a final line feed. -/
def atFinish (s : Place) : Bool := s.rest.isEmpty || s.rest == ['\n']

/-- The place after the next character. -/
def step (s : Place) (c : Char) (rest : Text) : Place :=
  { s with before := some c, rest := rest, taken := s.taken + 1 }

/-- Captures what was taken between two places. -/
def record (slot : Nat) (s t : Place) : Place :=
  { t with captures := ⟨slot, s.rest, t.taken - s.taken⟩ :: t.captures }

end Place

namespace Pattern

/-- Rounds of a repetition. The first argument bounds their number: a round that takes nothing
leads nowhere new. -/
def rounds (round : Place → (Place → Option Place) → Option Place) (greedy : Bool)
    (next : Place → Option Place) : Text → Place → Option Place
  | [], s => next s
  | _ :: fuel, s =>
    if greedy then
      match round s (rounds round greedy next fuel) with
      | some t => some t
      | none => next s
    else
      match next s with
      | some t => some t
      | none => round s (rounds round greedy next fuel)

/-- The first way to match a pattern at a place such that `next` succeeds at the place after it. -/
def run : Pattern → Place → (Place → Option Place) → Option Place
  | .nothing, s, next => next s
  | .char accepts, s, next =>
    match s.rest with
    | [] => none
    | c :: rest => if accepts c then next (s.step c rest) else none
  | .seq first second, s, next => first.run s fun t => second.run t next
  | .either first second, s, next =>
    match first.run s next with
    | some t => some t
    | none => second.run s next
  | .many greedy body, s, next => rounds body.run greedy next s.rest s
  | .notAhead body, s, next =>
    match body.run s some with
    | some _ => none
    | none => next s
  | .notAfterWord, s, next => if s.afterWord then none else next s
  | .boundary, s, next => if s.atBoundary then next s else none
  | .start, s, next => if s.before.isNone then next s else none
  | .finish, s, next => if s.atFinish then next s else none
  | .capture slot body, s, next => body.run s fun t => next (Place.record slot s t)

end Pattern

end FlowTalk
