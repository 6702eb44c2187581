import FlowTalk.Pattern.Basic

/-! Finding and replacing the pieces of a text that a pattern matches. -/
namespace FlowTalk

/-- A matched piece of a text, with the text before and after it. -/
structure Match where
  head : Text
  body : Text
  tail : Text
  captures : List Captured

namespace Match

/-- The match at the front of a text that ends at the given place. -/
def ofPlace (t : Text) (s : Place) : Match := ⟨[], t.take s.taken, s.rest, s.captures⟩

def push (c : Char) (m : Match) : Match := { m with head := c :: m.head }

/-- The piece last captured in a slot. -/
def piece? (m : Match) (slot : Nat) : Option Text :=
  (m.captures.find? (·.slot == slot)).map Captured.piece

/-- The piece last captured in a slot; empty if there is none. -/
def piece (m : Match) (slot : Nat) : Text := (m.piece? slot).getD []

end Match

namespace Pattern

/-- The match at the front of a text that follows the character `before`. -/
def matchAfter (p : Pattern) (before : Option Char) (t : Text) : Option Match :=
  (p.run ⟨before, t, 0, []⟩ some).map (Match.ofPlace t)

/-- The leftmost match in a text that follows the character `before`. -/
def searchAfter (p : Pattern) : Option Char → Text → Option Match
  | before, [] => p.matchAfter before []
  | before, c :: rest =>
    match p.matchAfter before (c :: rest) with
    | some m => some m
    | none => (p.searchAfter (some c) rest).map (Match.push c)

/-- The match at the front of a text. -/
def matchFront (p : Pattern) (t : Text) : Option Match := p.matchAfter none t

/-- The leftmost match in a text. -/
def search (p : Pattern) (t : Text) : Option Match := p.searchAfter none t

/-- Whether a pattern matches somewhere in a text. -/
def occursIn (p : Pattern) (t : Text) : Bool := (p.search t).isSome

/-- The matches from left to right, each after the end of the one before. An empty match ends the
scan, and the first argument bounds their number. -/
def matchesAfter (p : Pattern) : Text → Option Char → Text → List Match
  | [], _, _ => []
  | _ :: fuel, before, t =>
    match p.searchAfter before t with
    | none => []
    | some m => if m.body.isEmpty then [] else m :: p.matchesAfter fuel m.body.getLast? m.tail

def allMatches (p : Pattern) (t : Text) : List Match := p.matchesAfter t none t

/-- Replacement of the matches from left to right, bounded like `matchesAfter`. -/
def replaceAfter (p : Pattern) (new : Text) : Text → Option Char → Text → Text
  | [], _, t => t
  | _ :: fuel, before, t =>
    match p.searchAfter before t with
    | none => t
    | some m =>
      if m.body.isEmpty then t
      else m.head ++ new ++ p.replaceAfter new fuel m.body.getLast? m.tail

/-- A text with each match replaced. -/
def replace (p : Pattern) (new t : Text) : Text := p.replaceAfter new t none t

/-- A text without the matches. -/
def erase (p : Pattern) (t : Text) : Text := p.replace [] t

end Pattern

end FlowTalk
