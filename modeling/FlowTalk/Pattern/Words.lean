import FlowTalk.Pattern.Basic
import FlowTalk.Text.Blank
import FlowTalk.Text.Digit

/-! Patterns for words, numbers and the spaces between them. -/
namespace FlowTalk.Pattern

instance : Append Pattern := ⟨Pattern.seq⟩

instance : OrOp Pattern := ⟨Pattern.either⟩

/-- The small letter that a character stands for where case is ignored. The long s, the Kelvin sign
and the dotted and dotless i stand for ASCII letters. -/
def baseLetter (c : Char) : Char :=
  if c = 'ſ' then 's'
  else if c = '\u212a' then 'k'
  else if c = 'İ' ∨ c = 'ı' then 'i'
  else c.toLower

/-- A small letter or a symbol, in either case. -/
def letter (c : Char) : Pattern := char fun x => baseLetter x == c

/-- No text at all. -/
def never : Pattern := char fun _ => false

/-- Any character but the line feed. -/
def inLine : Pattern := char fun c => c != '\n'

def anything : Pattern := char fun _ => true

def blank : Pattern := char isBlank

def digit : Pattern := char isDigit

def optional (p : Pattern) : Pattern := p ||| nothing

/-- One round or more, as many as possible. -/
def some1 (p : Pattern) : Pattern := p ++ many true p

def blanks : Pattern := some1 blank

def blanks0 : Pattern := many true blank

/-- A fixed text in any case; a space in it stands for white space of any length. -/
def phrase (s : String) : Pattern :=
  s.toList.foldr (fun c p => (if c = ' ' then blanks else letter c) ++ p) nothing

/-- One of some patterns, the first that fits. -/
def choice (ps : List Pattern) : Pattern := ps.foldr (· ||| ·) never

/-- One of some phrases. -/
def oneOf (ss : List String) : Pattern := choice (ss.map phrase)

/-- One of some phrases, not inside a longer word. -/
def wholeWord (ss : List String) : Pattern := boundary ++ oneOf ss ++ boundary

end FlowTalk.Pattern
