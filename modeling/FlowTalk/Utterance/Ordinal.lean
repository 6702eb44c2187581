import FlowTalk.Numeral
import FlowTalk.Pattern.Search
import FlowTalk.Text.Basic
import FlowTalk.Utterance.Vocabulary

namespace FlowTalk

/-- The number in a phrase that is nothing but a node number. -/
def ordinal? (t : Text) : Except NumeralError (Option Nat) :=
  match Vocabulary.ordinalPhrase.matchFront (Text.trim t) with
  | none => .ok none
  | some m => (Numeral.read (m.piece 1)).map some

end FlowTalk
