import FlowTalk.Mention
import FlowTalk.Text.Lowercase
import FlowTalk.Utterance.Ordinal

/-! The parts of an utterance: the head that carries its verb, quoted pieces, labels and mentions. -/
namespace FlowTalk.Utterance
open Vocabulary

/-- The text before the first label, in lower case. Only the head decides what an utterance
asks for. -/
def head (t : Text) : Text :=
  Text.trim <| lower <| match labelMarker.search t with
    | some m => m.head
    | none => t

/-- The quoted pieces of a text in their order. -/
def quotations (t : Text) : List Text :=
  (quotation.allMatches t).map fun m => Text.trim (m.piece 1)

def isEndMark (c : Char) : Bool := ".!?,;:".toList.contains c

def isQuoteMark (c : Char) : Bool := "\"'“”‘’".toList.contains c

/-- A label without outer white space, end marks and quote marks. -/
def cleanLabel (t : Text) : Text :=
  Text.trim <| Text.trimWhere isQuoteMark <| Text.trim <| Text.trimEndWhere isEndMark <|
    Text.trim t

/-- A label without the words around a mention of it. -/
def withoutLabelWords (t : Text) : Text := trailingLabelWord.erase (leadingLabelOf.erase t)

/-- A phrase without the words around the mention in it. -/
def cleanFragment (labelWords : Bool) (t : Text) : Text :=
  let t := trailingFiller.erase (cleanLabel t)
  let t := if labelWords then withoutLabelWords t else t
  cleanLabel (trailingNodeWord.erase (leadingArticles.erase t))

/-- The node that a phrase mentions: a quoted label, a number, or the phrase itself. -/
def mention? (labelWords : Bool) (t : Text) : Except NumeralError (Option Mention) :=
  match quotations t with
  | quoted :: _ => .ok (if quoted.isEmpty then none else some (.label quoted))
  | [] =>
    let cleaned := cleanFragment labelWords t
    if cleaned.isEmpty then .ok none
    else (ordinal? cleaned).map fun
      | some n => some (.ofOrdinal n cleaned)
      | none => some (.phrase cleaned)

/-- What follows the first of some verbs. -/
def after (group : List String) (t : Text) : Text :=
  match (Pattern.wholeWord group).search t with
  | some m => Text.trim m.tail
  | none => []

end FlowTalk.Utterance
