import FlowTalk.Web.Host.Character
import FlowTalk.Web.Host.Composed
import FlowTalk.Web.Host.Direction
import FlowTalk.Web.Host.Joining
import FlowTalk.Web.Host.Punycode
import FlowTalk.Text.Basic

/-! Labels of host names: which texts are labels, and their form in ASCII. -/
namespace FlowTalk.Host

/-- What is wrong with a label. -/
inductive LabelError where
  | malformed
  | badCharacter
  | badCompany
  | mixedDirections
  deriving DecidableEq

namespace Label

/-- A label or a name may have so many characters before it is looked at more closely. -/
def maxPoints : Nat := 254

/-- An ASCII label may have so many characters. -/
def maxLength : Nat := 63

/-- Whether no hyphen is the first or the last character, nor the third with another one after
it. -/
def hasGoodHyphens (label : List Nat) : Bool :=
  (label.drop 2).take 2 != [45, 45] && label.head? != some 45 && label.getLast? != some 45

/-- Checks the characters of a label after those before them, which come in reverse. -/
def checkCharacters (before : List Nat) : List Nat → Except LabelError Unit
  | [] => .ok ()
  | n :: rest =>
    if isLetter n then checkCharacters (n :: before) rest
    else
      match hasCompany before n rest with
      | some true => checkCharacters (n :: before) rest
      | some false => .error (if isJoiner n then .malformed else .badCompany)
      | none => .error .badCharacter

/-- Whether code points have the shape of a label. -/
def isFormed (label : List Nat) : Bool :=
  !label.isEmpty && label.length ≤ maxPoints && isComposed label && hasGoodHyphens label &&
    !label.head?.any isMark

/-- Checks that code points make a label. -/
def check (label : List Nat) : Except LabelError Unit := do
  if !isFormed label then .error .malformed
  checkCharacters [] label
  if !readsOneWay label then .error .mixedDirections

/-- The mark of an ASCII label that stands for other characters. -/
def asciiMark : Text := "xn--".toList

/-- Checks an ASCII label and what it stands for. -/
def checkAscii (label : Text) : Except LabelError Unit :=
  let label := label.map Char.toLower
  if asciiMark.isPrefixOf label then
    let tail := label.drop asciiMark.length
    if tail.isEmpty || tail.getLast? == some '-' then .error .malformed
    else
      match Punycode.decode? tail with
      | some points => check points
      | none => .error .malformed
  else check (label.map Char.toNat)

/-- The ASCII form of a label. -/
def ascii (label : Text) : Except LabelError Text := do
  let form ←
    if Text.isAscii label then (checkAscii label).map fun _ => label
    else
      let points := label.map Char.toNat
      (check points).map fun _ => asciiMark ++ Punycode.encode points
  if maxLength < form.length then .error .malformed else .ok form

end Label

end FlowTalk.Host
