import FlowTalk.Web.Host.Label

/-! Host names. -/
namespace FlowTalk.Host

/-- The full stops of ASCII and of East Asian scripts. -/
def isDot (c : Char) : Bool := ".。．｡".toList.contains c

/-- The labels of a name; whether a dot follows the last one. -/
def labels (name : Text) : List Text × Bool :=
  let pieces := Text.splitWhere isDot name
  if pieces.getLast? == some [] then (pieces.dropLast, true) else (pieces, false)

/-- An ASCII name may have so many characters, besides a dot at its end. -/
def maxLength : Nat := 253

/-- The ASCII form of a name. -/
def ascii (name : Text) : Except LabelError Text := do
  if name.isEmpty || Label.maxPoints < name.length then .error .malformed
  let (pieces, dotted) := labels name
  let forms ← pieces.mapM Label.ascii
  let form := Text.joinWith ['.'] forms ++ (if dotted then ['.'] else [])
  if maxLength + (if dotted then 1 else 0) < form.length then .error .malformed else .ok form

/-- Checks an ASCII name and what its labels stand for. -/
def checkAscii (name : Text) : Except LabelError Unit :=
  if Label.maxPoints < name.length then .error .malformed
  else (labels name).1.forM Label.checkAscii

end FlowTalk.Host
