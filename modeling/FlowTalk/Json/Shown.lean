import FlowTalk.Json.Display
import FlowTalk.Json.Reader

/-! Which values have a text: an integer must not be too long, nor a value nested too deep. -/
namespace FlowTalk.Json

/-- Why a value has no text. -/
inductive ShowError where
  | numeralTooLong
  | tooDeep
  deriving DecidableEq

mutual

/-- Checks a value, its parts in the order in which they stand in its text. The number bounds the
depth. -/
def checkShown : Nat → Json → Except ShowError Unit
  | _, .num (.int n) =>
    if (Text.ofNat n.natAbs).length ≤ maxDigits then .ok () else .error .numeralTooLong
  | 0, .arr _ | 0, .obj _ => .error .tooDeep
  | depth + 1, .arr vs => checkItems depth vs
  | depth + 1, .obj ms => checkMembers depth ms
  | _, _ => .ok ()

def checkItems : Nat → List Json → Except ShowError Unit
  | _, [] => .ok ()
  | depth, v :: vs => do
    checkShown depth v
    checkItems depth vs

def checkMembers : Nat → List (Text × Json) → Except ShowError Unit
  | _, [] => .ok ()
  | depth, (_, v) :: ms => do
    checkShown depth v
    checkMembers depth ms

end

/-- The text of a value, if it has one. -/
def shown (v : Json) : Except ShowError Text := do
  checkShown maxDepth v
  return v.display

@[simp]
theorem shown_str (t : Text) : (str t).shown = .ok t := by
  simp [shown, checkShown, display, bind, Except.bind, pure, Except.pure]

end FlowTalk.Json
