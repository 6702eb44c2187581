import FlowTalk.Text.Digit

/-! Natural numbers written as decimal digits of any script. -/
namespace FlowTalk

/-- A numeral may have so many digits and no more. -/
def maxDigits : Nat := 4300

/-- A numeral has more than `maxDigits` digits. -/
inductive NumeralError where
  | tooLong
  deriving DecidableEq

namespace Numeral

/-- The number that a run of digits stands for, leading zeros allowed. -/
def value (digits : Text) : Nat :=
  digits.foldl (fun n c => 10 * n + (digitValue? c).getD 0) 0

/-- Reads a run of digits unless it is too long; leading zeros count. -/
def read (digits : Text) : Except NumeralError Nat :=
  if digits.length ≤ maxDigits then .ok (value digits) else .error .tooLong

end Numeral

end FlowTalk
