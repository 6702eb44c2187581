import FlowTalk.Text.Basic

/-! Points in time as dates and times of day. -/
namespace FlowTalk.Time

/-- A day of the calendar. -/
structure Date where
  year : Int
  month : Nat
  day : Nat
  deriving DecidableEq

/-- The date of a day, counted from the first of 1970. Years are taken to begin in March, and four
centuries have the same number of days. -/
def dateOfDay (n : Int) : Date :=
  let n := n + 719468
  let era := n.fdiv 146097
  let dayOfEra := (n.fmod 146097).toNat
  let yearOfEra :=
    (dayOfEra - dayOfEra / 1460 + dayOfEra / 36524 - dayOfEra / 146096) / 365
  let dayOfYear := dayOfEra - (365 * yearOfEra + yearOfEra / 4 - yearOfEra / 100)
  let shifted := (5 * dayOfYear + 2) / 153
  let day := dayOfYear - (153 * shifted + 2) / 5 + 1
  let month := if shifted < 10 then shifted + 3 else shifted - 9
  ⟨yearOfEra + era * 400 + (if month ≤ 2 then 1 else 0), month, day⟩

/-- A number with zeros in front, at least so many digits in all. -/
def digits (width n : Nat) : Text := Text.padded width (Text.ofNat n)

/-- The date and the time of day at so many microseconds since the start of 1970; a fraction of a
second is written only if it is not zero. -/
def timestamp (microseconds : Int) : Text :=
  let date := dateOfDay (microseconds.fdiv 86400000000)
  let rest := (microseconds.fmod 86400000000).toNat
  let seconds := rest / 1000000
  let fraction := rest % 1000000
  digits 4 date.year.toNat ++ '-' :: digits 2 date.month ++ '-' :: digits 2 date.day ++
    'T' :: digits 2 (seconds / 3600) ++ ':' :: digits 2 (seconds / 60 % 60) ++
    ':' :: digits 2 (seconds % 60) ++
    (if fraction = 0 then [] else '.' :: digits 6 fraction) ++ "+00:00".toList

end FlowTalk.Time
