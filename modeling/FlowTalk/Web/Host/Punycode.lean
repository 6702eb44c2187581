import FlowTalk.Text.Ranges

/-! Code points in ASCII letters and digits, as host names carry them: the ASCII characters first,
then for each other character, in ascending order, how far it is from the one before it. -/
namespace FlowTalk.Host.Punycode

/-- The letter or digit that stands for a value below thirty-six. -/
def digitChar (d : Nat) : Char := Char.ofNat (if d < 26 then 'a'.toNat + d else '0'.toNat + d - 26)

def digitValue? (c : Char) : Option Nat :=
  if 'a' ≤ c ∧ c ≤ 'z' then some (c.toNat - 'a'.toNat)
  else if 'A' ≤ c ∧ c ≤ 'Z' then some (c.toNat - 'A'.toNat)
  else if '0' ≤ c ∧ c ≤ '9' then some (c.toNat - '0'.toNat + 26)
  else none

/-- A digit below this value is the last of its number; `place` counts the digits from zero. -/
def threshold (bias place : Nat) : Nat := max 1 (min 26 (36 * (place + 1) - bias))

theorem threshold_pos (bias place : Nat) : 0 < threshold bias place := by
  unfold threshold
  omega

/-- How often a number is divided until it is small, and what is left of it. -/
def reduced (delta divisions : Nat) : Nat × Nat :=
  if 455 < delta then reduced (delta / 35) (divisions + 36) else (delta, divisions)
termination_by delta
decreasing_by exact Nat.div_lt_self (by omega) (by omega)

/-- The bias after a number has been written, with so many characters placed. It follows the size of
the number, so that numbers of this size are written with few digits. -/
def adapted (delta placed : Nat) (first : Bool) : Nat :=
  let delta := if first then delta / 700 else delta / 2
  let (delta, divisions) := reduced (delta + delta / placed) 0
  divisions + 36 * delta / (delta + 38)

/-- The digits of a number from a place on, the lowest first. -/
def integer (bias place n : Nat) : Text :=
  let t := threshold bias place
  if n < t then [digitChar n]
  else digitChar (t + (n - t) % (36 - t)) :: integer bias (place + 1) ((n - t) / (36 - t))
termination_by n
decreasing_by
  have ht := threshold_pos bias place
  have hd := Nat.div_le_self (n - threshold bias place) (36 - threshold bias place)
  omega

/-- A number at the front of a text: its digits from a place on, the first of the given weight, are
added to `sum`. -/
def readInteger? (bias : Nat) : Nat → Nat → Nat → Text → Option (Nat × Text)
  | _, _, _, [] => none
  | place, weight, sum, c :: rest =>
    match digitValue? c with
    | none => none
    | some d =>
      let t := threshold bias place
      if d < t then some (sum + d * weight, rest)
      else readInteger? bias (place + 1) (weight * (36 - t)) (sum + d * weight) rest

theorem length_lt_of_readInteger? {bias place weight sum n : Nat} {t rest : Text}
    (h : readInteger? bias place weight sum t = some (n, rest)) : rest.length < t.length := by
  induction t generalizing place weight sum with
  | nil => simp [readInteger?] at h
  | cons c cs ih =>
    simp only [readInteger?] at h
    split at h
    · simp at h
    · split at h
      · simp_all
      · have := ih h
        simp only [List.length_cons]
        omega

/-- What has been written: the text, the distance covered since the last character, the bias, and
the number of characters placed. -/
structure Progress where
  text : Text
  delta : Nat
  bias : Nat
  placed : Nat

namespace Progress

/-- Passes a character of the label while the code point `m` is being placed. -/
def pass (basic m : Nat) (p : Progress) (n : Nat) : Progress :=
  if n < m then { p with delta := p.delta + 1 }
  else if n = m then
    { text := p.text ++ integer p.bias 0 p.delta
      delta := 0
      bias := adapted p.delta (p.placed + 1) (p.placed == basic)
      placed := p.placed + 1 }
  else p

/-- Places all characters with the code point `m`, when those below `start` have been placed. -/
def place (label : List Nat) (basic start m : Nat) (p : Progress) : Progress :=
  let p := { p with delta := p.delta + (m - start) * (p.placed + 1) }
  let p := label.foldl (pass basic m) p
  { p with delta := p.delta + 1 }

/-- Places the characters with the given code points, which ascend. -/
def placeAll (label : List Nat) (basic : Nat) : Nat → List Nat → Progress → Progress
  | _, [], p => p
  | start, m :: ms, p => placeAll label basic (m + 1) ms (p.place label basic start m)

end Progress

/-- The text for some code points. -/
def encode (label : List Nat) : Text :=
  let basic := label.filter (· < 128)
  let others := ((label.filter (128 ≤ ·)).mergeSort).eraseDups
  let tail := (Progress.placeAll label basic.length 128 others ⟨[], 0, 72, basic.length⟩).text
  basic.map Char.ofNat ++ (if basic.isEmpty then [] else ['-']) ++ tail

/-- The label after the insertions that a text stands for: the last one put the code point `point`
before position `position`. -/
def insertions? (bias point position : Nat) (first : Bool) (label : List Nat) (t : Text) :
    Option (List Nat) :=
  if t.isEmpty then some label
  else
    match _ : readInteger? bias 0 1 0 t with
    | none => none
    | some (delta, rest) =>
      let size := label.length + 1
      let point := point + (position + delta) / size
      let position := (position + delta) % size
      if 0x10ffff < point then none
      else
        insertions? (adapted delta size first) point (position + 1) false
          (label.take position ++ point :: label.drop position) rest
termination_by t.length
decreasing_by exact length_lt_of_readInteger? ‹_›

/-- The code points that a text stands for. -/
def decode? (t : Text) : Option (List Nat) :=
  let tail := (t.reverse.takeWhile (· != '-')).reverse
  let basic := t.take (t.length - tail.length - 1)
  insertions? 72 128 0 true (basic.map Char.toNat) tail

end FlowTalk.Host.Punycode
