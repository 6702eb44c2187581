namespace FlowTalk

/-- Text is the sequence of its code points. -/
abbrev Text := List Char

/-- Closed intervals of code points in ascending order. -/
abbrev Ranges := List (Nat × Nat)

namespace Ranges

/-- The scan stops at the first interval that lies above the code point. -/
def covers : Ranges → Nat → Bool
  | [], _ => false
  | (first, last) :: rest, n =>
    if n < first then false else if n ≤ last then true else covers rest n

theorem exists_of_covers {rs : Ranges} {n : Nat} (h : rs.covers n = true) :
    ∃ r ∈ rs, r.1 ≤ n ∧ n ≤ r.2 := by
  induction rs with
  | nil => simp [covers] at h
  | cons r rest ih =>
    obtain ⟨first, last⟩ := r
    by_cases hf : n < first
    · simp [covers, hf] at h
    · by_cases hl : n ≤ last
      · exact ⟨(first, last), by simp, by simpa using hf, hl⟩
      · simp only [covers, hf, hl, if_false] at h
        obtain ⟨r, hr, hn⟩ := ih h
        exact ⟨r, by simp [hr], hn⟩

end Ranges

end FlowTalk
