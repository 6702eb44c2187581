import FlowTalk.Json.Writer
import FlowTalk.Proofs.Json.Grammar
import Mathlib.Tactic.IntervalCases

/-! A written string spells the characters it has, whatever they are. -/
namespace FlowTalk

namespace Text

variable {c : Char} {us : List Nat}

/-- The code units of a character: two if it lies beyond sixteen bits. -/
def charUnits (c : Char) : List Nat :=
  if c.toNat < 0x10000 then [c.toNat]
  else [0xD800 + (c.toNat - 0x10000) / 0x400, 0xDC00 + (c.toNat - 0x10000) % 0x400]

theorem toNat_bounds (c : Char) : c.toNat < 0xD800 ∨ 0xDFFF < c.toNat ∧ c.toNat < 0x110000 :=
  c.valid

theorem ofUnits_charUnits_append (c : Char) (us : List Nat) :
    ofUnits (charUnits c ++ us) = c :: ofUnits us := by
  by_cases hsmall : c.toNat < 0x10000
  · have hhigh : isHighSurrogate c.toNat = false := by
      have hc := toNat_bounds c
      simp only [isHighSurrogate, Bool.and_eq_false_iff, decide_eq_false_iff_not]
      omega
    have hlow : isLowSurrogate c.toNat = false := by
      have hc := toNat_bounds c
      simp only [isLowSurrogate, Bool.and_eq_false_iff, decide_eq_false_iff_not]
      omega
    have hunit : ofUnit c.toNat = c := by simp [ofUnit, hhigh, hlow, Char.ofNat_toNat]
    rw [charUnits, if_pos hsmall, List.singleton_append]
    cases us with
    | nil => simp [ofUnits, hunit]
    | cons m us => simp [ofUnits, hhigh, hunit]
  · have hc := toNat_bounds c
    have hhigh : isHighSurrogate (0xD800 + (c.toNat - 0x10000) / 0x400) = true := by
      simp only [isHighSurrogate, Bool.and_eq_true, decide_eq_true_eq]
      omega
    have hlow : isLowSurrogate (0xDC00 + (c.toNat - 0x10000) % 0x400) = true := by
      simp only [isLowSurrogate, Bool.and_eq_true, decide_eq_true_eq]
      omega
    have hnat : 0x10000 + (0xD800 + (c.toNat - 0x10000) / 0x400 - 0xD800) * 0x400 +
        (0xDC00 + (c.toNat - 0x10000) % 0x400 - 0xDC00) = c.toNat := by omega
    rw [charUnits, if_neg hsmall, List.cons_append, List.singleton_append, ofUnits, hhigh, hlow]
    rw [Bool.and_true, if_pos rfl, hnat, Char.ofNat_toNat]

/-- Characters are put together again from their code units. -/
theorem ofUnits_flatMap (t : Text) : ofUnits (t.flatMap charUnits) = t := by
  induction t with
  | nil => rfl
  | cons c t ih => rw [List.flatMap_cons, ofUnits_charUnits_append, ih]

end Text

namespace Json

variable {t u : Text} {c : Char}

theorem hexValue?_digitChar : ∀ d < 16, hexValue? (Nat.digitChar d) = some d := by decide

/-- The four hexadecimal digits of a code unit. -/
theorem padded_ofNatHex {n : Nat} (h : n < 0x10000) : Text.padded 4 (Text.ofNatHex n) =
    [Nat.digitChar (n / 4096), Nat.digitChar (n / 256 % 16), Nat.digitChar (n / 16 % 16),
      Nat.digitChar (n % 16)] := by
  have hstep (m : Nat) : Nat.toDigits 16 m =
      if m < 16 then [Nat.digitChar m] else Nat.toDigits 16 (m / 16) ++ [Nat.digitChar (m % 16)] :=
    Nat.toDigits_eq_if (by decide)
  have hzero : Nat.digitChar 0 = '0' := rfl
  rw [Text.ofNatHex, Text.padded]
  rcases Nat.lt_or_ge n 16 with h₁ | h₁
  · have h₂ : n / 16 = 0 ∧ n / 256 = 0 ∧ n / 4096 = 0 ∧ n % 16 = n := by omega
    simp [hstep n, h₁, h₂, hzero, List.replicate]
  · rcases Nat.lt_or_ge n 256 with h₂ | h₂
    · have h₃ : n / 256 = 0 ∧ n / 4096 = 0 ∧ n / 16 < 16 ∧ n / 16 % 16 = n / 16 := by omega
      simp [hstep n, hstep (n / 16), Nat.not_lt.2 h₁, h₃, hzero, List.replicate]
    · rcases Nat.lt_or_ge n 4096 with h₃ | h₃
      · have h₄ : n / 16 / 16 = n / 256 ∧ n / 4096 = 0 ∧ ¬ n / 16 < 16 ∧ n / 256 < 16 ∧
            n / 256 % 16 = n / 256 := by omega
        simp [hstep n, hstep (n / 16), hstep (n / 256), Nat.not_lt.2 h₁, h₄, hzero]
      · have h₄ : n / 16 / 16 = n / 256 ∧ n / 256 / 16 = n / 4096 ∧ ¬ n / 16 < 16 ∧
            ¬ n / 256 < 16 ∧ n / 4096 < 16 := by omega
        simp [hstep n, hstep (n / 16), hstep (n / 256), hstep (n / 4096), Nat.not_lt.2 h₁, h₄]

theorem hexUnit?_digits {n : Nat} (h : n < 0x10000) :
    hexUnit? (Nat.digitChar (n / 4096)) (Nat.digitChar (n / 256 % 16))
      (Nat.digitChar (n / 16 % 16)) (Nat.digitChar (n % 16)) = some n := by
  have hvalue : (((n / 4096) * 16 + n / 256 % 16) * 16 + n / 16 % 16) * 16 + n % 16 = n := by omega
  simp only [hexUnit?, hexValue?_digitChar _ (show n / 4096 < 16 by omega),
    hexValue?_digitChar _ (Nat.mod_lt _ (show 0 < 16 by decide)), Option.bind_eq_bind,
    Option.bind_some, hvalue]
  rfl

theorem Units.append {us us' : List Nat} (h : Units t us) (h' : Units u us') :
    Units (t ++ u) (us ++ us') := by
  induction h with
  | nil => exact h'
  | plain hquote hslash hc _ ih => exact .plain hquote hslash hc ih
  | escape he hx _ ih => exact .escape he hx ih
  | unit hn _ ih => exact .unit hn ih

theorem units_unitEscape {n : Nat} (h : n < 0x10000) : Units (unitEscape n) [n] := by
  rw [unitEscape, padded_ofNatHex h]
  exact .unit (hexUnit?_digits h) .nil

theorem units_flatMap_unitEscape {us : List Nat} (hus : ∀ n ∈ us, n < 0x10000) :
    Units (us.flatMap unitEscape) us := by
  induction us with
  | nil => exact .nil
  | cons n us ih =>
    rw [List.flatMap_cons]
    exact (units_unitEscape (hus n (by simp))).append (ih fun m hm => hus m (by simp [hm]))

/-- The characters with an escape of one letter. -/
theorem writeChar_escape : ∀ c ∈ ['"', '\\', '\n', '\r', '\t', '\x0c', '\x08'],
    ∃ e, e ≠ 'u' ∧ escaped? e = some c ∧ writeChar c = ['\\', e] ∧
      Text.charUnits c = [c.toNat] := by
  intro c hc
  simp only [List.mem_cons, List.not_mem_nil, or_false] at hc
  rcases hc with rfl | rfl | rfl | rfl | rfl | rfl | rfl
  · exact ⟨'"', by decide⟩
  · exact ⟨'\\', by decide⟩
  · exact ⟨'n', by decide⟩
  · exact ⟨'r', by decide⟩
  · exact ⟨'t', by decide⟩
  · exact ⟨'f', by decide⟩
  · exact ⟨'b', by decide⟩

/-- The characters that are written as they are or as code units. -/
theorem writeChar_units (h : c ∉ ['"', '\\', '\n', '\r', '\t', '\x0c', '\x08']) :
    writeChar c = if 32 ≤ c.toNat ∧ c.toNat < 127 then [c] else
      (Text.charUnits c).flatMap unitEscape := by
  simp only [List.mem_cons, List.not_mem_nil, or_false, not_or] at h
  obtain ⟨hquote, hslash, hfeed, hreturn, htab, hpage, hback⟩ := h
  simp only [writeChar, hquote, hslash, hfeed, hreturn, htab, hpage, hback, if_false]
  by_cases hsmall : c.toNat < 0x10000
  · rw [if_pos hsmall, Text.charUnits, if_pos hsmall, List.flatMap_singleton]
  · rw [if_neg hsmall, Text.charUnits, if_neg hsmall]
    simp only [List.flatMap_cons, List.flatMap_nil, List.append_nil]

theorem charUnits_lt (c : Char) : ∀ n ∈ Text.charUnits c, n < 0x10000 := by
  have hc := Text.toNat_bounds c
  intro n hn
  by_cases hsmall : c.toNat < 0x10000
  · rw [Text.charUnits, if_pos hsmall] at hn
    exact List.mem_singleton.1 hn ▸ hsmall
  · rw [Text.charUnits, if_neg hsmall] at hn
    simp only [List.mem_cons, List.not_mem_nil, or_false] at hn
    omega

theorem units_writeChar (c : Char) : Units (writeChar c) (Text.charUnits c) := by
  by_cases hescape : c ∈ ['"', '\\', '\n', '\r', '\t', '\x0c', '\x08']
  · obtain ⟨e, he, hx, hwrite, hunits⟩ := writeChar_escape c hescape
    rw [hwrite, hunits]
    exact .escape he hx .nil
  · rw [writeChar_units hescape]
    by_cases hplain : 32 ≤ c.toNat ∧ c.toNat < 127
    · have hunits : Text.charUnits c = [c.toNat] := if_pos (by omega)
      rw [if_pos hplain, hunits]
      refine .plain ?_ ?_ hplain.1 .nil
      · rintro rfl
        exact hescape (by decide)
      · rintro rfl
        exact hescape (by decide)
    · rw [if_neg hplain]
      exact units_flatMap_unitEscape (charUnits_lt c)

theorem units_writeString (t : Text) : Units (t.flatMap writeChar) (t.flatMap Text.charUnits) := by
  induction t with
  | nil => exact .nil
  | cons c t ih =>
    rw [List.flatMap_cons, List.flatMap_cons]
    exact (units_writeChar c).append ih

end Json

end FlowTalk
