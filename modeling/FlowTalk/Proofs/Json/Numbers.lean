import FlowTalk.Json.Writer
import FlowTalk.Proofs.Json.Scalars
import FlowTalk.Proofs.Number.Digits
import FlowTalk.Proofs.Number.Scientific

/-! A floating-point number is read back from its text. -/
namespace FlowTalk
open NumberStyle

variable {t whole fraction rest : Text} {negative : Bool} {e : Option ℤ} {d : Decimal}

/-! The parts of a number are found -/

theorem charIsDigit_of_mem_decimals : ∀ c ∈ decimals, c.isDigit = true :=
  List.all_iff_forall_prop.1 (by decide)

/-- Digits end where something else follows. -/
theorem takeWhile_digits (ht : ∀ c ∈ t, c ∈ decimals)
    (hrest : ∀ c ∈ rest.head?, c.isDigit = false) : (t ++ rest).takeWhile Char.isDigit = t := by
  rw [List.takeWhile_append_of_pos fun c hc => charIsDigit_of_mem_decimals c (ht c hc)]
  cases rest with
  | nil => simp
  | cons c rest => simp [hrest c rfl]

theorem Written.digits?_digits (ht : ∀ c ∈ t, c ∈ decimals) (hne : t ≠ []) :
    digits? t = some (Numeral.value t, []) := by
  have htake : (t ++ []).takeWhile Char.isDigit = t := takeWhile_digits ht (by simp)
  rw [List.append_nil] at htake
  rw [digits?, htake, if_neg (by simpa using hne), List.drop_length]

namespace Json

theorem wholePart?_append_of_isWhole (hw : IsWhole whole)
    (hrest : ∀ c ∈ rest.head?, c.isDigit = false) :
    wholePart? (whole ++ rest) = some (whole, rest) := by
  rcases hw.front with rfl | ⟨c, more, rfl, hc⟩
  · rfl
  · have hdigit := charIsDigit_of_mem_decimals c (hw.digits c List.mem_cons_self)
    have htake := takeWhile_digits hw.digits hrest
    rw [List.cons_append] at htake
    rw [List.cons_append, wholePart?, if_neg hc, if_pos hdigit]
    simp only [htake]
    rw [← List.cons_append, List.drop_left]

theorem fractionPart?_digits (hf : ∀ c ∈ fraction, c ∈ decimals) (hne : fraction ≠ [])
    (hrest : ∀ c ∈ rest.head?, c.isDigit = false) :
    fractionPart? ('.' :: (fraction ++ rest)) = some (fraction, rest) := by
  rw [fractionPart?_point, takeWhile_digits hf hrest, if_neg (by simpa using hne), List.drop_left]

/-- An exponent has a sign and perhaps a zero in front. -/
theorem exponentPart?_exponent (e : ℤ) : exponentPart? (exponent e) = some (e, []) := by
  have hmagnitude := mem_decimals_of_mem_ofNat e.natAbs
  have hdigits : Written.digits? (zeros (2 - (Text.ofNat e.natAbs).length) ++ Text.ofNat e.natAbs) =
      some (e.natAbs, []) := by
    rw [Written.digits?_digits (mem_decimals_append mem_decimals_of_mem_zeros hmagnitude)
      (by simp [ofNat_ne_nil]), Numeral.value_zeros_append hmagnitude, Numeral.value_ofNat]
  change Written.exponent? ((if e < 0 then '-' else '+') :: _) = _
  rw [Written.exponent?_cons]
  by_cases he : e < 0
  · have habs : -(e.natAbs : ℤ) = e := by omega
    rw [if_pos he, if_pos rfl]
    exact Written.signed?_eq_some.2 ⟨_, hdigits, habs⟩
  · have habs : (e.natAbs : ℤ) = e := by omega
    rw [if_neg he, if_neg (by decide), if_pos rfl]
    exact Written.signed?_eq_some.2 ⟨_, hdigits, habs⟩

theorem head_exponent (e : Option ℤ) : ∀ c ∈ (e.elim [] exponent).head?, c = 'e' := by
  cases e with
  | none => simp
  | some e => simp [exponent]

theorem head_afterWhole (fraction : Text) (e : Option ℤ) :
    ∀ c ∈ (afterWhole fraction e).head?, c.isDigit = false := by
  rw [afterWhole]
  by_cases hf : fraction.isEmpty = true
  · rw [if_pos hf]
    intro c hc
    rw [head_exponent e c hc]
    rfl
  · rw [if_neg hf]
    intro c hc
    obtain rfl : '.' = c := by simpa using hc
    rfl

/-- What is not an integer is read as a floating-point number. -/
theorem unsignedNumber_afterWhole (hf : ∀ c ∈ fraction, c ∈ decimals)
    (h : fraction ≠ [] ∨ e ≠ none) :
    unsignedNumber negative whole (afterWhole fraction e) =
      .ok (.float (Written.toFloat ⟨negative, whole, fraction, e.getD 0⟩), []) := by
  by_cases hne : fraction = []
  · subst hne
    obtain ⟨e, rfl⟩ := Option.ne_none_iff_exists'.1 (h.resolve_left (by simp))
    have hexponent : exponentPart? (afterWhole [] (some e)) = some (e, []) :=
      exponentPart?_exponent e
    have hfraction : fractionPart? (afterWhole [] (some e)) = none :=
      fractionPart?_of_ne (by decide)
    rw [unsignedNumber, hfraction, hexponent]
    rfl
  · have hstop : ∀ c ∈ (e.elim [] exponent).head?, c.isDigit = false := by
      intro c hc
      rw [head_exponent e c hc]
      rfl
    have hfraction : fractionPart? (afterWhole fraction e) =
        some (fraction, e.elim [] exponent) := by
      rw [afterWhole, if_neg (by simpa using hne)]
      exact fractionPart?_digits hf hne hstop
    rw [unsignedNumber, hfraction]
    cases e with
    | none => rfl
    | some e =>
      simp only [Option.elim_some, exponentPart?_exponent]
      rfl

/-- A text that spells a number is read as what the parts of the number give together. -/
theorem number_spells (h : Spells t d) (negative : Bool) :
    ∃ w : Written, w.negative = negative ∧ w.toDecimal.value = d.value ∧
      number ((if negative then ['-'] else []) ++ t) = .ok (.float w.toFloat, []) := by
  obtain ⟨whole, fraction, e, rfl, hw, hf, hparts, hvalue⟩ := h
  refine ⟨⟨negative, whole, fraction, e.getD 0⟩, rfl, hvalue negative, ?_⟩
  have hwhole := wholePart?_append_of_isWhole hw (head_afterWhole fraction e)
  have hread : ∀ t, digitsOrFault negative t (whole ++ afterWhole fraction e) =
      .ok (.float (Written.toFloat ⟨negative, whole, fraction, e.getD 0⟩), []) := by
    intro t
    rw [digitsOrFault, hwhole]
    exact unsignedNumber_afterWhole hf hparts
  cases negative with
  | true => exact hread _
  | false =>
    obtain ⟨c, hc, hdigit⟩ := wholePart?_head hwhole
    obtain ⟨more, hmore⟩ := List.head?_eq_some_iff.1 hc
    have hminus : c ≠ '-' := by
      rintro rfl
      cases hdigit
    rw [if_neg (by simp), List.nil_append]
    rw [hmore] at hread ⊢
    rw [number_cons, if_neg hminus]
    exact hread _

/-! What is written is read -/

/-- The text of a number is read as the number. -/
def ReadsBack (n : Number) : Prop := scalar (writeNumber n) = .ok (.num n, [])

/-- A finite number that is not zero is written as the fewest digits that identify it, with its
sign. -/
theorem writeNumber_finite {x : Float} (hspecial : ¬ isSpecial x.toBits.toNat)
    (hpos : 0 < (Binary.ofBits (x.toBits.toNat % 2 ^ 63)).mantissa) :
    writeNumber (.float x) = (if decide (2 ^ 63 ≤ x.toBits.toNat) then ['-'] else []) ++
      numberStyle.ofDecimal (Binary.ofBits (x.toBits.toNat % 2 ^ 63)).shortest := by
  have hunpack : x.toModel.unpack = _ := unpack_of_not_special hspecial hpos
  have hnumber : x.isNaN = false := by
    change x.toModel.unpack.isNaN = false
    rw [hunpack]
    rfl
  have hfinite : x.isInf = false := by
    change x.toModel.unpack.isInf = false
    rw [hunpack]
    rfl
  have hmagnitude : numberStyle.ofMagnitude (x.toBits.toNat % Nat.pow 2 63) =
      numberStyle.ofDecimal (Binary.ofBits (x.toBits.toNat % 2 ^ 63)).shortest := by
    rw [ofMagnitude]
    exact if_neg hpos.ne'
  simp only [writeNumber, NumberStyle.write, hnumber, hfinite, hmagnitude, decide_eq_true_eq,
    Bool.false_eq_true, if_false]
  rfl

theorem readsBack_finite {x : Float} (hspecial : ¬ isSpecial x.toBits.toNat)
    (hpos : 0 < (Binary.ofBits (x.toBits.toNat % 2 ^ 63)).mantissa) : ReadsBack (.float x) := by
  have hy : (Binary.ofBits (x.toBits.toNat % 2 ^ 63)).Finite := by
    have hspecial' : ¬ isSpecial (x.toBits.toNat % 2 ^ 63) := by
      rw [isSpecial] at hspecial ⊢
      omega
    obtain ⟨hcanonical, hmax⟩ := canonical_ofBits hspecial' hpos
    exact ⟨hcanonical, hmax⟩
  have hnear := Binary.near_shortest hpos
  have hspells := spells_ofDecimal numberStyle (hnear.digits_pos hy)
  obtain ⟨w, hsign, hvalue, hnumber⟩ := number_spells hspells (decide (2 ^ 63 ≤ x.toBits.toNat))
  rw [← writeNumber_finite hspecial hpos] at hnumber
  have hread : w.toFloat = x := by
    have hunpack : x.toModel.unpack = _ := unpack_of_not_special hspecial hpos
    have hsignOf : (if decide (2 ^ 63 ≤ x.toBits.toNat) then Float.Model.UnpackedFloat.Sign.negative
        else .positive) = signOf x.toModel.toBits.toBitVec := by
      rw [signOf_eq]
      simp only [decide_eq_true_eq]
      rfl
    rw [← hvalue] at hnear
    rw [hnear.written hy, hsign, hsignOf, Binary.toFloat]
    exact (congrArg (fun u => Float.ofModel (.pack u)) hunpack).symm.trans (ofModel_pack_unpack x)
  rw [ReadsBack, scalar_of_number hnumber, hread]

/-- A floating-point number of any kind is read back. -/
theorem readsBack_float (x : Float) : ReadsBack (.float x) := by
  have hpack := ofModel_pack_unpack x
  rcases unpack_cases x.toModel.toBits.toBitVec with ⟨_, _, hunpack⟩ | ⟨_, _, hunpack⟩ |
    ⟨_, _, hunpack⟩ | ⟨hspecial, hpos⟩
  · rw [← hpack, Float.Model.unpack, hunpack]
    cases signOf x.toModel.toBits.toBitVec <;> rfl
  · rw [← hpack, Float.Model.unpack, hunpack]
    rfl
  · rw [← hpack, Float.Model.unpack, hunpack]
    cases signOf x.toModel.toBits.toBitVec <;> rfl
  · exact readsBack_finite hspecial hpos

end Json

end FlowTalk
