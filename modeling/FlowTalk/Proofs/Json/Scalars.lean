import FlowTalk.Json.Reader
import FlowTalk.Proofs.Except
import Mathlib.Data.Bool.AllAny

/-! Reading a word or a number does not look past its end, where a separator or a bracket stands. -/
namespace FlowTalk

variable {t r rest digits : Text} {negative : Bool} {e : Int} {c : Char}

/-- No digit follows. -/
def NoDigit (rest : Text) : Prop := ∀ c ∈ rest.head?, c.isDigit = false

/-- The characters that may follow a value: white space, a separator, a closing bracket. -/
def valueStops : List Char := [',', ' ', '\t', '\n', '\r', ']', '\x7d']

/-- The text after a value. -/
def AfterValue (rest : Text) : Prop := ∀ c ∈ rest.head?, c ∈ valueStops

namespace AfterValue

theorem nil : AfterValue [] := by simp [AfterValue]

theorem cons (h : c ∈ valueStops) : AfterValue (c :: rest) := by
  intro d hd
  obtain rfl : c = d := by simpa using hd
  exact h

theorem noDigit (h : AfterValue rest) : NoDigit rest := by
  have hall : ∀ c ∈ valueStops, c.isDigit = false := List.all_iff_forall_prop.1 (by decide)
  exact fun c hc => hall c (h c hc)

end AfterValue

/-- Digits end where something else follows. -/
theorem takeWhile_isDigit_append (h : NoDigit rest) :
    (t ++ rest).takeWhile Char.isDigit = t.takeWhile Char.isDigit := by
  induction t with
  | nil =>
    cases rest with
    | nil => rfl
    | cons c rest => simp [h c rfl]
  | cons c t ih =>
    by_cases hc : c.isDigit = true
    · simp [hc, ih]
    · simp [hc]

theorem drop_takeWhile_append (t rest : Text) :
    (t ++ rest).drop (t.takeWhile Char.isDigit).length =
      t.drop (t.takeWhile Char.isDigit).length ++ rest :=
  List.drop_append_of_le_length (List.takeWhile_sublist _).length_le

namespace Written

/-- The digits of an exponent after its sign. -/
def digits? (t : Text) : Option (Nat × Text) :=
  if (t.takeWhile Char.isDigit).isEmpty then none
  else some (Numeral.value (t.takeWhile Char.isDigit), t.drop (t.takeWhile Char.isDigit).length)

/-- The exponent that the digits stand for after a sign. -/
def signed? (sign : Nat → Int) (t : Text) : Option (Int × Text) :=
  (digits? t).map fun p => (sign p.1, p.2)

theorem exponent?_cons (c : Char) (t : Text) : exponent? (c :: t) =
    if c = '-' then signed? (fun n => -(n : Int)) t
    else if c = '+' then signed? (fun n => (n : Int)) t
    else signed? (fun n => (n : Int)) (c :: t) := by
  by_cases hminus : c = '-'
  · subst hminus
    rfl
  · by_cases hplus : c = '+'
    · subst hplus
      rfl
    · simp [exponent?, signed?, digits?, hminus, hplus]

theorem signed?_eq_some {sign : Nat → Int} :
    signed? sign t = some (e, r) ↔ ∃ n, digits? t = some (n, r) ∧ sign n = e := by
  simp [signed?]

theorem digits?_append {n : Nat} (h : NoDigit rest) (ht : digits? t = some (n, r)) :
    digits? (t ++ rest) = some (n, r ++ rest) := by
  rw [digits?] at ht ⊢
  rw [takeWhile_isDigit_append h, drop_takeWhile_append]
  by_cases hempty : (t.takeWhile Char.isDigit).isEmpty = true
  · simp [hempty] at ht
  · rw [if_neg hempty] at ht ⊢
    cases ht
    rfl

theorem exponent?_append (h : NoDigit rest) (ht : exponent? t = some (e, r)) :
    exponent? (t ++ rest) = some (e, r ++ rest) := by
  have hsigned {sign : Nat → Int} {u : Text} (hu : signed? sign u = some (e, r)) :
      signed? sign (u ++ rest) = some (e, r ++ rest) := by
    obtain ⟨n, hn, hsign⟩ := signed?_eq_some.1 hu
    exact signed?_eq_some.2 ⟨n, digits?_append h hn, hsign⟩
  cases t with
  | nil => cases ht
  | cons c t =>
    rw [List.cons_append, exponent?_cons]
    rw [exponent?_cons] at ht
    by_cases hminus : c = '-'
    · rw [if_pos hminus] at ht ⊢
      exact hsigned ht
    · rw [if_neg hminus] at ht ⊢
      by_cases hplus : c = '+'
      · rw [if_pos hplus] at ht ⊢
        exact hsigned ht
      · rw [if_neg hplus] at ht ⊢
        exact hsigned ht

end Written

namespace Json

theorem wholePart?_append (h : NoDigit rest) (ht : wholePart? t = some (digits, r)) :
    wholePart? (t ++ rest) = some (digits, r ++ rest) := by
  cases t with
  | nil => simp [wholePart?] at ht
  | cons c t =>
    by_cases hzero : c = '0'
    · subst hzero
      simp only [wholePart?, if_true, Option.some.injEq, Prod.mk.injEq] at ht
      obtain ⟨rfl, rfl⟩ := ht
      rfl
    · by_cases hc : c.isDigit = true
      · simp only [wholePart?, hzero, hc, if_false, if_true, Option.some.injEq,
          Prod.mk.injEq] at ht
        obtain ⟨rfl, rfl⟩ := ht
        have htake := takeWhile_isDigit_append (t := c :: t) h
        have hdrop := drop_takeWhile_append (c :: t) rest
        rw [List.cons_append] at htake hdrop
        simp only [List.cons_append, wholePart?, hzero, hc, if_false, if_true, htake, hdrop]
      · simp [wholePart?, hzero, hc] at ht

theorem fractionPart?_point (t : Text) : fractionPart? ('.' :: t) =
    if (t.takeWhile Char.isDigit).isEmpty then none
    else some (t.takeWhile Char.isDigit, t.drop (t.takeWhile Char.isDigit).length) := rfl

theorem fractionPart?_of_ne (hc : c ≠ '.') : fractionPart? (c :: t) = none := by
  simp [fractionPart?, hc]

theorem fractionPart?_append (h : NoDigit rest) (ht : fractionPart? t = some (digits, r)) :
    fractionPart? (t ++ rest) = some (digits, r ++ rest) := by
  cases t with
  | nil => cases ht
  | cons c t =>
    by_cases hc : c = '.'
    · subst hc
      rw [List.cons_append, fractionPart?_point, takeWhile_isDigit_append h, drop_takeWhile_append]
      rw [fractionPart?_point] at ht
      by_cases hempty : (t.takeWhile Char.isDigit).isEmpty = true
      · simp [hempty] at ht
      · rw [if_neg hempty] at ht ⊢
        cases ht
        rfl
    · rw [fractionPart?_of_ne hc] at ht
      cases ht

theorem exponentPart?_append (h : NoDigit rest) (ht : exponentPart? t = some (e, r)) :
    exponentPart? (t ++ rest) = some (e, r ++ rest) := by
  cases t with
  | nil => cases ht
  | cons c t =>
    by_cases hc : c = 'e' ∨ c = 'E'
    · simp only [exponentPart?, hc, if_true] at ht
      simpa only [List.cons_append, exponentPart?, hc, if_true] using
        Written.exponent?_append h ht
    · simp [exponentPart?, hc] at ht

theorem fractionPart?_eq_none (h : AfterValue rest) : fractionPart? rest = none := by
  cases rest with
  | nil => rfl
  | cons c rest =>
    have hall : ∀ c ∈ valueStops, c ≠ '.' := by simp [valueStops]
    exact fractionPart?_of_ne (hall c (h c rfl))

theorem exponentPart?_eq_none (h : AfterValue rest) : exponentPart? rest = none := by
  cases rest with
  | nil => rfl
  | cons c rest =>
    have hall : ∀ c ∈ valueStops, ¬ (c = 'e' ∨ c = 'E') := by simp [valueStops]
    simp [exponentPart?, hall c (h c rfl)]

/-- An exponent starts with its mark, so no fraction can be read there. -/
theorem fractionPart?_append_of_exponent (ht : exponentPart? t = some (e, r)) :
    fractionPart? (t ++ rest) = none := by
  cases t with
  | nil => cases ht
  | cons c t =>
    refine fractionPart?_of_ne ?_
    rintro rfl
    simp [exponentPart?] at ht

theorem unsignedNumber_append {n : Number} {whole : Text} (h : AfterValue rest)
    (ht : unsignedNumber negative whole r = .ok (n, [])) :
    unsignedNumber negative whole (r ++ rest) = .ok (n, rest) := by
  rw [unsignedNumber] at ht ⊢
  cases hf : fractionPart? r with
  | none =>
    cases he : exponentPart? r with
    | none =>
      rw [hf, he] at ht
      cases hn : Numeral.read whole with
      | error error => simp [hn] at ht
      | ok m =>
        obtain ⟨rfl, rfl⟩ : _ ∧ r = [] := by simpa [hn] using ht
        simp [fractionPart?_eq_none h, exponentPart?_eq_none h]
    | some exponent =>
      obtain ⟨e, r'⟩ := exponent
      obtain ⟨rfl, rfl⟩ : _ ∧ r' = [] := by simpa [hf, he] using ht
      rw [fractionPart?_append_of_exponent he, exponentPart?_append h.noDigit he]
      rfl
  | some fraction =>
    obtain ⟨digits, r'⟩ := fraction
    rw [fractionPart?_append h.noDigit hf]
    cases he : exponentPart? r' with
    | none =>
      obtain ⟨rfl, rfl⟩ : _ ∧ r' = [] := by simpa [hf, he] using ht
      simp [exponentPart?_eq_none h]
    | some exponent =>
      obtain ⟨e, r''⟩ := exponent
      obtain ⟨rfl, rfl⟩ : _ ∧ r'' = [] := by simpa [hf, he] using ht
      simp [exponentPart?_append h.noDigit he]

/-- The digits of a number, and what follows them. -/
def digitsOrFault (negative : Bool) (t digits : Text) : Reading Number :=
  match wholePart? digits with
  | some (whole, rest) => unsignedNumber negative whole rest
  | none => .error (.fault .value t)

theorem number_cons (c : Char) (t : Text) : number (c :: t) =
    if c = '-' then digitsOrFault true (c :: t) t else digitsOrFault false (c :: t) (c :: t) := by
  by_cases hminus : c = '-'
  · subst hminus
    rfl
  · rw [number, if_neg hminus]
    · rfl
    · intro rest hcons
      exact hminus (List.cons.inj hcons).1

theorem digitsOrFault_append {n : Number} {u : Text} (h : AfterValue rest)
    (hu : digitsOrFault negative t u = .ok (n, [])) :
    digitsOrFault negative (t ++ rest) (u ++ rest) = .ok (n, rest) := by
  rw [digitsOrFault] at hu ⊢
  cases hw : wholePart? u with
  | none => simp [hw] at hu
  | some whole =>
    obtain ⟨digits, r⟩ := whole
    rw [hw] at hu
    rw [wholePart?_append h.noDigit hw]
    exact unsignedNumber_append h hu

/-- A number that ends a text is read in the same way where more follows. -/
theorem number_append {n : Number} (h : AfterValue rest) (ht : number t = .ok (n, [])) :
    number (t ++ rest) = .ok (n, rest) := by
  cases t with
  | nil => cases ht
  | cons c t =>
    rw [List.cons_append, number_cons]
    rw [number_cons] at ht
    by_cases hminus : c = '-'
    · rw [if_pos hminus] at ht ⊢
      exact digitsOrFault_append (t := c :: t) h ht
    · rw [if_neg hminus] at ht ⊢
      exact digitsOrFault_append (t := c :: t) h ht

theorem wholePart?_head (ht : wholePart? t = some (digits, r)) :
    ∃ c ∈ t.head?, c.isDigit = true := by
  cases t with
  | nil => cases ht
  | cons c t =>
    by_cases hzero : c = '0'
    · exact ⟨c, rfl, by rw [hzero]; decide⟩
    · by_cases hc : c.isDigit = true
      · exact ⟨c, rfl, hc⟩
      · simp [wholePart?, hzero, hc] at ht

theorem digitsOrFault_head {u : Text} {p : Number × Text}
    (hu : digitsOrFault negative t u = .ok p) : ∃ c v, u = c :: v ∧ c.isDigit = true := by
  rw [digitsOrFault] at hu
  cases hw : wholePart? u with
  | none => simp [hw] at hu
  | some whole =>
    obtain ⟨c, hc, hdigit⟩ := wholePart?_head hw
    obtain ⟨v, rfl⟩ := List.head?_eq_some_iff.1 hc
    exact ⟨c, v, rfl, hdigit⟩

/-- A number starts with a digit, perhaps after a minus sign. -/
theorem number_head {p : Number × Text} (ht : number t = .ok p) :
    ∃ c u, c.isDigit = true ∧ (t = c :: u ∨ t = '-' :: c :: u) := by
  cases t with
  | nil => cases ht
  | cons c t =>
    rw [number_cons] at ht
    by_cases hminus : c = '-'
    · rw [if_pos hminus] at ht
      obtain ⟨d, u, rfl, hd⟩ := digitsOrFault_head ht
      exact ⟨d, u, hd, Or.inr (by rw [hminus])⟩
    · rw [if_neg hminus] at ht
      obtain ⟨d, u, hdu, hd⟩ := digitsOrFault_head ht
      exact ⟨d, u, hd, Or.inl hdu⟩

/-- White space, the marks of other kinds of values, and the mark of the byte order. -/
def notScalar : List Char :=
  [' ', '\t', '\n', '\r', '"', '[', ']', '\x7b', '\x7d', '\ufeff']

theorem wordValues_letters : ∀ word ∈ wordValues, ∃ a b rest, word.1 = a :: b :: rest ∧
    a.isDigit = false ∧ b.isDigit = false ∧ a ∉ notScalar := by
  intro word hword
  simp only [wordValues, List.mem_cons, List.not_mem_nil, or_false] at hword
  rcases hword with rfl | rfl | rfl | rfl | rfl | rfl
  all_goals exact ⟨_, _, _, rfl, by decide, by decide, by decide⟩

/-- No word is taken for a number. -/
theorem wordValues_find?_eq_none {p : Number × Text} (ht : number t = .ok p) :
    wordValues.find? (fun (word, _) => word.isPrefixOf (t ++ rest)) = none := by
  obtain ⟨c, u, hc, ht⟩ := number_head ht
  refine List.find?_eq_none.2 fun word hword hfit => ?_
  obtain ⟨a, b, more, hletters, ha, hb, _⟩ := wordValues_letters word hword
  have hfit : word.1 <+: t ++ rest := List.isPrefixOf_iff_prefix.1 hfit
  rcases ht with rfl | rfl
  · rw [hletters, List.cons_append, List.cons_prefix_cons] at hfit
    rw [hfit.1, hc] at ha
    cases ha
  · rw [hletters, List.cons_append, List.cons_append, List.cons_prefix_cons,
      List.cons_prefix_cons] at hfit
    rw [hfit.2.1, hc] at hb
    cases hb

theorem scalar_of_number {n : Number} (ht : number t = .ok (n, [])) :
    scalar t = .ok (.num n, []) := by
  rw [← List.append_nil t, scalar, wordValues_find?_eq_none ht, List.append_nil, ht]
  rfl

/-- What is read is one of the words or a number. -/
theorem scalar_cases {v : Json} (ht : scalar t = .ok (v, r)) :
    (∃ word, (word, v) ∈ wordValues ∧ t = word ++ r) ∨
      ∃ n, v = .num n ∧ number t = .ok (n, r) := by
  rw [scalar] at ht
  cases hfind : wordValues.find? (fun (word, _) => word.isPrefixOf t) with
  | some found =>
    obtain ⟨word, value⟩ := found
    rw [hfind] at ht
    have hfits := List.find?_some (p := fun (x : Text × Json) => x.1.isPrefixOf t) hfind
    obtain ⟨back, rfl⟩ : word <+: t := List.isPrefixOf_iff_prefix.1 hfits
    obtain ⟨rfl, rfl⟩ : value = v ∧ back = r := by simpa using ht
    exact Or.inl ⟨word, List.mem_of_find?_eq_some hfind, rfl⟩
  | none =>
    rw [hfind] at ht
    obtain ⟨⟨n, r'⟩, hnumber, hpair⟩ := map_eq_ok.1 ht
    cases hpair
    exact Or.inr ⟨n, rfl, hnumber⟩

theorem scalar_append {v : Json} (h : AfterValue rest) (ht : scalar t = .ok (v, [])) :
    scalar (t ++ rest) = .ok (v, rest) := by
  rcases scalar_cases ht with ⟨word, hmem, rfl⟩ | ⟨n, rfl, hnumber⟩
  · rw [List.append_nil]
    simp only [wordValues, List.mem_cons, List.not_mem_nil, or_false, Prod.mk.injEq] at hmem
    rcases hmem with ⟨rfl, rfl⟩ | ⟨rfl, rfl⟩ | ⟨rfl, rfl⟩ | ⟨rfl, rfl⟩ | ⟨rfl, rfl⟩ | ⟨rfl, rfl⟩
    all_goals rfl
  · rw [scalar, wordValues_find?_eq_none hnumber, number_append h hnumber]
    rfl

/-- A word or a number starts neither with white space nor with the mark of another value. -/
theorem scalar_head {v : Json} (ht : scalar t = .ok (v, r)) :
    ∃ c u, t = c :: u ∧ c ∉ notScalar := by
  rcases scalar_cases ht with ⟨word, hmem, rfl⟩ | ⟨n, rfl, hnumber⟩
  · obtain ⟨c, d, u, hletters, _, _, hc⟩ := wordValues_letters (word, v) hmem
    rw [show word = c :: d :: u from hletters]
    exact ⟨c, d :: u ++ r, rfl, hc⟩
  · have hdigits : ∀ c ∈ notScalar, c.isDigit = false :=
      List.all_iff_forall_prop.1 (by decide)
    obtain ⟨c, u, hc, rfl | rfl⟩ := number_head hnumber
    · refine ⟨c, u, rfl, fun hmem => ?_⟩
      rw [hdigits c hmem] at hc
      cases hc
    · exact ⟨'-', c :: u, rfl, by decide⟩

end Json

end FlowTalk
