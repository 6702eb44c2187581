import FlowTalk.Json.Shown
import FlowTalk.Proofs.Json.Grammar
import Mathlib.Data.List.Infix
import Mathlib.Data.List.TakeWhile
import Mathlib.Order.MinMax

/-! A text that is not read because of a limit has a run of too many digits or too many brackets. -/
namespace FlowTalk

variable {α β : Type} {t u r rest whole digits : Text} {negative : Bool} {e : Int} {c : Char}
variable {fuel depth : ℕ}

namespace Json

/-- The number of brackets and braces that open, those in strings among them. -/
def openings (t : Text) : ℕ := t.countP fun c => c == '[' || c == '\x7b'

/-- More digits stand in a row than a numeral may have. -/
def LongRun (t : Text) : Prop :=
  ∃ ds, ds <:+: t ∧ (∀ c ∈ ds, c.isDigit = true) ∧ maxDigits < ds.length

theorem openings_le (h : u <:+ t) : openings u ≤ openings t := h.sublist.countP_le

theorem LongRun.of_suffix (hlong : LongRun u) (h : u <:+ t) : LongRun t := by
  obtain ⟨ds, hds, hdigits⟩ := hlong
  exact ⟨ds, hds.trans h.isInfix, hdigits⟩

/-- What reading from the front of a text comes to where arrays and objects may be nested so deep:
something and a shorter rest, a fault, or a limit for which the text gives cause. -/
structure Bounded (depth : ℕ) (t : Text) (r : Reading α) : Prop where
  rest : ∀ a rest, r = .ok (a, rest) → rest <:+ t ∧ rest.length < t.length
  long : r = .error .numeralTooLong → LongRun t
  deep : r = .error .tooDeep → depth < openings t

namespace Bounded

theorem done {a : α} (hrest : rest <:+ t) (hlt : rest.length < t.length) :
    Bounded depth t (.ok (a, rest) : Reading α) := by
  refine ⟨fun b r h => ?_, nofun, nofun⟩
  cases h
  exact ⟨hrest, hlt⟩

theorem fault (fault : SyntaxFault) (place : Text) :
    Bounded depth t (.error (.fault fault place) : Reading α) := ⟨nofun, nofun, nofun⟩

theorem tooLong (h : LongRun t) : Bounded depth t (.error .numeralTooLong : Reading α) :=
  ⟨nofun, fun _ => h, nofun⟩

/-- What stops the reading of a part stops that of the whole. -/
theorem stopped {stop : Stop} (h : Bounded depth t (.error stop : Reading α)) :
    Bounded depth t (.error stop : Reading β) :=
  ⟨nofun, fun hr => h.long (by cases hr; rfl), fun hr => h.deep (by cases hr; rfl)⟩

theorem map {x : Reading α} (h : Bounded depth t x) (f : α → β) :
    Bounded depth t (x.map fun (a, rest) => (f a, rest)) := by
  cases x with
  | error stop => exact h.stopped
  | ok read =>
    obtain ⟨hrest, hlt⟩ := h.rest read.1 read.2 rfl
    exact done hrest hlt

theorem of_suffix {x : Reading α} (h : Bounded depth u x) (hu : u <:+ t) : Bounded depth t x where
  rest a rest hr := by
    obtain ⟨hrest, hlt⟩ := h.rest a rest hr
    exact ⟨hrest.trans hu, hlt.trans_le hu.length_le⟩
  long hr := (h.long hr).of_suffix hu
  deep hr := (h.deep hr).trans_le (openings_le hu)

end Bounded

/-! Strings and numbers -/

theorem skipSpaces_isSuffix (t : Text) : skipSpaces t <:+ t := List.dropWhile_suffix isSpace

/-- What is left after white space and a character. -/
theorem skipSpaces_cons (h : skipSpaces t = c :: r) : r <:+ t ∧ r.length < t.length := by
  have hskip : c :: r <:+ t := h ▸ skipSpaces_isSuffix t
  have hlength := hskip.length_le
  rw [List.length_cons] at hlength
  exact ⟨(List.suffix_cons c r).trans hskip, by omega⟩

theorem stringUnits_bounded (opening t : Text) : Bounded depth t (stringUnits opening t) := by
  fun_induction stringUnits opening t with
  | case1 => exact .fault _ _
  | case2 rest => exact .done (List.suffix_cons _ rest) (Nat.lt_succ_self _)
  | case3 => exact .fault _ _
  | case4 h₁ h₂ h₃ h₄ next tail unit _ _ ih =>
    -- an escape of four hexadecimal digits; `next` is not read with it
    have htail : next :: tail <:+ '\\' :: 'u' :: h₁ :: h₂ :: h₃ :: h₄ :: next :: tail :=
      List.suffix_append ['\\', 'u', h₁, h₂, h₃, h₄] (next :: tail)
    exact (ih.map (unit :: ·)).of_suffix htail
  | case5 | case6 => exact .fault _ _
  | case7 e rest _ x _ _ ih =>
    -- an escape of one letter
    exact (ih.map (x.toNat :: ·)).of_suffix (List.suffix_append ['\\', e] rest)
  | case8 | case9 => exact .fault _ _
  | case10 c rest _ _ _ ih => exact (ih.map (c.toNat :: ·)).of_suffix (List.suffix_cons c rest)

theorem string_bounded (opening t : Text) : Bounded depth t (string opening t) :=
  (stringUnits_bounded opening t).map Text.ofUnits

/-- Only an integer may be too long. -/
theorem unsignedNumber_bounded (ht : t = whole ++ rest) (hne : whole ≠ [])
    (hwhole : ∀ c ∈ whole, c.isDigit = true) :
    Bounded depth t (unsignedNumber negative whole rest) := by
  have hrest : rest <:+ t := ht ▸ List.suffix_append whole rest
  have hlt : rest.length < t.length := by
    have hpos := List.length_pos_iff.2 hne
    rw [ht, List.length_append]
    omega
  have hdone {n : Number} {r : Text} (hr : r <:+ rest) :
      Bounded depth t (.ok (n, r) : Reading Number) :=
    .done (hr.trans hrest) (hr.length_le.trans_lt hlt)
  rw [unsignedNumber]
  cases hf : fractionPart? rest with
  | none =>
    cases he : exponentPart? rest with
    | none =>
      rw [Numeral.read]
      by_cases hshort : whole.length ≤ maxDigits
      · rw [if_pos hshort]
        exact hdone (List.suffix_refl rest)
      · rw [if_neg hshort]
        have hinfix : whole <:+: t := ht ▸ (List.prefix_append whole rest).isInfix
        exact .tooLong ⟨whole, hinfix, hwhole, Nat.not_le.1 hshort⟩
    | some exponent =>
      obtain ⟨e, r⟩ := exponent
      obtain ⟨u, hu, _⟩ := exponentPart?_front he
      exact hdone ⟨u, hu.symm⟩
  | some fraction =>
    obtain ⟨digits, r⟩ := fraction
    obtain ⟨u, hu, _⟩ := fractionPart?_front hf
    have hr : r <:+ rest := ⟨u, hu.symm⟩
    cases he : exponentPart? r with
    | none => simpa only [he] using hdone hr
    | some exponent =>
      obtain ⟨e, r'⟩ := exponent
      obtain ⟨v, hv, _⟩ := exponentPart?_front he
      have hr' : r' <:+ r := ⟨v, hv.symm⟩
      simpa only [he] using hdone (hr'.trans hr)

theorem digitsOrFault_bounded (t u : Text) :
    Bounded depth u (digitsOrFault negative t u) := by
  rw [digitsOrFault]
  cases hw : wholePart? u with
  | none => exact .fault _ _
  | some whole =>
    obtain ⟨hu, hne, hdigits⟩ := wholePart?_eq hw
    exact unsignedNumber_bounded hu hne hdigits

theorem number_bounded (t : Text) : Bounded depth t (number t) := by
  cases t with
  | nil => exact .fault _ _
  | cons c t =>
    rw [number_cons]
    by_cases hminus : c = '-'
    · rw [if_pos hminus]
      exact (digitsOrFault_bounded _ t).of_suffix (List.suffix_cons c t)
    · rw [if_neg hminus]
      exact digitsOrFault_bounded _ _

theorem scalar_bounded (t : Text) : Bounded depth t (scalar t) := by
  rw [scalar]
  split
  · next word v hfind =>
    have hfits := List.find?_some (p := fun (x : Text × Json) => x.1.isPrefixOf t) hfind
    have hfit : word <+: t := List.isPrefixOf_iff_prefix.1 hfits
    obtain ⟨a, b, more, hletters, _⟩ := wordValues_letters _ (List.mem_of_find?_eq_some hfind)
    obtain rfl : word = a :: b :: more := hletters
    have hlength := hfit.length_le
    refine .done (List.drop_suffix _ t) ?_
    simp only [List.length_drop, List.length_cons] at hlength ⊢
    omega
  · exact (number_bounded t).map Json.num

/-! Values -/

/-- What stands after a bracket or a brace that opens is read at one level less. -/
theorem Bounded.opened {x : Reading α} (hc : c = '[' ∨ c = '\x7b') (h : Bounded depth rest x) :
    Bounded (depth + 1) (c :: rest) x := by
  have hrest := List.suffix_cons c rest
  have hcount : openings (c :: rest) = openings rest + 1 := by
    rw [openings, List.countP_cons_of_pos (by rcases hc with rfl | rfl <;> rfl), openings]
  refine ⟨(h.of_suffix hrest).rest, (h.of_suffix hrest).long, fun hr => ?_⟩
  rw [hcount]
  exact Nat.succ_lt_succ (h.deep hr)

theorem Bounded.tooDeep (hc : c = '[' ∨ c = '\x7b') :
    Bounded 0 (c :: rest) (.error .tooDeep : Reading α) := by
  refine ⟨nofun, nofun, fun _ => ?_⟩
  rw [openings, List.countP_cons_of_pos (by rcases hc with rfl | rfl <;> rfl)]
  exact Nat.succ_pos _

/-- So many steps are enough to read whatever is at the front of a text. -/
structure Adequate (fuel : ℕ) : Prop where
  value : ∀ depth t, 2 * t.length + 1 ≤ fuel → Bounded depth t (value fuel depth t)
  items : ∀ depth t, 2 * t.length + 2 ≤ fuel → Bounded depth t (items fuel depth t)
  members : ∀ depth t, 2 * t.length + 2 ≤ fuel → Bounded depth t (members fuel depth t)

section Steps

variable (ih : Adequate fuel)

include ih

theorem value_bounded (h : 2 * t.length + 1 ≤ fuel + 1) :
    Bounded depth t (value (fuel + 1) depth t) := by
  cases t with
  | nil => exact .fault _ _
  | cons c rest =>
    have hskip := skipSpaces_isSuffix rest
    have hfuel : 2 * (skipSpaces rest).length + 2 ≤ fuel := by
      have hlength := hskip.length_le
      rw [List.length_cons] at h
      omega
    rw [value.eq_def]
    dsimp only
    by_cases hquote : c = '"'
    · rw [if_pos hquote]
      exact ((string_bounded _ rest).map Json.str).of_suffix (List.suffix_cons c rest)
    · rw [if_neg hquote]
      by_cases hbrace : c = '\x7b'
      · rw [if_pos hbrace]
        cases depth with
        | zero => exact .tooDeep (Or.inr hbrace)
        | succ depth =>
          refine .opened (Or.inr hbrace) ?_
          dsimp only
          split
          · next u hu =>
            obtain ⟨hu, hlt⟩ := skipSpaces_cons hu
            exact .done hu hlt
          · have hmembers := ih.members depth (skipSpaces rest) hfuel
            exact (hmembers.map fun ms => Json.obj (distinctMembers ms)).of_suffix hskip
      · rw [if_neg hbrace]
        by_cases hbracket : c = '['
        · rw [if_pos hbracket]
          cases depth with
          | zero => exact .tooDeep (Or.inl hbracket)
          | succ depth =>
            refine .opened (Or.inl hbracket) ?_
            dsimp only
            split
            · next u hu =>
              obtain ⟨hu, hlt⟩ := skipSpaces_cons hu
              exact .done hu hlt
            · exact ((ih.items depth _ hfuel).map Json.arr).of_suffix hskip
        · rw [if_neg hbracket]
          exact scalar_bounded _

theorem items_bounded (h : 2 * t.length + 2 ≤ fuel + 1) :
    Bounded depth t (items (fuel + 1) depth t) := by
  have hvalue := ih.value depth t (by omega)
  rw [items]
  cases hread : value fuel depth t with
  | error stop => exact (hread ▸ hvalue).stopped
  | ok read =>
    obtain ⟨v, r⟩ := read
    obtain ⟨hr, hlt⟩ := hvalue.rest v r hread
    dsimp only
    split
    · next u hu =>
      obtain ⟨hu, hlt'⟩ := skipSpaces_cons hu
      exact .done (hu.trans hr) (by omega)
    · next u hu =>
      obtain ⟨hu, hlt'⟩ := skipSpaces_cons hu
      have hlength := (skipSpaces_isSuffix u).length_le
      have hitems := ih.items depth (skipSpaces u) (by omega)
      exact (hitems.map (v :: ·)).of_suffix ((skipSpaces_isSuffix u).trans (hu.trans hr))
    · exact .fault _ _

/-- A member after its name and the colon. -/
def membersAfterColon (fuel depth : ℕ) (name t : Text) : Reading (List (Text × Json)) :=
  match value fuel depth t with
  | .error stop => .error stop
  | .ok (v, rest) =>
    match skipSpaces rest with
    | '\x7d' :: rest => .ok ([(name, v)], rest)
    | ',' :: rest =>
      (members fuel depth (skipSpaces rest)).map fun (ms, rest) => ((name, v) :: ms, rest)
    | rest => .error (.fault .comma rest)

theorem membersAfterColon_bounded (name : Text) (h : 2 * t.length + 2 ≤ fuel) :
    Bounded depth t (membersAfterColon fuel depth name t) := by
  have hvalue := ih.value depth t (by omega)
  rw [membersAfterColon]
  cases hread : value fuel depth t with
  | error stop => exact (hread ▸ hvalue).stopped
  | ok read =>
    obtain ⟨v, r⟩ := read
    obtain ⟨hr, hlt⟩ := hvalue.rest v r hread
    dsimp only
    split
    · next u hu =>
      obtain ⟨hu, hlt'⟩ := skipSpaces_cons hu
      exact .done (hu.trans hr) (by omega)
    · next u hu =>
      obtain ⟨hu, hlt'⟩ := skipSpaces_cons hu
      have hlength := (skipSpaces_isSuffix u).length_le
      have hmembers := ih.members depth (skipSpaces u) (by omega)
      exact (hmembers.map ((name, v) :: ·)).of_suffix ((skipSpaces_isSuffix u).trans (hu.trans hr))
    · exact .fault _ _

theorem members_bounded (h : 2 * t.length + 2 ≤ fuel + 1) :
    Bounded depth t (members (fuel + 1) depth t) := by
  rw [members.eq_def]
  dsimp only
  split
  · next r =>
    have hr : r <:+ '"' :: r := List.suffix_cons _ r
    have hstring : Bounded depth r (string ('"' :: r) r) := string_bounded _ r
    rw [List.length_cons] at h
    cases hname : string ('"' :: r) r with
    | error stop => exact ((hname ▸ hstring).of_suffix hr).stopped
    | ok read =>
      obtain ⟨name, u⟩ := read
      obtain ⟨hu, hlt⟩ := hstring.rest name u hname
      dsimp only
      split
      · next v hv =>
        obtain ⟨hv, hlt'⟩ := skipSpaces_cons hv
        have hlength := (skipSpaces_isSuffix v).length_le
        have hskip := (skipSpaces_isSuffix v).trans (hv.trans (hu.trans hr))
        exact (membersAfterColon_bounded ih name (by omega)).of_suffix hskip
      · exact .fault _ _
  · exact .fault _ _

end Steps

theorem adequate (fuel : ℕ) : Adequate fuel := by
  induction fuel with
  | zero => exact ⟨fun _ _ h => by omega, fun _ _ h => by omega, fun _ _ h => by omega⟩
  | succ fuel ih =>
    exact ⟨fun _ _ h => value_bounded ih h, fun _ _ h => items_bounded ih h,
      fun _ _ h => members_bounded ih h⟩

theorem document_limits (t : Text) : (document t = .error .numeralTooLong → LongRun t) ∧
    (document t = .error .tooDeep → maxDepth < openings t) := by
  have hskip := skipSpaces_isSuffix t
  have hlength := hskip.length_le
  have hvalue := ((adequate (stepBound t)).value maxDepth (skipSpaces t)
    (by rw [stepBound]; omega)).of_suffix hskip
  rw [document]
  cases hread : value (stepBound t) maxDepth (skipSpaces t) with
  | error stop =>
    rw [hread] at hvalue
    exact ⟨fun h => hvalue.long (by cases h; rfl), fun h => hvalue.deep (by cases h; rfl)⟩
  | ok read =>
    dsimp only
    split <;> exact ⟨nofun, nofun⟩

/-- A text is refused for its numerals or its depth only if it has too long a run of digits or too
many brackets. -/
theorem read_limits (t : Text) : (read t = .error .numeralTooLong → LongRun t) ∧
    (read t = .error .tooDeep → maxDepth < openings t) := by
  obtain ⟨hlong, hdeep⟩ := document_limits t
  rw [read]
  by_cases hmark : t.head? = some '\ufeff'
  · rw [if_pos hmark]
    exact ⟨nofun, nofun⟩
  · rw [if_neg hmark, readUnmarked]
    cases hread : document t with
    | ok v => exact ⟨nofun, nofun⟩
    | error stop =>
      rw [hread] at hlong hdeep
      cases stop with
      | fault fault rest => exact ⟨nofun, nofun⟩
      | numeralTooLong => exact ⟨fun _ => hlong rfl, nofun⟩
      | tooDeep => exact ⟨nofun, fun _ => hdeep rfl⟩

end Json

end FlowTalk
