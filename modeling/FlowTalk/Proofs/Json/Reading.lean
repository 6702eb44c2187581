import FlowTalk.Proofs.Json.Grammar

/-! Every text of the grammar is read, and so a text is read exactly if it is one. -/
namespace FlowTalk.Json

variable {d fuel : ℕ} {t u w n rest gap gap' opening name : Text} {us : List ℕ} {v : Json}
  {vs : List Json} {ms : List (Text × Json)} {c : Char} {part : Part}

theorem Units.stringUnits (h : Units u us) :
    stringUnits opening (u ++ '"' :: rest) = .ok (us, rest) := by
  induction h with
  | nil =>
    rw [Json.stringUnits.eq_def]
    rfl
  | plain hquote hslash hc _ ih =>
    rw [List.cons_append, Json.stringUnits.eq_def]
    simp [hquote, hslash, Nat.not_lt.2 hc, ih, Except.map]
  | escape he hx _ ih =>
    rw [List.cons_append, List.cons_append, Json.stringUnits.eq_def]
    simp [he, hx, ih, Except.map]
  | @unit _ _ _ _ _ u _ hn _ ih =>
    -- the code unit is read only if something follows it, and the closing quote does
    obtain ⟨next, tail, hnext⟩ : ∃ next tail, u ++ '"' :: rest = next :: tail :=
      List.exists_cons_of_ne_nil (by simp)
    simp only [List.cons_append, hnext] at ih ⊢
    rw [Json.stringUnits.eq_def]
    simp [hn, ih, Except.map]

theorem Units.string (h : Units u us) :
    string opening (u ++ '"' :: rest) = .ok (Text.ofUnits us, rest) := by
  rw [Json.string, h.stringUnits]
  rfl

/-- The text starts with a character that is neither white space nor the end of an array or an
object nor the mark of the byte order. -/
def Starts (t : Text) : Prop :=
  ∃ c u, t = c :: u ∧ isSpace c = false ∧ c ≠ ']' ∧ c ≠ '\x7d' ∧ c ≠ '\ufeff'

theorem Starts.append (h : Starts t) (rest : Text) : Starts (t ++ rest) := by
  obtain ⟨c, u, rfl, hc⟩ := h
  exact ⟨c, u ++ rest, rfl, hc⟩

theorem Spelled.starts (h : Spelled d part u) : Starts u := by
  induction h with
  | scalar h =>
    obtain ⟨c, u, rfl, hc⟩ := scalar_head h
    simp only [notScalar, List.mem_cons, List.not_mem_nil, or_false, not_or] at hc
    obtain ⟨hspace, htab, hline, hreturn, _, _, hclose, _, hbrace, hmark⟩ := hc
    exact ⟨c, u, rfl, by simp [isSpace, hspace, htab, hline, hreturn], hclose, hbrace, hmark⟩
  | str | noItems | arr | noMembers | obj | named => exact ⟨_, _, rfl, by decide⟩
  | lastItem _ _ ih | item _ _ _ _ ih _ | lastMember _ _ ih | moreMembers _ _ _ _ ih _ =>
    exact ih.append _

theorem skipSpaces_starts (hgap : Spacing gap) (ht : Starts t) : skipSpaces (gap ++ t) = t := by
  obtain ⟨c, u, rfl, hspace, _⟩ := ht
  rw [skipSpaces, List.dropWhile_append_of_pos hgap, List.dropWhile_cons_of_neg (by simp [hspace])]

theorem skipSpaces_append (hgap : Spacing gap) (hc : isSpace c = false) :
    skipSpaces (gap ++ c :: rest) = c :: rest := by
  rw [skipSpaces, List.dropWhile_append_of_pos hgap, List.dropWhile_cons_of_neg (by simp [hc])]

theorem afterValue_spacing (hgap : Spacing gap) (h : AfterValue t) : AfterValue (gap ++ t) := by
  cases gap with
  | nil => exact h
  | cons c gap =>
    have hc : isSpace c = true := hgap c (by simp)
    refine .cons ?_
    simp only [isSpace, Bool.or_eq_true, beq_iff_eq] at hc
    simp only [valueStops, List.mem_cons]
    tauto

/-- What is read behind a member of an object. -/
def afterMember (fuel depth : ℕ) (m : Text × Json) (t : Text) : Reading (List (Text × Json)) :=
  match skipSpaces t with
  | '\x7d' :: rest => .ok ([m], rest)
  | ',' :: rest =>
    (members fuel depth (skipSpaces rest)).map fun (ms, rest) => (m :: ms, rest)
  | rest => .error (.fault .comma rest)

/-- The text is read as the part, whatever may follow. Twice as many steps as it has characters are
enough. -/
def ReadAs (d : ℕ) : Part → Text → Prop
  | .value v, u => ∀ fuel rest, AfterValue rest → 2 * u.length ≤ fuel →
      value fuel d (u ++ rest) = .ok (v, rest)
  | .member name v, u => ∀ fuel rest, AfterValue rest → 2 * u.length ≤ fuel →
      members (fuel + 1) d (u ++ rest) = afterMember fuel d (name, v) rest
  | .items vs, u => ∀ fuel rest, 2 * u.length ≤ fuel → items fuel d (u ++ rest) = .ok (vs, rest)
  | .members ms, u => ∀ fuel rest, 2 * u.length ≤ fuel →
      members fuel d (u ++ rest) = .ok (ms, rest)

/-- A step bound for a text leaves one for the text after its first character. -/
theorem step_left (h : 2 * (c :: t).length ≤ fuel) :
    ∃ left, fuel = left + 1 ∧ 2 * t.length < left := by
  rw [List.length_cons] at h
  exact ⟨fuel - 1, by omega, by omega⟩

theorem value_of_bracket (hskip : skipSpaces rest = c :: u) (hc : c ≠ ']') :
    value (fuel + 1) (d + 1) ('[' :: rest) =
      (items fuel d (c :: u)).map fun (vs, rest) => (.arr vs, rest) := by
  simp [value, hskip, hc]

theorem value_of_brace (hskip : skipSpaces rest = c :: u) (hc : c ≠ '\x7d') :
    value (fuel + 1) (d + 1) ('\x7b' :: rest) =
      (members fuel d (c :: u)).map fun (ms, rest) => (.obj (distinctMembers ms), rest) := by
  simp [value, hskip, hc]

theorem readAs_scalar (h : scalar u = .ok (v, [])) : ReadAs d (.value v) u := by
  intro fuel rest hrest hfuel
  obtain ⟨c, u, rfl, hc⟩ := scalar_head h
  simp only [notScalar, List.mem_cons, List.not_mem_nil, or_false, not_or] at hc
  obtain ⟨_, _, _, _, hquote, hbracket, _, hbrace, _⟩ := hc
  obtain ⟨fuel, rfl, _⟩ := step_left hfuel
  rw [← scalar_append hrest h, List.cons_append]
  simp [value, hquote, hbracket, hbrace]

theorem readAs_str (h : Units u us) :
    ReadAs d (.value (.str (Text.ofUnits us))) ('"' :: (u ++ ['"'])) := by
  intro fuel rest _ hfuel
  obtain ⟨fuel, rfl, _⟩ := step_left hfuel
  rw [List.cons_append, List.append_assoc, List.singleton_append]
  simp [value, h.string, Except.map]

theorem readAs_noItems (hgap : Spacing gap) :
    ReadAs (d + 1) (.value (.arr [])) ('[' :: (gap ++ [']'])) := by
  intro fuel rest _ hfuel
  obtain ⟨fuel, rfl, _⟩ := step_left hfuel
  rw [List.cons_append, List.append_assoc, List.singleton_append]
  simp [value, skipSpaces_append hgap (show isSpace ']' = false by decide)]

theorem readAs_noMembers (hgap : Spacing gap) :
    ReadAs (d + 1) (.value (.obj [])) ('\x7b' :: (gap ++ ['\x7d'])) := by
  intro fuel rest _ hfuel
  obtain ⟨fuel, rfl, _⟩ := step_left hfuel
  rw [List.cons_append, List.append_assoc, List.singleton_append]
  simp [value, skipSpaces_append hgap (show isSpace '\x7d' = false by decide)]

namespace ReadAs

theorem arr (hgap : Spacing gap) (hstarts : Starts u) (h : ReadAs d (.items vs) u) :
    ReadAs (d + 1) (.value (.arr vs)) ('[' :: (gap ++ u)) := by
  intro fuel rest _ hfuel
  obtain ⟨fuel, rfl, hleft⟩ := step_left hfuel
  rw [List.length_append] at hleft
  have hstarts := hstarts.append rest
  have hskip := skipSpaces_starts hgap hstarts
  have hread := h fuel rest (by omega)
  obtain ⟨c, t, hct, _, hclose, _⟩ := hstarts
  rw [List.cons_append, List.append_assoc]
  rw [hct] at hskip hread ⊢
  rw [value_of_bracket hskip hclose, hread]
  rfl

theorem obj (hgap : Spacing gap) (hstarts : Starts u) (h : ReadAs d (.members ms) u) :
    ReadAs (d + 1) (.value (.obj (distinctMembers ms))) ('\x7b' :: (gap ++ u)) := by
  intro fuel rest _ hfuel
  obtain ⟨fuel, rfl, hleft⟩ := step_left hfuel
  rw [List.length_append] at hleft
  have hstarts := hstarts.append rest
  have hskip := skipSpaces_starts hgap hstarts
  have hread := h fuel rest (by omega)
  obtain ⟨c, t, hct, _, _, hclose, _⟩ := hstarts
  rw [List.cons_append, List.append_assoc]
  rw [hct] at hskip hread ⊢
  rw [value_of_brace hskip hclose, hread]
  rfl

theorem lastItem (h : ReadAs d (.value v) u) (hgap : Spacing gap) :
    ReadAs d (.items [v]) (u ++ (gap ++ [']'])) := by
  intro fuel rest hfuel
  simp only [List.length_append, List.length_cons] at hfuel
  obtain ⟨fuel, rfl⟩ := Nat.exists_eq_add_one_of_ne_zero (n := fuel) (by omega)
  have hread := h fuel (gap ++ ']' :: rest) (afterValue_spacing hgap (.cons (by decide))) (by omega)
  have hskip : skipSpaces (gap ++ ']' :: rest) = ']' :: rest := skipSpaces_append hgap rfl
  simp only [List.append_assoc, List.singleton_append]
  simp [items, hread, hskip]

theorem item (h : ReadAs d (.value v) u) (hgap : Spacing gap) (hgap' : Spacing gap')
    (hstarts : Starts w) (hw : ReadAs d (.items vs) w) :
    ReadAs d (.items (v :: vs)) (u ++ (gap ++ ',' :: (gap' ++ w))) := by
  intro fuel rest hfuel
  simp only [List.length_append, List.length_cons] at hfuel
  obtain ⟨fuel, rfl⟩ := Nat.exists_eq_add_one_of_ne_zero (n := fuel) (by omega)
  have hread := h fuel (gap ++ ',' :: (gap' ++ (w ++ rest)))
    (afterValue_spacing hgap (.cons (by decide))) (by omega)
  have hskip : skipSpaces (gap ++ ',' :: (gap' ++ (w ++ rest))) = ',' :: (gap' ++ (w ++ rest)) :=
    skipSpaces_append hgap rfl
  have hskip' := skipSpaces_starts hgap' (hstarts.append rest)
  have hmore := hw fuel rest (by omega)
  simp only [List.append_assoc, List.cons_append]
  simp [items, hread, hskip, hskip', hmore, Except.map]

theorem named (hn : Units n us) (hgap : Spacing gap) (hgap' : Spacing gap') (hstarts : Starts u)
    (h : ReadAs d (.value v) u) :
    ReadAs d (.member (Text.ofUnits us) v) ('"' :: (n ++ '"' :: (gap ++ ':' :: (gap' ++ u)))) := by
  intro fuel rest hrest hfuel
  simp only [List.length_append, List.length_cons] at hfuel
  have hread := h fuel rest hrest (by omega)
  have hskip : skipSpaces (gap ++ ':' :: (gap' ++ (u ++ rest))) = ':' :: (gap' ++ (u ++ rest)) :=
    skipSpaces_append hgap rfl
  have hskip' := skipSpaces_starts hgap' (hstarts.append rest)
  simp only [List.append_assoc, List.cons_append]
  rw [members]
  simp only [hn.string, hskip, hskip', hread]
  rfl

theorem lastMember (h : ReadAs d (.member name v) u) (hgap : Spacing gap) :
    ReadAs d (.members [(name, v)]) (u ++ (gap ++ ['\x7d'])) := by
  intro fuel rest hfuel
  simp only [List.length_append, List.length_cons] at hfuel
  obtain ⟨fuel, rfl⟩ := Nat.exists_eq_add_one_of_ne_zero (n := fuel) (by omega)
  have hread := h fuel (gap ++ '\x7d' :: rest) (afterValue_spacing hgap (.cons (by decide)))
    (by omega)
  have hskip : skipSpaces (gap ++ '\x7d' :: rest) = '\x7d' :: rest := skipSpaces_append hgap rfl
  simp only [List.append_assoc, List.singleton_append]
  rw [hread, afterMember, hskip]
  rfl

theorem moreMembers (h : ReadAs d (.member name v) u) (hgap : Spacing gap) (hgap' : Spacing gap')
    (hstarts : Starts w) (hw : ReadAs d (.members ms) w) :
    ReadAs d (.members ((name, v) :: ms)) (u ++ (gap ++ ',' :: (gap' ++ w))) := by
  intro fuel rest hfuel
  simp only [List.length_append, List.length_cons] at hfuel
  obtain ⟨fuel, rfl⟩ := Nat.exists_eq_add_one_of_ne_zero (n := fuel) (by omega)
  have hread := h fuel (gap ++ ',' :: (gap' ++ (w ++ rest)))
    (afterValue_spacing hgap (.cons (by decide))) (by omega)
  have hskip : skipSpaces (gap ++ ',' :: (gap' ++ (w ++ rest))) = ',' :: (gap' ++ (w ++ rest)) :=
    skipSpaces_append hgap rfl
  have hskip' := skipSpaces_starts hgap' (hstarts.append rest)
  have hmore := hw fuel rest (by omega)
  simp only [List.append_assoc, List.cons_append]
  rw [hread, afterMember, hskip]
  simp [hskip', hmore, Except.map]

end ReadAs

theorem Spelled.readAs (h : Spelled d part u) : ReadAs d part u := by
  induction h with
  | scalar h => exact readAs_scalar h
  | str h => exact readAs_str h
  | noItems hgap => exact readAs_noItems hgap
  | arr hgap h ih => exact ih.arr hgap h.starts
  | noMembers hgap => exact readAs_noMembers hgap
  | obj hgap h ih => exact ih.obj hgap h.starts
  | lastItem _ hgap ih => exact ih.lastItem hgap
  | item _ hgap hgap' hw ih ihw => exact ih.item hgap hgap' hw.starts ihw
  | named hn hgap hgap' h ih => exact ih.named hn hgap hgap' h.starts
  | lastMember _ hgap ih => exact ih.lastMember hgap
  | moreMembers _ hgap hgap' hw ih ihw => exact ih.moreMembers hgap hgap' hw.starts ihw

/-- A text is read exactly if it spells a value, with white space around it. -/
theorem read_eq_ok_iff : read t = .ok v ↔ ∃ front u back, t = front ++ (u ++ back) ∧
    Spacing front ∧ Spacing back ∧ Spelled maxDepth (.value v) u := by
  constructor
  · intro h
    obtain ⟨front, hfront, hspaces⟩ := exists_spacing t
    have hdocument : document t = .ok v := by
      rw [read] at h
      split at h
      · cases h
      · exact mapError_eq_ok.1 h
    rw [document] at hdocument
    cases hread : value (stepBound t) maxDepth (skipSpaces t) with
    | error stop => simp [hread] at hdocument
    | ok found =>
      obtain ⟨v', r⟩ := found
      obtain ⟨u, hu, hspelled⟩ := (sound _).value hread
      obtain ⟨back, hback, hspaces'⟩ := exists_spacing r
      rw [hread] at hdocument
      dsimp only at hdocument
      split at hdocument
      · next hend =>
        cases hdocument
        rw [hend, List.append_nil] at hback
        exact ⟨front, u, back, by rw [hfront, hu, hback], hspaces, hback ▸ hspaces', hspelled⟩
      · cases hdocument
  · rintro ⟨front, u, back, rfl, hfront, hback, h⟩
    have hstarts := h.starts.append back
    have hskip := skipSpaces_starts hfront hstarts
    have hread := h.readAs (stepBound (front ++ (u ++ back))) back
      (by simpa using afterValue_spacing hback .nil)
      (by simp only [stepBound, List.length_append]; omega)
    have hend : skipSpaces back = [] := List.dropWhile_eq_nil_iff.2 hback
    have hmark : (front ++ (u ++ back)).head? ≠ some '\ufeff' := by
      obtain ⟨c, t, hct, _, _, _, hc⟩ := hstarts
      cases front with
      | nil => simpa [hct] using hc
      | cons a front =>
        have ha : isSpace a = true := hfront a (by simp)
        intro heq
        obtain rfl : a = '\ufeff' := by simpa using heq
        cases ha
    have hdocument : document (front ++ (u ++ back)) = .ok v := by
      rw [document, hskip, hread]
      simp [hend]
    rw [read, if_neg hmark, readUnmarked, hdocument]
    rfl

end FlowTalk.Json
