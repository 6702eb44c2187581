import FlowTalk.Proofs.Assistant.Depth
import FlowTalk.Proofs.Assistant.Fence
import FlowTalk.Proofs.Json.RoundTrip
import FlowTalk.Proofs.Text.Trim

/-! The scan for braces agrees with the grammar of JSON texts, and it fails only if the braces do
not close. -/
namespace FlowTalk.Reply
open Json (Spelled Spacing Units Part)

variable {d depth : Nat} {mode mode' mode'' : Mode} {t u w p q s rest : Text} {us : List Nat}
  {c e : Char} {v : Json} {ms : List (Text × Json)} {part : Part}

/-- Inside an object, however deep, a scan for braces that comes upon the text passes over it, from
one mode to another. -/
def Scans (mode : Mode) (u : Text) (mode' : Mode) : Prop :=
  ∀ depth rest, upToClosing (depth + 1) mode (u ++ rest) =
    (upToClosing (depth + 1) mode' rest).map (u ++ ·)

namespace Scans

theorem nil (mode : Mode) : Scans mode [] mode := by simp [Scans]

theorem append (hu : Scans mode u mode') (hw : Scans mode' w mode'') :
    Scans mode (u ++ w) mode'' := by
  intro depth rest
  rw [List.append_assoc, hu, hw, Option.map_map]
  simp [Function.comp_def]

theorem inert (h : ∀ c ∈ u, Inert c) : Scans .plain u .plain := by
  induction u with
  | nil => exact .nil _
  | cons c u ih =>
    have hc := h c (by simp)
    simp only [Inert, List.mem_cons, List.not_mem_nil, or_false, not_or] at hc
    intro depth rest
    rw [List.cons_append, upToClosing, if_neg hc.1, if_neg hc.2.1, if_neg hc.2.2.1,
      ih fun d hd => h d (by simp [hd]), Option.map_map]
    rfl

theorem cons (hc : Inert c) (h : Scans .plain u .plain) : Scans .plain (c :: u) .plain :=
  (inert (List.forall_mem_singleton.2 hc)).append h

theorem gap (hgap : Spacing w) (h : Scans .plain u .plain) : Scans .plain (w ++ u) .plain := by
  refine (inert fun c hc => ?_).append h
  have hc := hgap c hc
  simp only [Json.isSpace, Bool.or_eq_true, beq_iff_eq] at hc
  rcases hc with ((rfl | rfl) | rfl) | rfl <;> decide

theorem spacing (h : Spacing w) : Scans .plain w .plain := by
  simpa using gap h (.nil _)

theorem opening : Scans .plain ['"'] .inString := fun _ _ => rfl

theorem inString (h : ∀ c ∈ u, c ≠ '"' ∧ c ≠ '\\') : Scans .inString u .inString := by
  induction u with
  | nil => exact .nil _
  | cons c u ih =>
    obtain ⟨hquote, hslash⟩ := h c (by simp)
    intro depth rest
    rw [List.cons_append, upToClosing, if_neg hslash, if_neg hquote,
      ih fun d hd => h d (by simp [hd]), Option.map_map]
    rfl

theorem escape (e : Char) : Scans .inString ['\\', e] .inString := fun depth rest => by
  have hescaped : upToClosing (depth + 1) .escaped (e :: rest) =
      (upToClosing (depth + 1) .inString rest).map (e :: ·) := by rw [upToClosing]
  change upToClosing (depth + 1) .inString ('\\' :: e :: rest) = _
  rw [upToClosing, if_pos rfl, hescaped, Option.map_map]
  rfl

theorem closing : Scans .inString ['"'] .plain := fun depth rest => by
  rw [List.singleton_append, upToClosing, if_neg (by decide), if_pos rfl]
  rfl

theorem units (h : Units u us) : Scans .inString u .inString := by
  induction h with
  | nil => exact .nil _
  | plain hquote hslash _ _ ih =>
    exact (inString (List.forall_mem_singleton.2 ⟨hquote, hslash⟩)).append ih
  | escape _ _ _ ih => exact (escape _).append ih
  | @unit h₁ h₂ h₃ h₄ _ _ _ hn _ ih =>
    refine (escape 'u').append ((inString (u := [h₁, h₂, h₃, h₄]) fun c hc => ⟨?_, ?_⟩).append ih)
    all_goals
      rintro rfl
      exact Json.hexValue?_of_hexUnit? hn _ hc (by decide)

theorem string (hw : Units w us) (h : Scans .plain u .plain) :
    Scans .plain ('"' :: (w ++ '"' :: u)) .plain :=
  opening.append ((units hw).append (closing.append h))

/-- Braces that match are passed over with what is between them. -/
theorem braces (h : Scans .plain w .plain) : Scans .plain ('\x7b' :: (w ++ ['\x7d'])) .plain := by
  intro depth rest
  have hclose : upToClosing (depth + 2) .plain ('\x7d' :: rest) =
      (upToClosing (depth + 1) .plain rest).map ('\x7d' :: ·) := by
    rw [upToClosing, if_neg (by decide), if_neg (by decide), if_pos rfl, if_neg (by omega)]
    rfl
  rw [List.cons_append, List.append_assoc, List.singleton_append, upToClosing, if_neg (by decide),
    if_pos rfl, h, hclose, Option.map_map, Option.map_map]
  simp [Function.comp_def]

/-- Before the last open brace is closed they are all that is taken. -/
theorem upToClosing_eq (h : Scans .plain w .plain) (rest : Text) :
    upToClosing 1 .plain (w ++ '\x7d' :: rest) = some (w ++ ['\x7d']) := by
  have hclose : upToClosing 1 .plain ('\x7d' :: rest) = some ['\x7d'] := by
    rw [upToClosing, if_neg (by decide), if_neg (by decide), if_pos rfl, if_pos rfl]
  rw [h, hclose]
  rfl

end Scans

/-- A scan passes over the part. The brace behind the last member is left to the object. -/
def Passed : Part → Text → Prop
  | .members _, u => ∃ w, u = w ++ ['\x7d'] ∧ Scans .plain w .plain
  | _, u => Scans .plain u .plain

theorem passed_of_spelled (h : Spelled d part u) : Passed part u := by
  induction h with
  | scalar h => exact .inert (Json.inert_of_scalar h)
  | str h => exact .string h (.nil _)
  | noItems hgap => exact .cons (by decide) (.gap hgap (.cons (by decide) (.nil _)))
  | arr hgap _ ih => exact .cons (by decide) (.gap hgap ih)
  | noMembers hgap => exact .braces (.spacing hgap)
  | obj hgap _ ih =>
    obtain ⟨w, rfl, hw⟩ := ih
    rw [← List.append_assoc]
    exact .braces (.gap hgap hw)
  | lastItem _ hgap ih => exact .append ih (.gap hgap (.cons (by decide) (.nil _)))
  | item _ hgap hgap' _ ih ihw =>
    exact .append ih (.gap hgap (.cons (by decide) (.gap hgap' ihw)))
  | named hname hgap hgap' _ ih =>
    exact .string hname (.gap hgap (.cons (by decide) (.gap hgap' ih)))
  | lastMember _ hgap ih =>
    exact ⟨_, (List.append_assoc _ _ _).symm, .append ih (.spacing hgap)⟩
  | @moreMembers _ _ _ _ u gap gap' _ _ hgap hgap' _ ih ihw =>
    obtain ⟨w, rfl, hw⟩ := ihw
    exact ⟨u ++ (gap ++ ',' :: (gap' ++ w)), by simp,
      .append ih (.gap hgap (.cons (by decide) (.gap hgap' hw)))⟩

/-- An object is a pair of braces around a text that a scan passes over. -/
theorem exists_braces (h : Spelled d (.value (.obj ms)) u) :
    ∃ w, u = '\x7b' :: (w ++ ['\x7d']) ∧ Scans .plain w .plain := by
  cases h with
  | scalar h => exact absurd h Json.scalar_ne_obj
  | noMembers hgap => exact ⟨_, rfl, .spacing hgap⟩
  | obj hgap h =>
    obtain ⟨w, rfl, hw⟩ := passed_of_spelled h
    exact ⟨_, by rw [List.append_assoc], .gap hgap hw⟩

/-- The first object of a text is found, whatever follows it. -/
theorem objectText_of_spelled (h : Spelled d (.value (.obj ms)) u) (hp : '\x7b' ∉ p)
    (ht : Pattern.erase fence t = p ++ (u ++ q)) : objectText t = .ok u := by
  obtain ⟨w, rfl, hw⟩ := exists_braces h
  have hsplit : withoutFences t = p.dropWhile isBlank ++
      '\x7b' :: (w ++ '\x7d' :: Text.trimEndWhere isBlank q) := by
    rw [withoutFences, ht, Text.trim_around (by simp)]
    · simp
    · rintro c ⟨⟩
      decide
    · intro c hc
      rw [← List.cons_append, List.getLast?_concat] at hc
      cases hc
      decide
  have hfront : '\x7b' ∉ p.dropWhile isBlank := fun hc => hp ((List.dropWhile_suffix _).subset hc)
  rw [objectText_of_brace hfront hsplit, hw.upToClosing_eq]
  rfl

/-- The draft in a text that without marks of blocks is an object. -/
theorem draft_of_read (h : Json.read (Pattern.erase fence t) = .ok (.obj ms)) :
    draft t = (Draft.ofPayload (.obj ms)).mapError .payload := by
  obtain ⟨front, u, back, htext, hfront, hback, hspelled⟩ := Json.read_eq_ok_iff.1 h
  have hread : Json.read u = .ok (.obj ms) :=
    Json.read_eq_ok_iff.2 ⟨[], u, [], by simp, by simp [Spacing], by simp [Spacing], hspelled⟩
  have hbrace : '\x7b' ∉ front := fun hmem => absurd (hfront _ hmem) (by decide)
  rw [draft, objectText_of_spelled hspelled hbrace htext]
  simp only [Except.mapError, bind, Except.bind, hread]

/-- A text that is read as an object, and begins and ends with its braces, is found between any
texts without a mark of a block of code. No object is found exactly if no brace is opened or the
first one is never closed. -/
theorem objectText_agrees :
    (∀ (p s q : Text) (ms : List (Text × Json)), Json.read s = .ok (.obj ms) →
      s.head? = some '\x7b' → s.getLast? = some '\x7d' → '\x7b' ∉ p →
      ¬ "```".toList <:+: p ++ (s ++ q) → objectText (p ++ (s ++ q)) = .ok s) ∧
    ∀ t : Text, (∃ e, objectText t = .error e) ↔
      '\x7b' ∉ withoutFences t ∨ ∃ p rest, withoutFences t = p ++ '\x7b' :: rest ∧ '\x7b' ∉ p ∧
        ∀ u, u <+: rest → braceDepth ('\x7b' :: u) ≠ 0 := by
  refine ⟨fun p s q ms hread hfirst hlast hp hmark => ?_, fun t => objectText_eq_error_iff⟩
  obtain ⟨front, u, back, rfl, hfront, hback, hspelled⟩ := Json.read_eq_ok_iff.1 hread
  obtain rfl : front = [] := by
    cases front with
    | nil => rfl
    | cons c front =>
      obtain rfl : c = '\x7b' := by simpa using hfirst
      exact absurd (hfront '\x7b' (by simp)) (by decide)
  obtain rfl : back = [] := by
    cases hend : back.getLast? with
    | none => exact List.getLast?_eq_none_iff.1 hend
    | some c =>
      obtain rfl : c = '\x7d' := by simpa [List.getLast?_append, hend] using hlast
      exact absurd (hback _ (List.mem_of_getLast? hend)) (by decide)
  rw [List.nil_append, List.append_nil] at hmark ⊢
  exact objectText_of_spelled hspelled hp (erase_fence_eq_self hmark)

/-- An object with a quote and braces in a string. -/
def quotedBraces : Text := "\x7b\"a\": \"\x7d\\\"\x7b\"\x7d".toList

theorem read_quotedBraces :
    Json.read quotedBraces = .ok (.obj [("a".toList, .str "\x7d\"\x7b".toList)]) := by
  have hexact : Json.Exact Json.maxDepth (.obj [("a".toList, .str "\x7d\"\x7b".toList)]) := by
    refine .obj (by simp) ?_
    simpa using .str _
  have hwrite : quotedBraces =
      Json.write ⟨none⟩ (.obj [("a".toList, .str "\x7d\"\x7b".toList)]) := by decide +kernel
  rw [hwrite, Json.read_write hexact]

theorem objectText_agrees_quotedBraces :
    objectText ("Sure: ".toList ++ (quotedBraces ++ " and \x7d".toList)) = .ok quotedBraces :=
  objectText_agrees.1 "Sure: ".toList quotedBraces " and \x7d".toList _ read_quotedBraces rfl rfl
    (by decide) (by decide)

end FlowTalk.Reply
