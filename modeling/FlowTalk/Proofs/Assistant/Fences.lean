import FlowTalk.Proofs.Assistant.Braces
import FlowTalk.Proofs.Draft.Payload

/-! An object without the marks around blocks of code is an object as well, with other strings if
there were marks in them. -/
namespace FlowTalk.Reply
open Json (Spelled Spacing Units Part)

variable {d n : Nat} {t u u' w w' p q s : Text} {us : List Nat} {c : Char} {v : Json}
  {ms : List (Text × Json)} {part : Part}

/-- The text becomes another without the marks, whatever follows it. -/
def Becomes (u u' : Text) : Prop := ∀ rest, fence.erase (u ++ rest) = u' ++ fence.erase rest

namespace Becomes

theorem erase_eq (h : Becomes u u') : fence.erase u = u' := by
  simpa using h []

theorem append (hu : Becomes u u') (hw : Becomes w w') : Becomes (u ++ w) (u' ++ w') := by
  intro rest
  rw [List.append_assoc, hu, hw, List.append_assoc]

theorem nil : Becomes [] [] := fun _ => rfl

theorem cons (hc : c ≠ '`') (h : Becomes u u') : Becomes (c :: u) (c :: u') := by
  intro rest
  rw [List.cons_append, erase_fence_cons hc, h, List.cons_append]

/-- Without backticks there is no mark. -/
theorem self (h : '`' ∉ u) : Becomes u u := by
  induction u with
  | nil => exact nil
  | cons c u ih =>
    obtain ⟨hc, hu⟩ := List.ne_and_not_mem_of_not_mem_cons h
    exact cons (Ne.symm hc) (ih hu)

theorem gap (hw : Spacing w) (h : Becomes u u') : Becomes (w ++ u) (w ++ u') := by
  have hself : Becomes w w := self fun hmem => absurd (hw _ hmem) (by decide)
  exact hself.append h

theorem string (w : Text) (h : Becomes u u') :
    Becomes ('"' :: (w ++ '"' :: u)) ('"' :: (fence.erase w ++ '"' :: u')) := by
  refine cons (by decide) fun rest => ?_
  have hquote : fence.erase (w ++ '"' :: (u ++ rest)) =
      fence.erase w ++ '"' :: fence.erase (u ++ rest) := erase_fence_append_cons (by decide)
  rw [List.append_assoc, List.cons_append, hquote, h, List.append_assoc, List.cons_append]

end Becomes

/-- Characters that no backslash is among can be taken away from the front of a string. -/
theorem exists_units_drop (h : Units u us) (hslash : '\\' ∉ u.take n) :
    ∃ us', Units (u.drop n) us' := by
  induction n generalizing u us with
  | zero => exact ⟨us, h⟩
  | succ n ih =>
    cases h with
    | nil => exact ⟨[], .nil⟩
    | plain _ _ _ h =>
      rw [List.take_succ_cons] at hslash
      exact ih h fun hmem => hslash (List.mem_cons_of_mem _ hmem)
    | escape | unit => simp at hslash

/-- A string without the marks is a string: a mark neither ends it nor tears an escape apart. -/
theorem exists_units_erase (h : Units u us) : ∃ us', Units (fence.erase u) us' := by
  induction hn : u.length using Nat.strongRecOn generalizing u us with
  | ind m ih =>
    cases hfence : fenceLength? u with
    | some n =>
      obtain ⟨hpos, hle⟩ := fenceLength?_bounds hfence
      have hslash : '\\' ∉ u.take n := fun hmem =>
        absurd (inFence_of_mem_take hfence hmem) (by decide)
      obtain ⟨us', hunits⟩ := exists_units_drop h hslash
      rw [erase_fence_of_some hfence]
      exact ih _ (by rw [List.length_drop]; omega) hunits rfl
    | none =>
      cases h with
      | nil => exact ⟨[], .nil⟩
      | plain hquote hslash hc h =>
        obtain ⟨us', hunits⟩ := ih _ (by simp [← hn]) h rfl
        rw [erase_fence_of_none hfence]
        exact ⟨_, .plain hquote hslash hc hunits⟩
      | @escape e _ _ _ he hx h =>
        obtain ⟨us', hunits⟩ := ih _ (by simp [← hn]) h rfl
        have hletter : e ≠ '`' := by
          rintro rfl
          exact absurd hx nofun
        rw [erase_fence_cons (by decide), erase_fence_cons hletter]
        exact ⟨_, .escape he hx hunits⟩
      | @unit h₁ h₂ h₃ h₄ _ u _ hunit h =>
        obtain ⟨us', hunits⟩ := ih _ (by simp [← hn]; omega) h rfl
        have hself : Becomes ['\\', 'u', h₁, h₂, h₃, h₄] ['\\', 'u', h₁, h₂, h₃, h₄] := by
          refine .append (u := ['\\', 'u']) (.self (by decide)) (.self fun hmem => ?_)
          exact Json.hexValue?_of_hexUnit? hunit '`' hmem (by decide)
        have herase : fence.erase ('\\' :: 'u' :: h₁ :: h₂ :: h₃ :: h₄ :: u) =
            '\\' :: 'u' :: h₁ :: h₂ :: h₃ :: h₄ :: fence.erase u := hself u
        rw [herase]
        exact ⟨_, .unit hunit hunits⟩

/-- The part stays a part of its kind without the marks. -/
def Survives (d : Nat) : Part → Text → Prop
  | .value _, u => ∃ u' v, Becomes u u' ∧ Spelled d (.value v) u'
  | .member _ _, u => ∃ u' name v, Becomes u u' ∧ Spelled d (.member name v) u'
  | .items _, u => ∃ u' vs, Becomes u u' ∧ Spelled d (.items vs) u'
  | .members _, u => ∃ u' ms, Becomes u u' ∧ Spelled d (.members ms) u'

theorem survives_of_spelled (h : Spelled d part u) : Survives d part u := by
  induction h with
  | scalar h =>
    exact ⟨_, _, .self fun hmem => Json.inert_of_scalar h _ hmem (by decide), .scalar h⟩
  | str h =>
    obtain ⟨us', hunits⟩ := exists_units_erase h
    exact ⟨_, _, .string _ .nil, .str hunits⟩
  | noItems hgap =>
    exact ⟨_, _, .cons (by decide) (.gap hgap (.cons (by decide) .nil)), .noItems hgap⟩
  | arr hgap _ ih =>
    obtain ⟨u', vs, hu, h⟩ := ih
    exact ⟨_, _, .cons (by decide) (.gap hgap hu), .arr hgap h⟩
  | noMembers hgap =>
    exact ⟨_, _, .cons (by decide) (.gap hgap (.cons (by decide) .nil)), .noMembers hgap⟩
  | obj hgap _ ih =>
    obtain ⟨u', ms, hu, h⟩ := ih
    exact ⟨_, _, .cons (by decide) (.gap hgap hu), .obj hgap h⟩
  | lastItem _ hgap ih =>
    obtain ⟨u', v, hu, h⟩ := ih
    exact ⟨_, _, .append hu (.gap hgap (.cons (by decide) .nil)), .lastItem h hgap⟩
  | item _ hgap hgap' _ ih ihw =>
    obtain ⟨u', v, hu, h⟩ := ih
    obtain ⟨w', vs, hw, h'⟩ := ihw
    exact ⟨_, _, .append hu (.gap hgap (.cons (by decide) (.gap hgap' hw))),
      .item h hgap hgap' h'⟩
  | named hname hgap hgap' _ ih =>
    obtain ⟨us', hunits⟩ := exists_units_erase hname
    obtain ⟨u', v, hu, h⟩ := ih
    exact ⟨_, _, _, .string _ (.gap hgap (.cons (by decide) (.gap hgap' hu))),
      .named hunits hgap hgap' h⟩
  | lastMember _ hgap ih =>
    obtain ⟨u', name, v, hu, h⟩ := ih
    exact ⟨_, _, .append hu (.gap hgap (.cons (by decide) .nil)), .lastMember h hgap⟩
  | moreMembers _ hgap hgap' _ ih ihw =>
    obtain ⟨u', name, v, hu, h⟩ := ih
    obtain ⟨w', ms, hw, h'⟩ := ihw
    exact ⟨_, _, .append hu (.gap hgap (.cons (by decide) (.gap hgap' hw))),
      .moreMembers h hgap hgap' h'⟩

/-- An object stays an object. -/
theorem exists_object (h : Spelled d (.value (.obj ms)) u) :
    ∃ u' ms', Becomes u u' ∧ Spelled d (.value (.obj ms')) u' := by
  cases h with
  | scalar h => exact absurd h Json.scalar_ne_obj
  | noMembers hgap =>
    exact ⟨_, _, .cons (by decide) (.gap hgap (.cons (by decide) .nil)), .noMembers hgap⟩
  | obj hgap h =>
    obtain ⟨u', ms, hu, h⟩ := survives_of_spelled h
    exact ⟨_, _, .cons (by decide) (.gap hgap hu), .obj hgap h⟩

/-- A text as a block of code. -/
def block (s : Text) : Text := "```json\n".toList ++ (s ++ "\n```".toList)

/-- Of the marks around a block the line breaks are left. -/
theorem erase_block (s : Text) : fence.erase (block s) = '\n' :: (fence.erase s ++ ['\n']) := by
  have hopening : fence.erase "```json".toList = [] := erase_fence_of_some (n := 7) (by decide)
  have hclosing : fence.erase "```".toList = [] := erase_fence_of_some (n := 3) (by decide)
  change fence.erase ("```json".toList ++ '\n' :: (s ++ '\n' :: "```".toList)) = _
  rw [erase_fence_append_cons (by decide), erase_fence_append_cons (by decide), hopening, hclosing]
  rfl

theorem read_block (h : Json.read (fence.erase s) = .ok v) :
    Json.read (fence.erase (block s)) = .ok v := by
  obtain ⟨front, u, back, hs, hfront, hback, hspelled⟩ := Json.read_eq_ok_iff.1 h
  refine Json.read_eq_ok_iff.2 ⟨'\n' :: front, u, back ++ ['\n'], ?_,
    List.forall_mem_cons.2 ⟨by decide, hfront⟩,
    List.forall_mem_append.2 ⟨hback, List.forall_mem_singleton.2 (by decide)⟩, hspelled⟩
  rw [erase_block, hs]
  simp

/-- An object gives the same draft on its own and as a block of code: the draft of what it is
without marks, which is an object as well, and the same one if there are none in it. -/
theorem draft_block (s : Text) (ms : List (Text × Json)) (h : Json.read s = .ok (.obj ms)) :
    ∃ ms', Json.read (fence.erase s) = .ok (.obj ms') ∧
      draft s = (Draft.ofPayload (.obj ms')).mapError .payload ∧
      draft (block s) = (Draft.ofPayload (.obj ms')).mapError .payload ∧
      (¬ "```".toList <:+: s → ms' = ms) := by
  obtain ⟨front, u, back, hs, hfront, hback, hspelled⟩ := Json.read_eq_ok_iff.1 h
  obtain ⟨u', ms', hu, hspelled'⟩ := exists_object hspelled
  have herase : fence.erase s = front ++ (u' ++ back) := by
    have hself : Becomes back back := .self fun hmem => absurd (hback _ hmem) (by decide)
    rw [hs, (Becomes.gap hfront (hu.append hself)).erase_eq]
  have hread : Json.read (fence.erase s) = .ok (.obj ms') :=
    Json.read_eq_ok_iff.2 ⟨front, u', back, herase, hfront, hback, hspelled'⟩
  refine ⟨ms', hread, draft_of_read hread, draft_of_read (read_block hread), fun hmark => ?_⟩
  rw [erase_fence_eq_self hmark, h] at hread
  cases hread
  rfl

/-- The message that adds a node. -/
def additionMessage (label : Text) : Text := Json.write ⟨none⟩ (Draft.add label).toJson

theorem draft_block_menu :
    draft (block (additionMessage "Menu".toList)) = .ok (.add "Menu".toList) := by
  obtain ⟨ms', -, -, hdraft, hsame⟩ :=
    draft_block (additionMessage "Menu".toList) _ (Draft.read_message _ (.add "Menu".toList))
  rw [hdraft, hsame (by decide +kernel)]
  rfl

theorem draft_addition_backticks :
    additionMessage "a```b".toList =
        "\x7b\"type\": \"add_node\", \"nodeLabel\": \"a```b\"\x7d".toList ∧
      Json.read (additionMessage "a```b".toList) = .ok (Draft.add "a```b".toList).toJson ∧
      Draft.ofPayload (Draft.add "a```b".toList).toJson = .ok (.add "a```b".toList) ∧
      draft (additionMessage "a```b".toList) = .ok (.add "ab".toList) ∧
      draft (block (additionMessage "a```b".toList)) = .ok (.add "ab".toList) := by
  have hread : Json.read (fence.erase (additionMessage "a```b".toList)) =
      .ok (Draft.add "ab".toList).toJson := by
    have herase : fence.erase (additionMessage "a```b".toList) = additionMessage "ab".toList := by
      decide +kernel
    rw [herase]
    exact Draft.read_message _ _
  refine ⟨by decide +kernel, Draft.read_message _ _, rfl, ?_, ?_⟩
  · rw [draft_of_read hread]
    rfl
  · rw [draft_of_read (read_block hread)]
    rfl

end FlowTalk.Reply
