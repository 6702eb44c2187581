import FlowTalk.Proofs.Json.Limits
import FlowTalk.Proofs.Number.Overflow
import FlowTalk.Proofs.Saved.Load

/-! What is no saved flow is reported as such, unless a limit is passed. -/
namespace FlowTalk.Saved

variable {α β σ : Type} {item v : Json} {name t : Text} {f : Flow}

/-- A flow, or a report of what is wrong with the data. -/
def Reported (r : Except LoadError α) : Prop :=
  (∃ a, r = .ok a) ∨ ∃ e, r = .error (.format e)

/-- There is an error, and it is not one of the format. -/
def Escapes (r : Except LoadError α) : Prop := ∃ e, r = .error e ∧ ∀ e', e ≠ .format e'

theorem reported_iff {r : Except LoadError α} : Reported r ↔ ¬ Escapes r := by
  constructor
  · rintro (⟨a, rfl⟩ | ⟨e, rfl⟩) ⟨e', h, hne⟩
    · cases h
    · cases h
      exact hne e rfl
  · intro h
    match r with
    | .ok a => exact Or.inl ⟨a, rfl⟩
    | .error e =>
      by_contra hno
      exact h ⟨e, rfl, fun e' he => hno (Or.inr ⟨e', by rw [he]⟩)⟩

/-! Steps -/

theorem not_escapes_ok (a : α) : ¬ Escapes (.ok a : Except LoadError α) := nofun

theorem not_escapes_format (e : FormatError) :
    ¬ Escapes (.error (.format e) : Except LoadError α) := by
  rintro ⟨_, h, hne⟩
  cases h
  exact hne e rfl

theorem escapes_bind {x : Except LoadError α} {k : α → Except LoadError β} :
    Escapes (x >>= k) ↔ Escapes x ∨ ∃ a, x = .ok a ∧ Escapes (k a) := by
  constructor
  · rintro ⟨e, h, hne⟩
    rcases bind_eq_error.1 h with hx | ⟨a, hx, hk⟩
    · exact Or.inl ⟨e, hx, hne⟩
    · exact Or.inr ⟨a, hx, e, hk, hne⟩
  · rintro (⟨e, hx, hne⟩ | ⟨a, hx, e, hk, hne⟩)
    · exact ⟨e, bind_eq_error.2 (Or.inl hx), hne⟩
    · exact ⟨e, bind_eq_error.2 (Or.inr ⟨a, hx, hk⟩), hne⟩

theorem not_escapes_field (name : String) (v : Json) : ¬ Escapes (field name v) := by
  cases v with
  | obj members =>
    rw [field]
    cases Json.field? name members with
    | none => exact not_escapes_format _
    | some v => exact not_escapes_ok v
  | null | bool | num | str | arr => exact not_escapes_format _

theorem not_escapes_optionalField (name : String) (v : Json) :
    ¬ Escapes (optionalField name v) := by
  cases v with
  | obj members => exact not_escapes_ok _
  | null | bool | num | str | arr => exact not_escapes_format _

theorem not_escapes_changed (r : Except FlowError Flow) : ¬ Escapes (changed r) := by
  cases r with
  | ok f => exact not_escapes_ok f
  | error e => exact not_escapes_format _

/-- The arrays and objects of a value are nested too deep for a text. -/
def TooDeep (v : Json) : Prop := v.shown = .error .tooDeep

theorem escapes_text : Escapes (text v) ↔ TooDeep v := by
  rw [text, TooDeep]
  cases v.shown with
  | ok t => exact iff_of_false (not_escapes_ok t) (by simp)
  | error e =>
    cases e with
    | numeralTooLong => exact iff_of_false (not_escapes_format _) (by simp)
    | tooDeep => exact iff_of_true ⟨_, rfl, by simp⟩ rfl

/-- An integer with no floating-point number near it. -/
def TooLarge (v : Json) : Prop := ∃ n : ℤ, v = .num (.int n) ∧ Number.bound ≤ n.natAbs

theorem coordinate_eq_tooLarge_iff : Position.coordinate v = .error .tooLarge ↔ TooLarge v := by
  cases v with
  | null | arr | obj => exact iff_of_false nofun nofun
  | bool b => exact iff_of_false nofun nofun
  | str t =>
    rw [Position.coordinate]
    cases FloatText.read? t <;> exact iff_of_false nofun nofun
  | num n =>
    cases n with
    | float x => exact iff_of_false nofun nofun
    | int n =>
      have hlarge : TooLarge (.num (.int n)) ↔ Number.bound ≤ n.natAbs :=
        ⟨fun ⟨_, h, hn⟩ => by cases h; exact hn, fun h => ⟨n, rfl, h⟩⟩
      rw [hlarge, ← Number.ofIntNearest?_eq_none_iff, Position.coordinate, Number.toFloat?]
      cases Number.ofIntNearest? n with
      | none => exact iff_of_true rfl rfl
      | some x => exact iff_of_false nofun nofun

theorem escapes_coordinate : Escapes (coordinate v) ↔ TooLarge v := by
  rw [← coordinate_eq_tooLarge_iff, coordinate]
  cases Position.coordinate v with
  | ok x => exact iff_of_false (not_escapes_ok x) nofun
  | error e =>
    cases e with
    | tooLarge => exact iff_of_true ⟨_, rfl, nofun⟩ rfl
    | notNumber | notNumeric => exact iff_of_false (not_escapes_format _) nofun

theorem escapes_foldlM {step : σ → α → Except LoadError σ} {as : List α} {s : σ} :
    Escapes (as.foldlM step s) ↔ ∃ before a after t, as = before ++ a :: after ∧
      before.foldlM step s = .ok t ∧ Escapes (step t a) := by
  constructor
  · rintro ⟨e, h, hne⟩
    obtain ⟨before, a, after, t, has, hbefore, ha⟩ := foldlM_eq_error.1 h
    exact ⟨before, a, after, t, has, hbefore, e, ha, hne⟩
  · rintro ⟨before, a, after, t, has, hbefore, e, ha, hne⟩
    exact ⟨e, foldlM_eq_error.2 ⟨before, a, after, t, has, hbefore, ha⟩, hne⟩

/-! Items -/

/-- A value has a text. -/
def Shown (v : Json) : Prop := ∃ t, text v = .ok t

/-- The values that a node is made from. -/
structure NodeParts where
  id : Json
  label : Json
  x : Json
  y : Json

/-- The values stand in an item; an absent coordinate is zero. -/
structure NodeParts.Of (p : NodeParts) (item : Json) : Prop where
  id : field "id" item = .ok p.id
  label : ∃ data, field "data" item = .ok data ∧ field "label" data = .ok p.label
  position : ∃ position x y, optionalField "position" item = .ok position ∧
    optionalField "x" (positionRecord position) = .ok x ∧ x.getD (.float 0.0) = p.x ∧
    optionalField "y" (positionRecord position) = .ok y ∧ y.getD (.float 0.0) = p.y

/-- Of the parts of a node, the first that is not converted passes a limit. -/
inductive NodeExceeds (item : Json) : Prop
  | id {id : Json} (hid : field "id" item = .ok id) (hdeep : TooDeep id)
  | label {p : NodeParts} (hp : p.Of item) (hid : Shown p.id) (hdeep : TooDeep p.label)
  | x {p : NodeParts} (hp : p.Of item) (hid : Shown p.id) (hlabel : Shown p.label)
      (hlarge : TooLarge p.x)
  | y {p : NodeParts} {x : Float} (hp : p.Of item) (hid : Shown p.id) (hlabel : Shown p.label)
      (hx : coordinate p.x = .ok x) (hlarge : TooLarge p.y)

/-- Of the parts of an edge, the first that has no text is nested too deep. -/
inductive EdgeExceeds (item : Json) : Prop
  | source {source : Json} (hsource : field "source" item = .ok source) (hdeep : TooDeep source)
  | target {source target : Json} (hsource : field "source" item = .ok source)
      (hshown : Shown source) (htarget : field "target" item = .ok target)
      (hdeep : TooDeep target)
  | id {source target id : Json} (hsource : field "source" item = .ok source)
      (hshown : Shown source) (htarget : field "target" item = .ok target)
      (hshown' : Shown target) (hid : field "id" item = .ok id) (hdeep : TooDeep id)

theorem optionalField_of_field {name' : String} (h : field name' item = .ok v) (name : String) :
    ∃ w, optionalField name item = .ok w := by
  cases item with
  | obj members => exact ⟨_, rfl⟩
  | null | bool | num | str | arr => cases h

/-- What an item may have, if it has it, is what it must have. -/
theorem optionalField_eq_some {name : String} :
    optionalField name item = .ok (some v) ↔ field name item = .ok v := by
  cases item with
  | obj members =>
    rw [field, optionalField]
    cases Json.field? name members with
    | none => exact iff_of_false nofun nofun
    | some w =>
      constructor
      · rintro ⟨⟩
        rfl
      · rintro ⟨⟩
        rfl
  | null | bool | num | str | arr => exact iff_of_false nofun nofun

theorem not_tooDeep_null : ¬ TooDeep .null := by
  rw [← escapes_text]
  exact not_escapes_ok _

/-- A node whose id has a text. -/
theorem node_of_parts {p : NodeParts} {i : Text} (hp : p.Of item) (hid : text p.id = .ok i) :
    node item = (do
      let label ← text p.label
      let x ← coordinate p.x
      let y ← coordinate p.y
      return ⟨i, label, ⟨x, y⟩⟩) := by
  obtain ⟨hid', ⟨data, hdata, hlabel⟩, position, x, y, hposition, hx, hpx, hy, hpy⟩ := hp
  simp only [node, hposition, hid', hid, hdata, hlabel, hx, hy, hpx, hpy, bind, Except.bind]

theorem escapes_node_of_parts {p : NodeParts} (hp : p.Of item) (hid : Shown p.id) :
    Escapes (node item) ↔ TooDeep p.label ∨ Shown p.label ∧
      (TooLarge p.x ∨ ∃ x, coordinate p.x = .ok x ∧ TooLarge p.y) := by
  obtain ⟨i, hi⟩ := hid
  have hlast (n : Node) : ¬ Escapes (pure n : Except LoadError Node) := not_escapes_ok n
  rw [node_of_parts hp hi]
  simp only [escapes_bind, escapes_text, escapes_coordinate, hlast, and_false, exists_false,
    or_false, exists_and_right, Shown]

theorem escapes_node : Escapes (node item) ↔ NodeExceeds item := by
  constructor
  · intro h
    have hparts := h
    simp only [node, escapes_bind, not_escapes_optionalField, not_escapes_field, escapes_text,
      false_or] at hparts
    obtain ⟨position, hposition, id, hid, hdeep | ⟨i, hi, data, hdata, label, hlabel, x, hx, y,
      hy, -⟩⟩ := hparts
    · exact .id hid hdeep
    · have hp : NodeParts.Of ⟨id, label, x.getD (.float 0.0), y.getD (.float 0.0)⟩ item :=
        ⟨hid, ⟨data, hdata, hlabel⟩, position, x, y, hposition, hx, rfl, hy, rfl⟩
      rcases (escapes_node_of_parts hp ⟨i, hi⟩).1 h with
        hdeep | ⟨hshown, hlarge | ⟨x', hx', hlarge⟩⟩
      · exact .label hp ⟨i, hi⟩ hdeep
      · exact .x hp ⟨i, hi⟩ hshown hlarge
      · exact .y hp ⟨i, hi⟩ hshown hx' hlarge
  · intro h
    cases h with
    | id hid hdeep =>
      obtain ⟨position, hposition⟩ := optionalField_of_field hid "position"
      simp only [node, escapes_bind, not_escapes_optionalField, not_escapes_field, escapes_text,
        false_or]
      exact ⟨position, hposition, _, hid, Or.inl hdeep⟩
    | label hp hid hdeep => exact (escapes_node_of_parts hp hid).2 (Or.inl hdeep)
    | x hp hid hlabel hlarge =>
      exact (escapes_node_of_parts hp hid).2 (Or.inr ⟨hlabel, Or.inl hlarge⟩)
    | y hp hid hlabel hx hlarge =>
      exact (escapes_node_of_parts hp hid).2 (Or.inr ⟨hlabel, Or.inr ⟨_, hx, hlarge⟩⟩)

theorem escapes_addNode : Escapes (addNode f item) ↔ NodeExceeds item := by
  simp only [addNode, escapes_bind, not_escapes_changed, and_false, exists_false, or_false,
    escapes_node]

/-- Whether the ends of an edge are there or not, its id has to have a text. -/
theorem escapes_edgeEnd (f : Flow) (item : Json) (s t : Text) :
    Escapes (if f.hasNode s && f.hasNode t then do
        let id ← field "id" item
        let id ← text id
        changed (f.addEdge ⟨id, s, t⟩)
      else do
        let id ← optionalField "id" item
        let id ← text (id.getD .null)
        .error (.format (.danglingEdge id))) ↔
      ∃ id, field "id" item = .ok id ∧ TooDeep id := by
  by_cases hends : (f.hasNode s && f.hasNode t) = true
  · rw [if_pos hends]
    simp only [escapes_bind, not_escapes_field, escapes_text, not_escapes_changed, and_false,
      exists_false, or_false, false_or]
  · rw [if_neg hends]
    simp only [escapes_bind, not_escapes_optionalField, escapes_text, not_escapes_format, and_false,
      exists_false, or_false, false_or]
    constructor
    · rintro ⟨id, hid, hdeep⟩
      cases id with
      | none => exact absurd hdeep not_tooDeep_null
      | some id => exact ⟨id, optionalField_eq_some.1 hid, hdeep⟩
    · rintro ⟨id, hid, hdeep⟩
      exact ⟨some id, optionalField_eq_some.2 hid, hdeep⟩

theorem escapes_addEdge : Escapes (addEdge f item) ↔ EdgeExceeds item := by
  simp only [addEdge, escapes_bind, not_escapes_field, escapes_text, escapes_edgeEnd, false_or]
  constructor
  · rintro ⟨source, hsource, hdeep | ⟨s, hs, target, htarget, hdeep | ⟨t, ht, id, hid, hdeep⟩⟩⟩
    · exact .source hsource hdeep
    · exact .target hsource ⟨s, hs⟩ htarget hdeep
    · exact .id hsource ⟨s, hs⟩ htarget ⟨t, ht⟩ hid hdeep
  · intro h
    cases h with
    | source hsource hdeep => exact ⟨_, hsource, Or.inl hdeep⟩
    | target hsource hshown htarget hdeep =>
      obtain ⟨s, hs⟩ := hshown
      exact ⟨_, hsource, Or.inr ⟨s, hs, _, htarget, Or.inl hdeep⟩⟩
    | id hsource hshown htarget hshown' hid hdeep =>
      obtain ⟨s, hs⟩ := hshown
      obtain ⟨t, ht⟩ := hshown'
      exact ⟨_, hsource, Or.inr ⟨s, hs, _, htarget, Or.inr ⟨t, ht, _, hid, hdeep⟩⟩⟩

/-! Flows -/

/-- A value has the lists of a saved flow. -/
def Lists (v : Json) (nodes edges : List Json) : Prop :=
  ∃ members, v = .obj members ∧ Json.field? "nodes" members = some (.arr nodes) ∧
    Json.field? "edges" members = some (.arr edges)

theorem load_of_lists {nodes edges : List Json} (h : Lists v nodes edges) :
    load name v = nodes.foldlM addNode (.empty name) >>= edges.foldlM addEdge := by
  obtain ⟨members, rfl, hnodes, hedges⟩ := h
  simp only [load, hnodes, hedges]

theorem lists_of_escapes (h : Escapes (load name v)) : ∃ nodes edges, Lists v nodes edges := by
  cases v with
  | null | bool | num | str | arr => exact absurd h (not_escapes_format _)
  | obj members =>
    simp only [load] at h
    split at h
    · next nodes edges hnodes hedges => exact ⟨nodes, edges, members, rfl, hnodes, hedges⟩
    · exact absurd h (not_escapes_format _)

/-- Of the items of a saved flow, first the nodes and then the edges, the first that is not placed
passes a limit. -/
inductive Exceeds (name : Text) (v : Json) : Prop
  | node {nodes edges before after : List Json} {item : Json} {f : Flow}
      (hv : Lists v nodes edges) (hnodes : nodes = before ++ item :: after)
      (hbefore : before.foldlM addNode (.empty name) = .ok f) (hitem : NodeExceeds item)
  | edge {nodes edges before after : List Json} {item : Json} {f g : Flow}
      (hv : Lists v nodes edges) (hplaced : nodes.foldlM addNode (.empty name) = .ok f)
      (hedges : edges = before ++ item :: after)
      (hbefore : before.foldlM addEdge f = .ok g) (hitem : EdgeExceeds item)

theorem escapes_load : Escapes (load name v) ↔ Exceeds name v := by
  constructor
  · intro h
    obtain ⟨nodes, edges, hv⟩ := lists_of_escapes h
    rw [load_of_lists hv, escapes_bind, escapes_foldlM] at h
    simp only [escapes_foldlM, escapes_addNode, escapes_addEdge] at h
    rcases h with ⟨before, item, after, f, hnodes, hbefore, hitem⟩ |
      ⟨f, hplaced, before, item, after, g, hedges, hbefore, hitem⟩
    · exact .node hv hnodes hbefore hitem
    · exact .edge hv hplaced hedges hbefore hitem
  · intro h
    cases h with
    | node hv hnodes hbefore hitem =>
      rw [load_of_lists hv]
      exact escapes_bind.2 (Or.inl (escapes_foldlM.2
        ⟨_, _, _, _, hnodes, hbefore, escapes_addNode.2 hitem⟩))
    | edge hv hplaced hedges hbefore hitem =>
      rw [load_of_lists hv]
      exact escapes_bind.2 (Or.inr ⟨_, hplaced, escapes_foldlM.2
        ⟨_, _, _, _, hedges, hbefore, escapes_addEdge.2 hitem⟩⟩)

theorem escapes_read : Escapes (read name t) ↔
    Json.read t = .error .numeralTooLong ∨ Json.read t = .error .tooDeep ∨
      ∃ v, Json.read t = .ok v ∧ Exceeds name v := by
  rw [read]
  cases hread : Json.read t with
  | ok v =>
    simp only [escapes_load, reduceCtorEq, false_or, Except.ok.injEq, exists_eq_left']
  | error e =>
    cases e with
    | badSyntax e => exact iff_of_false (not_escapes_format _) (by simp)
    | numeralTooLong => exact iff_of_true ⟨_, rfl, nofun⟩ (Or.inl rfl)
    | tooDeep => exact iff_of_true ⟨_, rfl, nofun⟩ (Or.inr (Or.inl rfl))

/-- What is no saved flow is reported, unless the first item that is not placed passes a limit, or
the text does: for that it has too long a run of digits or too many brackets. -/
theorem reported_iff_within_limits (name : Text) :
    (∀ v, Reported (load name v) ↔ ¬ Exceeds name v) ∧
      (∀ t, Reported (read name t) ↔ Json.read t ≠ .error .numeralTooLong ∧
        Json.read t ≠ .error .tooDeep ∧ ∀ v, Json.read t = .ok v → ¬ Exceeds name v) ∧
      ∀ t, ¬ Json.LongRun t → Json.openings t ≤ Json.maxDepth →
        (Reported (read name t) ↔ ∀ v, Json.read t = .ok v → ¬ Exceeds name v) := by
  have hload (v : Json) : Reported (load name v) ↔ ¬ Exceeds name v := by
    rw [reported_iff, escapes_load]
  have hread (t : Text) : Reported (read name t) ↔ Json.read t ≠ .error .numeralTooLong ∧
      Json.read t ≠ .error .tooDeep ∧ ∀ v, Json.read t = .ok v → ¬ Exceeds name v := by
    rw [reported_iff, escapes_read]
    simp only [not_or, not_exists, not_and]
  refine ⟨hload, hread, fun t hshort hopenings => ?_⟩
  obtain ⟨hlong, hdeep⟩ := Json.read_limits t
  rw [hread]
  constructor
  · rintro ⟨_, _, hv⟩
    exact hv
  · intro hv
    exact ⟨fun h => hshort (hlong h), fun h => Nat.not_lt.2 hopenings (hdeep h), hv⟩

/-- A saved node with an integer for its first coordinate. -/
def farNode (x : ℤ) : Json :=
  .obj [("id".toList, .text "a"), ("data".toList, .obj [("label".toList, .text "A")]),
    ("position".toList, .obj [("x".toList, .int x), ("y".toList, .int 0)])]

def farFlow (x : ℤ) : Json :=
  .obj [("nodes".toList, .arr [farNode x]), ("edges".toList, .arr [])]

theorem parts_farNode (x : ℤ) :
    NodeParts.Of ⟨.text "a", .text "A", .int x, .int 0⟩ (farNode x) := by
  refine ⟨?_, ⟨.obj [("label".toList, .text "A")], ?_, ?_⟩, _, some (.int x), some (.int 0), rfl,
    ?_, rfl, ?_, rfl⟩
  all_goals simp [farNode, field, optionalField, positionRecord, Json.field?, Json.isFalsy,
    List.lookup_cons]

/-- A node that is too far away is not reported. -/
theorem exceeds_farFlow {x : ℤ} (hx : Number.bound ≤ x.natAbs) (name : Text) :
    Exceeds name (farFlow x) := by
  have hlists : Lists (farFlow x) [farNode x] [] :=
    ⟨_, rfl, by simp [Json.field?], by simp [Json.field?, List.lookup_cons]⟩
  have hshown (s : String) : Shown (.text s) := ⟨s.toList, text_str s.toList⟩
  exact .node hlists (List.nil_append _).symm rfl
    (.x (parts_farNode x) (hshown _) (hshown _) ⟨x, rfl, hx⟩)

theorem load_farFlow_not_reported : ¬ Reported (load [] (farFlow (10 ^ 400 : ℕ))) := by
  have hlarge : Number.bound ≤ 10 ^ 400 := (Number.isInf_natural_iff _).1 (by decide +kernel)
  rw [reported_iff, not_not, escapes_load]
  exact exceeds_farFlow (by rwa [Int.natAbs_natCast]) []

end FlowTalk.Saved
