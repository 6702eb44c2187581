import FlowTalk.Proofs.Saved.Limits

/-! The shape of a saved flow. A flow is loaded from a value if and only if the value has that shape,
and then its nodes and edges are those that the items describe, in their order. -/
namespace FlowTalk

namespace Flow
open Table

variable {name id node : Text} {ns : List Node} {es : List Edge} {n : Node} {e : Edge} {g : Flow}

/-- The flow with given nodes and edges in their order. -/
def drawn (name : Text) (ns : List Node) (es : List Edge) : Flow where
  name := name
  nodes := ns.map fun n => (n.id, n)
  edges := es.map fun e => (e.id, e)
  touching := ns.map fun n => (n.id, es.filter fun e => e.touches n.id)

theorem allNodes_drawn : (drawn name ns es).allNodes = ns := by
  simp [drawn, allNodes, values, Function.comp_def]

theorem allEdges_drawn : (drawn name ns es).allEdges = es := by
  simp [drawn, allEdges, values, Function.comp_def]

theorem hasNode_drawn (name : Text) (ns : List Node) (es : List Edge) :
    (drawn name ns es).hasNode id = true ↔ id ∈ ns.map Node.id := by
  simp [drawn, hasNode, has]

theorem has_edges_drawn (name : Text) (ns : List Node) (es : List Edge) :
    (drawn name ns es).edges.has id = true ↔ id ∈ es.map Edge.id := by
  simp [drawn, has]

theorem touching_has_drawn : (drawn name ns es).touching.has id = (drawn name ns es).hasNode id := by
  simp [drawn, hasNode, has, Function.comp_def]

theorem addNode_drawn : (drawn name ns []).addNode n = .ok g ↔
    n.id ∉ ns.map Node.id ∧ g = drawn name (ns ++ [n]) [] := by
  rw [← hasNode_drawn name ns [], Bool.not_eq_true]
  cases hn : (drawn name ns []).hasNode n.id with
  | true => simp [addNode, hn]
  | false =>
    have hnodes : (drawn name ns []).nodes.put n.id n = (drawn name (ns ++ [n]) []).nodes := by
      rw [put_of_not_has hn]
      simp [drawn]
    have htouching : (drawn name ns []).touching.put n.id [] =
        (drawn name (ns ++ [n]) []).touching := by
      rw [put_of_not_has (touching_has_drawn.trans hn)]
      simp [drawn]
    rw [addNode, if_neg (by simp [hn]), hnodes, htouching]
    simp [drawn, eq_comm]

theorem touch_map {lists : Node → List Edge} :
    touch node e (ns.map fun n => (n.id, lists n)) =
      ns.map fun n => (n.id, if n.id = node then lists n ++ [e] else lists n) := by
  rw [touch, adjust, List.map_map]
  apply List.map_congr_left
  intro n _
  by_cases h : n.id = node <;> simp [h]

/-- An edge is entered at the nodes that it touches, and once if they are one. -/
theorem touch_drawn :
    (if e.source = e.target then touch e.source e (drawn name ns es).touching
      else touch e.target e (touch e.source e (drawn name ns es).touching)) =
      (drawn name ns (es ++ [e])).touching := by
  simp only [drawn, touch_map, List.filter_append]
  by_cases hl : e.source = e.target
  · rw [if_pos hl]
    apply List.map_congr_left
    intro n _
    by_cases ht : n.id = e.target
    · simp [hl, ht, Edge.touches]
    · simp [hl, ht, Ne.symm ht, Edge.touches]
  · rw [if_neg hl]
    apply List.map_congr_left
    intro n _
    by_cases hs : n.id = e.source
    · simp [hs, hl, Edge.touches]
    · by_cases ht : n.id = e.target
      · simp [ht, Ne.symm hl, Edge.touches]
      · simp [hs, ht, Ne.symm hs, Ne.symm ht, Edge.touches]

theorem addEdge_drawn : (drawn name ns es).addEdge e = .ok g ↔
    e.source ∈ ns.map Node.id ∧ e.target ∈ ns.map Node.id ∧ e.id ∉ es.map Edge.id ∧
      g = drawn name ns (es ++ [e]) := by
  rw [← hasNode_drawn name ns es, ← hasNode_drawn name ns es,
    ← has_edges_drawn name ns es, Bool.not_eq_true]
  constructor
  · intro h
    obtain ⟨hs, ht, he, rfl⟩ := addEdge_eq_ok h
    refine ⟨hs, ht, he, ?_⟩
    rw [touch_drawn, put_of_not_has he]
    simp [drawn]
  · rintro ⟨hs, ht, he, rfl⟩
    obtain ⟨g, hg⟩ := exists_addEdge hs ht he
    obtain ⟨_, _, _, rfl⟩ := addEdge_eq_ok hg
    rw [hg, touch_drawn, put_of_not_has he]
    simp [drawn]

end Flow

namespace Saved

variable {v item record : Json} {members : List (Text × Json)} {name t : Text} {key : String}
  {x y : Float} {n : Node} {e : Edge} {f g : Flow}

/-! Shapes -/

/-- A value is an object that has a value under a name. -/
def Has (item : Json) (key : String) (v : Json) : Prop :=
  ∃ members, item = .obj members ∧ Json.field? key members = some v

/-- A coordinate of a record: zero if there is none. -/
inductive CoordinateIs (record : List (Text × Json)) (key : String) : Float → Prop
  | absent (hkey : Json.field? key record = none) : CoordinateIs record key 0.0
  | given {v : Json} {x : Float} (hkey : Json.field? key record = some v)
      (hx : Position.coordinate v = .ok x) : CoordinateIs record key x

/-- The position among the members of an item: the origin if there is none, or one that counts as
false. -/
inductive PlacedAt (members : List (Text × Json)) : Position → Prop
  | absent (hkey : Json.field? "position" members = none) : PlacedAt members .origin
  | falsy {v : Json} (hkey : Json.field? "position" members = some v) (hv : v.isFalsy = true) :
      PlacedAt members .origin
  | given {record : List (Text × Json)} {x y : Float}
      (hkey : Json.field? "position" members = some (.obj record))
      (hx : CoordinateIs record "x" x) (hy : CoordinateIs record "y" y) : PlacedAt members ⟨x, y⟩

/-- An item describes a node. -/
structure NodeItem (item : Json) (n : Node) : Prop where
  id : ∃ v, Has item "id" v ∧ v.shown = .ok n.id
  label : ∃ data v, Has item "data" data ∧ Has data "label" v ∧ v.shown = .ok n.label
  position : ∃ members, item = .obj members ∧ PlacedAt members n.position

/-- An item describes an edge. -/
structure EdgeItem (item : Json) (e : Edge) : Prop where
  id : ∃ v, Has item "id" v ∧ v.shown = .ok e.id
  source : ∃ v, Has item "source" v ∧ v.shown = .ok e.source
  target : ∃ v, Has item "target" v ∧ v.shown = .ok e.target

/-- The ids of nodes and those of edges differ, and each edge runs between two of the nodes. -/
structure Drawable (ns : List Node) (es : List Edge) : Prop where
  nodes_nodup : (ns.map Node.id).Nodup
  edges_nodup : (es.map Edge.id).Nodup
  ends : ∀ e ∈ es, e.source ∈ ns.map Node.id ∧ e.target ∈ ns.map Node.id

/-- A value describes the nodes and edges of a flow, one for each item and in the order of the
items. -/
structure Describes (v : Json) (ns : List Node) (es : List Edge) : Prop where
  items : ∃ nodes edges, Lists v nodes edges ∧ List.Forall₂ NodeItem nodes ns ∧
    List.Forall₂ EdgeItem edges es
  drawable : Drawable ns es

/-! Parts of items -/

theorem field_eq_ok : field key item = .ok v ↔ Has item key v := by
  cases item with
  | obj members =>
    cases hv : Json.field? key members <;> simp [field, Has, hv]
  | null | bool | num | str | arr => simp [field, Has]

theorem optionalField_eq_ok {w : Option Json} : optionalField key item = .ok w ↔
    ∃ members, item = .obj members ∧ Json.field? key members = w := by
  cases item <;> simp [optionalField]

theorem text_eq_ok : text v = .ok t ↔ v.shown = .ok t := by
  rw [text]
  cases v.shown with
  | ok t => simp
  | error e => cases e <;> simp

theorem coordinate_eq_ok : coordinate v = .ok x ↔ Position.coordinate v = .ok x := by
  rw [coordinate]
  cases Position.coordinate v with
  | ok x => simp
  | error e => cases e <;> simp

theorem coordinateIs_iff : CoordinateIs members key x ↔
    coordinate ((Json.field? key members).getD (.float 0.0)) = .ok x := by
  have hzero : Position.coordinate (.float 0.0) = .ok 0.0 := rfl
  rw [coordinate_eq_ok]
  constructor
  · rintro (hkey | ⟨hkey, hx⟩)
    · rw [hkey]
      exact hzero
    · rw [hkey]
      exact hx
  · intro hx
    cases hkey : Json.field? key members with
    | none =>
      rw [hkey, Option.getD_none, hzero] at hx
      obtain rfl := Except.ok.inj hx
      exact .absent hkey
    | some v =>
      rw [hkey] at hx
      exact .given hkey hx

theorem coordinateIs_nil : CoordinateIs [] key x ↔ x = 0.0 := by
  constructor
  · rintro (_ | ⟨hkey, _⟩)
    · rfl
    · cases hkey
  · rintro rfl
    exact .absent rfl

theorem placedAt_iff {p : Position} : PlacedAt members p ↔
    ∃ record, positionRecord (Json.field? "position" members) = .obj record ∧
      CoordinateIs record "x" p.x ∧ CoordinateIs record "y" p.y := by
  constructor
  · rintro (hkey | ⟨hkey, hv⟩ | ⟨hkey, hx, hy⟩)
    · exact ⟨[], by rw [hkey, positionRecord], coordinateIs_nil.2 rfl, coordinateIs_nil.2 rfl⟩
    · exact ⟨[], by rw [hkey, positionRecord, if_pos hv], coordinateIs_nil.2 rfl,
        coordinateIs_nil.2 rfl⟩
    · refine ⟨_, ?_, hx, hy⟩
      rw [hkey, positionRecord]
      split
      · next hfalsy => rw [List.isEmpty_iff.1 hfalsy]
      · rfl
  · rintro ⟨record, hrecord, hx, hy⟩
    have horigin (hempty : positionRecord (Json.field? "position" members) = .obj []) :
        p = .origin := by
      obtain rfl : record = [] := Json.obj.inj (hrecord.symm.trans hempty)
      obtain ⟨x, y⟩ := p
      obtain rfl : x = 0.0 := coordinateIs_nil.1 hx
      obtain rfl : y = 0.0 := coordinateIs_nil.1 hy
      rfl
    cases hkey : Json.field? "position" members with
    | none =>
      rw [horigin (by rw [hkey, positionRecord])]
      exact .absent hkey
    | some v =>
      by_cases hv : v.isFalsy = true
      · rw [horigin (by rw [hkey, positionRecord, if_pos hv])]
        exact .falsy hkey hv
      · rw [hkey, positionRecord, if_neg hv] at hrecord
        subst hrecord
        exact .given hkey hx hy

/-! Items -/

theorem node_eq_ok : node item = .ok n ↔ NodeItem item n := by
  simp only [node, bind_eq_ok, field_eq_ok, optionalField_eq_ok, text_eq_ok]
  constructor
  · rintro ⟨_, ⟨members, hitem, rfl⟩, id, hid, i, hi, data, hdata, label, hlabel, _,
      ⟨record, hrecord, rfl⟩, _, ⟨record', hrecord', rfl⟩, l, hl, x, hx, y, hy, hn⟩
    obtain rfl := Except.ok.inj hn
    obtain rfl : record = record' := Json.obj.inj (hrecord.symm.trans hrecord')
    exact ⟨⟨id, hid, hi⟩, ⟨data, label, hdata, hlabel, hl⟩, members, hitem, placedAt_iff.2
      ⟨record, hrecord, coordinateIs_iff.2 hx, coordinateIs_iff.2 hy⟩⟩
  · rintro ⟨⟨id, hid, hi⟩, ⟨data, label, hdata, hlabel, hl⟩, members, hitem, hplace⟩
    obtain ⟨record, hrecord, hx, hy⟩ := placedAt_iff.1 hplace
    exact ⟨_, ⟨members, hitem, rfl⟩, id, hid, n.id, hi, data, hdata, label, hlabel, _,
      ⟨record, hrecord, rfl⟩, _, ⟨record, hrecord, rfl⟩, n.label, hl, n.position.x,
      coordinateIs_iff.1 hx, n.position.y, coordinateIs_iff.1 hy, rfl⟩

theorem addNode_item {ns : List Node} : addNode (.drawn name ns []) item = .ok g ↔
    ∃ n, NodeItem item n ∧ n.id ∉ ns.map Node.id ∧ g = .drawn name (ns ++ [n]) [] := by
  rw [addNode_eq_ok]
  simp only [node_eq_ok, Flow.addNode_drawn]

theorem addEdge_item {ns : List Node} {es : List Edge} :
    addEdge (.drawn name ns es) item = .ok g ↔
      ∃ e, EdgeItem item e ∧ e.source ∈ ns.map Node.id ∧ e.target ∈ ns.map Node.id ∧
        e.id ∉ es.map Edge.id ∧ g = .drawn name ns (es ++ [e]) := by
  simp only [addEdge_eq_ok, field_eq_ok, text_eq_ok, Flow.addEdge_drawn]
  constructor
  · rintro ⟨source, target, id, s, t, i, hsource, htarget, hid, hs, ht, hi, hadd⟩
    exact ⟨⟨i, s, t⟩, ⟨⟨id, hid, hi⟩, ⟨source, hsource, hs⟩, target, htarget, ht⟩, hadd⟩
  · rintro ⟨e, ⟨⟨id, hid, hi⟩, ⟨source, hsource, hs⟩, target, htarget, ht⟩, hadd⟩
    exact ⟨source, target, id, _, _, _, hsource, htarget, hid, hs, ht, hi, hadd⟩

/-! Lists of items -/

theorem nodup_concat {α : Type} {id : α → Text} {as : List α} {a : α} (h : (as.map id).Nodup) :
    ((as ++ [a]).map id).Nodup ↔ id a ∉ as.map id := by
  simp [List.nodup_append, h]

theorem foldlM_addNode {items : List Json} :
    items.foldlM addNode (.empty name) = .ok g ↔ ∃ ns, List.Forall₂ NodeItem items ns ∧
      (ns.map Node.id).Nodup ∧ g = .drawn name ns [] := by
  have hstep {ns : List Node} {item : Json} {g : Flow} (hns : (ns.map Node.id).Nodup) :
      addNode (.drawn name ns []) item = .ok g ↔ ∃ n, NodeItem item n ∧
        ((ns ++ [n]).map Node.id).Nodup ∧ g = .drawn name (ns ++ [n]) [] := by
    simp only [addNode_item, nodup_concat hns]
  have hfront {ns more : List Node} (h : ((ns ++ more).map Node.id).Nodup) :
      (ns.map Node.id).Nodup := by
    rw [List.map_append] at h
    exact h.of_append_left
  have hnone : (([] : List Node).map Node.id).Nodup := List.nodup_nil
  exact foldlM_eq_ok (P := fun ns : List Node => (ns.map Node.id).Nodup)
    (fun ns => Flow.drawn name ns []) hfront hstep hnone

theorem Drawable.front {ns : List Node} {es more : List Edge} (h : Drawable ns (es ++ more)) :
    Drawable ns es := by
  refine ⟨h.nodes_nodup, ?_, ?_⟩
  · have hall := h.edges_nodup
    rw [List.map_append] at hall
    exact hall.of_append_left
  · intro e he
    exact h.ends e (List.mem_append_left _ he)

theorem drawable_concat {ns : List Node} {es : List Edge} (h : Drawable ns es) :
    Drawable ns (es ++ [e]) ↔
      e.source ∈ ns.map Node.id ∧ e.target ∈ ns.map Node.id ∧ e.id ∉ es.map Edge.id := by
  constructor
  · intro hmore
    obtain ⟨hs, ht⟩ := hmore.ends e (by simp)
    exact ⟨hs, ht, (nodup_concat h.edges_nodup).1 hmore.edges_nodup⟩
  · rintro ⟨hs, ht, he⟩
    refine ⟨h.nodes_nodup, (nodup_concat h.edges_nodup).2 he, ?_⟩
    intro e' he'
    rcases List.mem_append.1 he' with he' | he'
    · exact h.ends e' he'
    · obtain rfl := List.mem_singleton.1 he'
      exact ⟨hs, ht⟩

theorem foldlM_addEdge {items : List Json} {ns : List Node} (hns : (ns.map Node.id).Nodup) :
    items.foldlM addEdge (.drawn name ns []) = .ok g ↔ ∃ es, List.Forall₂ EdgeItem items es ∧
      Drawable ns es ∧ g = .drawn name ns es := by
  have hstep {es : List Edge} {item : Json} {g : Flow} (hes : Drawable ns es) :
      addEdge (.drawn name ns es) item = .ok g ↔ ∃ e, EdgeItem item e ∧
        Drawable ns (es ++ [e]) ∧ g = .drawn name ns (es ++ [e]) := by
    simp only [addEdge_item, drawable_concat hes, and_assoc]
  have hnone : Drawable ns [] := ⟨hns, List.nodup_nil, by simp⟩
  exact foldlM_eq_ok (Flow.drawn name ns) Drawable.front hstep hnone

/-! Flows -/

theorem load_eq_ok_iff :
    load name v = .ok f ↔ ∃ ns es, Describes v ns es ∧ f = .drawn name ns es := by
  constructor
  · intro h
    obtain ⟨members, nodes, edges, f', hv, hnodes, hedges, hn, he⟩ := load_eq_ok h
    obtain ⟨ns, hns, hnodup, rfl⟩ := foldlM_addNode.1 hn
    obtain ⟨es, hes, hdrawable, rfl⟩ := (foldlM_addEdge hnodup).1 he
    have hlists : Lists v nodes edges := ⟨members, hv, hnodes, hedges⟩
    exact ⟨ns, es, ⟨⟨nodes, edges, hlists, hns, hes⟩, hdrawable⟩, rfl⟩
  · rintro ⟨ns, es, ⟨⟨nodes, edges, hlists, hns, hes⟩, hdrawable⟩, rfl⟩
    have hnodup := hdrawable.nodes_nodup
    rw [load_of_lists hlists, bind_eq_ok]
    exact ⟨_, foldlM_addNode.2 ⟨ns, hns, hnodup, rfl⟩,
      (foldlM_addEdge hnodup).2 ⟨es, hes, hdrawable, rfl⟩⟩

/-- A flow is loaded from a value if and only if the value describes nodes and edges, and then it is
the flow with these nodes and edges in their order. -/
theorem load_iff_describes (name : Text) (v : Json) :
    ((∃ f, load name v = .ok f) ↔ ∃ ns es, Describes v ns es) ∧
      ∀ f, load name v = .ok f ↔
        Describes v f.allNodes f.allEdges ∧ f = .drawn name f.allNodes f.allEdges := by
  refine ⟨?_, ?_⟩
  · constructor
    · rintro ⟨f, hf⟩
      obtain ⟨ns, es, hdescribes, _⟩ := load_eq_ok_iff.1 hf
      exact ⟨ns, es, hdescribes⟩
    · rintro ⟨ns, es, hdescribes⟩
      exact ⟨_, load_eq_ok_iff.2 ⟨ns, es, hdescribes, rfl⟩⟩
  · intro f
    rw [load_eq_ok_iff]
    constructor
    · rintro ⟨ns, es, hdescribes, rfl⟩
      rw [Flow.allNodes_drawn, Flow.allEdges_drawn]
      exact ⟨hdescribes, rfl⟩
    · rintro ⟨hdescribes, hf⟩
      exact ⟨f.allNodes, f.allEdges, hdescribes, hf⟩

end Saved

end FlowTalk
