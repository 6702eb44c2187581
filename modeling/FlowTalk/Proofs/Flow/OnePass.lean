import FlowTalk.Proofs.Flow.Valid

/-! Changes of edges in one pass. Edges are removed one after another, each from the table of all
edges and from the lists at its ends. In a valid flow this comes to keeping the others wherever edges
are held. An edge that is added is likewise held by the table and by the lists at its ends, and by
no others. -/
namespace FlowTalk.Flow
open Table

variable {f : Flow} {e : Edge} {es : List Edge} {id node source target : Text} {p q : Edge → Bool}

/-- The flow with only those edges that have a property. All that is left keeps its order. -/
def keeping (p : Edge → Bool) (f : Flow) : Flow :=
  { f with
    edges := f.edges.filter fun entry => p entry.2
    touching := f.touching.mapAll fun _ es => es.filter p }

/-- The flow without a node, its list of edges, and the edges in the list. -/
def without (id : Text) (f : Flow) : Flow :=
  { f.keeping (fun e => !e.touches id) with
    nodes := f.nodes.erase id
    touching := (f.keeping fun e => !e.touches id).touching.erase id }

/-- The flow with one edge more, which is the last wherever it is held. -/
def adding (e : Edge) (f : Flow) : Flow :=
  { f with
    edges := f.edges ++ [(e.id, e)]
    touching := f.touching.mapAll fun node es => if e.touches node then es ++ [e] else es }

theorem allEdges_keeping : (f.keeping p).allEdges = f.allEdges.filter p :=
  List.filter_map.symm

theorem keeping_keeping : (f.keeping p).keeping q = f.keeping fun e => p e && q e := by
  simp [keeping, mapAll, List.filter_filter, Bool.and_comm]

theorem keeping_comm : (f.keeping p).keeping q = (f.keeping q).keeping p := by
  rw [keeping_keeping, keeping_keeping]
  simp only [Bool.and_comm]

/-- An edge that is not kept might as well not have been added. -/
theorem keeping_adding (hp : p e = false) : (f.adding e).keeping p = f.keeping p := by
  have htouching : ∀ entry : Text × List Edge,
      (if e.touches entry.1 then entry.2 ++ [e] else entry.2).filter p = entry.2.filter p := by
    intro entry
    by_cases ht : e.touches entry.1 = true <;> simp [ht, hp]
  simp [keeping, adding, mapAll, hp, htouching]

theorem keys_touching_keeping : (f.keeping p).touching.keys = f.touching.keys := by
  rw [keeping, keys_mapAll]

theorem find?_touching_keeping (hv : f.Valid) : (f.keeping p).touching.find? node =
    if f.hasNode node then some (f.allEdges.filter fun e => p e && e.touches node) else none := by
  rw [keeping, find?_mapAll, hv.touching_find?]
  by_cases hn : f.hasNode node = true <;> simp [hn, List.filter_filter]

/-- Only the edges of the flow are held in it, so the others do not matter. -/
theorem keeping_congr (hv : f.Valid) (h : ∀ e ∈ f.allEdges, p e = q e) :
    f.keeping p = f.keeping q := by
  have hedges : (f.keeping p).edges = (f.keeping q).edges :=
    List.filter_congr fun entry he => h entry.2 (List.mem_map_of_mem he)
  have htouching : (f.keeping p).touching = (f.keeping q).touching := by
    have hkeys : (f.keeping p).touching.keys = (f.keeping q).touching.keys :=
      keys_touching_keeping.trans keys_touching_keeping.symm
    refine eq_of_find?_eq (by rw [keys_touching_keeping]; exact hv.touching_nodup) hkeys
      fun node => ?_
    rw [find?_touching_keeping hv, find?_touching_keeping hv,
      List.filter_congr fun e he => by rw [h e he]]
  rw [keeping, keeping, Flow.mk.injEq]
  exact ⟨rfl, rfl, hedges, htouching⟩

theorem keeping_eq_self (hv : f.Valid) (h : ∀ e ∈ f.allEdges, p e = true) : f.keeping p = f := by
  rw [keeping_congr hv h]
  simp [keeping, mapAll]

/-- No list has to be rewritten but those at the ends of the edge. -/
theorem removeEdge_eq_keeping (hv : f.Valid) : f.removeEdge id = f.keeping fun e => e.id != id := by
  cases h : f.edge? id with
  | none =>
    have hne := hv.id_ne_of_edge?_eq_none h
    rw [keeping_eq_self hv fun e he => by simpa using hne e he]
    simp [removeEdge, h]
  | some e =>
    obtain ⟨he, rfl⟩ := hv.edge?_eq_some.1 h
    have hedges : f.edges.erase e.id = f.edges.filter fun entry => entry.2.id != e.id :=
      List.filter_congr fun entry hentry => by rw [hv.edges_keyed.key_eq entry hentry]
    have htouching : untouch e.target e.id (untouch e.source e.id f.touching) =
        (f.keeping fun e' => e'.id != e.id).touching := by
      have hkeys : (untouch e.target e.id (untouch e.source e.id f.touching)).keys =
          f.touching.keys := keys_untouch.trans keys_untouch
      refine eq_of_find?_eq (hkeys ▸ hv.touching_nodup) (hkeys.trans keys_touching_keeping.symm)
        fun node => ?_
      rw [find?_untouch_ends, find?_touching_keeping hv, hv.touching_find?]
      by_cases hn : f.hasNode node = true
      · simpa [hn, List.filter_filter, Bool.and_comm] using (hv.filter_touches_ne he).symm
      · simp [hn]
    rw [removeEdge_of_edge? h, hedges, htouching]
    rfl

theorem removeEdges_eq_keeping (hv : f.Valid) :
    f.removeEdges es = f.keeping fun e => es.all fun e' => e.id != e'.id := by
  induction es generalizing f with
  | nil => exact (keeping_eq_self hv fun _ _ => rfl).symm
  | cons e es ih =>
    rw [removeEdges_cons, ih (valid_removeEdge hv), removeEdge_eq_keeping hv, keeping_keeping]
    rfl

/-- To remove the edges with some property, one after another, is to keep the others. -/
theorem removeEdges_filter (hv : f.Valid) :
    f.removeEdges (f.allEdges.filter p) = f.keeping fun e => !p e := by
  rw [removeEdges_eq_keeping hv]
  exact keeping_congr hv fun e he => hv.all_id_ne_filter p he

theorem valid_keeping (hv : f.Valid) : (f.keeping p).Valid := by
  have hremove : f.removeEdges (f.allEdges.filter fun e => !p e) = f.keeping p := by
    simp [removeEdges_filter hv]
  rw [← hremove]
  exact valid_removeEdges hv

theorem disconnect_eq (hv : f.Valid) :
    f.disconnect source target = ((f.allEdges.filter fun e => e.connects source target).length,
      f.keeping fun e => !e.connects source target) := by
  rw [disconnect, hv.edgesFrom_eq, removeEdges_filter hv]

theorem removeNode_eq (hv : f.Valid) (h : f.hasNode id = true) :
    f.removeNode id = .ok (f.without id) := by
  rw [removeNode, if_pos h, hv.touching_getD, removeEdges_filter hv]
  rfl

/-- None of the lists has to be rewritten but those at the ends of the edge. -/
theorem addEdge_eq (hv : f.Valid) (hs : f.hasNode e.source = true) (ht : f.hasNode e.target = true)
    (he : f.edges.has e.id = false) : f.addEdge e = .ok (f.adding e) := by
  obtain ⟨g, hg⟩ := exists_addEdge hs ht he
  obtain ⟨_, _, _, rfl⟩ := addEdge_eq_ok hg
  have htouching : (if e.source = e.target then touch e.source e f.touching
      else touch e.target e (touch e.source e f.touching)) = (f.adding e).touching := by
    have hkeys : (if e.source = e.target then touch e.source e f.touching
        else touch e.target e (touch e.source e f.touching)).keys = f.touching.keys := by
      by_cases hl : e.source = e.target <;> simp [hl, keys_touch]
    refine eq_of_find?_eq (by rw [hkeys]; exact hv.touching_nodup) ?_ fun node => ?_
    · rw [hkeys, adding, keys_mapAll]
    · rw [find?_touch_ends, adding, find?_mapAll]
  rw [hg, put_of_not_has he, htouching]
  rfl

end FlowTalk.Flow
