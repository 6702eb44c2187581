import FlowTalk.Flow.Basic
import FlowTalk.Proofs.Flow.Table

/-! The two views of the edges of a flow agree: the table of all edges, and the list at each node
of the edges that touch it. Each change of a flow keeps them so. -/
namespace FlowTalk.Flow
open Table

variable {f g : Flow} {n : Node} {e : Edge} {id node source target label : Text}

/-- Nodes and edges stand under their ids, every edge runs between nodes of the flow, and `touching`
has under each node exactly the edges that touch it, in the order of the edges, and nothing else. -/
structure Valid (f : Flow) : Prop where
  nodes_keyed : f.nodes.Keyed Node.id
  edges_keyed : f.edges.Keyed Edge.id
  ends : ∀ e ∈ f.allEdges, f.hasNode e.source = true ∧ f.hasNode e.target = true
  touching_nodup : f.touching.keys.Nodup
  touching_find? : ∀ node, f.touching.find? node =
    if f.hasNode node then some (f.allEdges.filter fun e => e.touches node) else none

theorem hasNode_iff : f.hasNode id = true ↔ id ∈ f.nodes.keys := has_iff_mem_keys

theorem node?_of_hasNode (h : f.hasNode id = true) : ∃ n, f.node? id = some n := by
  rw [hasNode, has_eq_isSome] at h
  exact Option.isSome_iff_exists.1 h

theorem node?_of_missing (h : f.hasNode id = false) : f.node? id = none := by
  rw [hasNode, has_eq_isSome] at h
  rw [node?]
  simpa using h

theorem touches_iff : e.touches node = true ↔ e.source = node ∨ e.target = node := by
  simp [Edge.touches]

theorem connects_iff :
    e.connects source target = true ↔ e.source = source ∧ e.target = target := by
  simp [Edge.connects]

namespace Valid

theorem has_touching (h : f.Valid) : f.touching.has node = f.hasNode node := by
  rw [has_eq_isSome, h.touching_find?]
  cases f.hasNode node <;> rfl

theorem mem_touching_keys (h : f.Valid) : node ∈ f.touching.keys ↔ node ∈ f.nodes.keys := by
  rw [← has_iff_mem_keys, h.has_touching, hasNode_iff]

/-- An edge that touches a node makes the node one of the flow. -/
theorem hasNode_of_touches (h : f.Valid) (he : e ∈ f.allEdges) (ht : e.touches node = true) :
    f.hasNode node = true := by
  obtain ⟨hs, ht'⟩ := h.ends e he
  rcases touches_iff.mp ht with rfl | rfl
  · exact hs
  · exact ht'

theorem edge?_eq_some (h : f.Valid) : f.edge? id = some e ↔ e ∈ f.allEdges ∧ e.id = id :=
  h.edges_keyed.find?_eq_some

/-- The edges at a node, whether or not there is such a node. -/
theorem touching_getD (h : f.Valid) :
    (f.touching.find? node).getD [] = f.allEdges.filter fun e => e.touches node := by
  rw [h.touching_find?]
  by_cases hn : f.hasNode node = true
  · simp [hn]
  · have hnone : f.allEdges.filter (fun e => e.touches node) = [] :=
      List.filter_eq_nil_iff.mpr fun e he ht => hn (h.hasNode_of_touches he ht)
    simp [hn, hnone]

/-- No list holds an edge that is not one of the flow. -/
theorem mem_allEdges_of_touching (h : f.Valid) {entry : Text × List Edge}
    (hentry : entry ∈ f.touching) (he : e ∈ entry.2) : e ∈ f.allEdges := by
  have hfind : f.touching.find? entry.1 = some entry.2 := find?_of_mem h.touching_nodup hentry
  rw [h.touching_find?] at hfind
  by_cases hn : f.hasNode entry.1 = true
  · rw [if_pos hn] at hfind
    exact List.mem_of_mem_filter (Option.some.inj hfind ▸ he)
  · simp [hn] at hfind

/-- What is read at one end is what a scan of all edges finds. -/
theorem edgesFrom_eq (h : f.Valid) :
    f.edgesFrom source target = f.allEdges.filter fun e => e.connects source target := by
  rw [edgesFrom, h.touching_getD, List.filter_filter]
  refine List.filter_congr fun e _ => ?_
  rw [Bool.and_eq_left_iff_imp]
  intro hc
  exact touches_iff.mpr (Or.inl (connects_iff.mp hc).1)

end Valid

theorem valid_empty (name : Text) : (empty name).Valid where
  nodes_keyed := .nil
  edges_keyed := .nil
  ends := by simp [empty, allEdges, values]
  touching_nodup := List.nodup_nil
  touching_find? := by simp [empty, find?, hasNode, has]

theorem valid_clear : f.clear.Valid := valid_empty f.name

/-! Nodes -/

theorem addNode_eq_ok (h : f.addNode n = .ok g) :
    f.hasNode n.id = false ∧
      g = { f with nodes := f.nodes.put n.id n, touching := f.touching.put n.id [] } := by
  by_cases hn : f.hasNode n.id = true
  · simp [addNode, hn] at h
  · simp only [addNode, hn] at h
    exact ⟨by simpa using hn, by simpa using h.symm⟩

theorem exists_addNode (h : f.hasNode n.id = false) : ∃ g, f.addNode n = .ok g :=
  ⟨_, if_neg (by simp [h])⟩

theorem allNodes_addNode (h : f.addNode n = .ok g) : g.allNodes = f.allNodes ++ [n] := by
  obtain ⟨hn, rfl⟩ := addNode_eq_ok h
  exact values_put_of_not_has hn

/-- No edge touches a node that is not there yet. -/
theorem Valid.filter_touches_eq_nil (h : f.Valid) (hn : f.hasNode node = false) :
    f.allEdges.filter (fun e => e.touches node) = [] := by
  refine List.filter_eq_nil_iff.mpr fun e he ht => ?_
  simp [h.hasNode_of_touches he ht] at hn

theorem hasNode_addNode (h : f.addNode n = .ok g) :
    g.hasNode id = (id == n.id || f.hasNode id) := by
  obtain ⟨hn, rfl⟩ := addNode_eq_ok h
  exact has_put_of_not_has hn

theorem valid_addNode (hv : f.Valid) (h : f.addNode n = .ok g) : g.Valid := by
  have hhas : ∀ id, g.hasNode id = (id == n.id || f.hasNode id) := fun _ => hasNode_addNode h
  obtain ⟨hn, rfl⟩ := addNode_eq_ok h
  have ht : f.touching.has n.id = false := hv.has_touching.trans hn
  refine ⟨hv.nodes_keyed.put hn, hv.edges_keyed, fun e he => ?_, ?_, fun node => ?_⟩
  · obtain ⟨hs, ht⟩ := hv.ends e he
    simp [hhas, hs, ht]
  · have hk : n.id ∉ f.touching.keys := fun hk => by simp [has_iff_mem_keys.mpr hk] at ht
    rw [keys_put_of_not_has ht, ← List.concat_eq_append]
    exact hv.touching_nodup.concat hk
  · rw [hhas, find?_put_of_not_has ht, hv.touching_find?]
    by_cases hid : node = n.id
    · subst hid
      have hnone := hv.filter_touches_eq_nil hn
      simpa [allEdges] using hnone.symm
    · simp [hid, allEdges]

theorem relabel_eq_ok (h : f.relabel id label = .ok g) :
    f.hasNode id = true ∧
      g = { f with nodes := f.nodes.adjust id fun n => { n with label := label } } := by
  by_cases hn : f.hasNode id = true
  · simp only [relabel, hn] at h
    exact ⟨hn, by simpa using h.symm⟩
  · simp [relabel, hn] at h

theorem hasNode_relabel (h : f.relabel id label = .ok g) : g.hasNode node = f.hasNode node := by
  obtain ⟨_, rfl⟩ := relabel_eq_ok h
  exact has_adjust (f := fun n : Node => { n with label := label })

theorem valid_relabel (hv : f.Valid) (h : f.relabel id label = .ok g) : g.Valid := by
  have hhas : ∀ node, g.hasNode node = f.hasNode node := fun _ => hasNode_relabel h
  obtain ⟨_, rfl⟩ := relabel_eq_ok h
  refine ⟨hv.nodes_keyed.adjust (f := fun n => { n with label := label }) fun _ => rfl,
    hv.edges_keyed, fun e he => ?_, hv.touching_nodup, fun node => ?_⟩
  · rw [hhas, hhas]
    exact hv.ends e he
  · rw [hhas]
    exact hv.touching_find? node

/-! Edges -/

theorem addEdge_eq_ok (h : f.addEdge e = .ok g) :
    f.hasNode e.source = true ∧ f.hasNode e.target = true ∧ f.edges.has e.id = false ∧
      g = { f with
        edges := f.edges.put e.id e
        touching :=
          if e.source = e.target then touch e.source e f.touching
          else touch e.target e (touch e.source e f.touching) } := by
  cases hs : f.hasNode e.source with
  | false => simp [addEdge, hs] at h
  | true =>
    cases ht : f.hasNode e.target with
    | false => simp [addEdge, hs, ht] at h
    | true =>
      cases he : f.edges.has e.id with
      | true => simp [addEdge, hs, ht, he] at h
      | false => simpa [addEdge, hs, ht, he] using h.symm

theorem exists_addEdge (hs : f.hasNode e.source = true) (ht : f.hasNode e.target = true)
    (he : f.edges.has e.id = false) : ∃ g, f.addEdge e = .ok g := by
  simp [addEdge, hs, ht, he]

/-- An edge is entered once at each of its ends, also if the ends are one node. -/
theorem find?_touch_ends {t : Table (List Edge)} :
    (if e.source = e.target then touch e.source e t
      else touch e.target e (touch e.source e t)).find? node =
      (t.find? node).map fun es => if e.touches node then es ++ [e] else es := by
  by_cases hl : e.source = e.target
  · by_cases hn : node = e.target
    · simp [hl, touch, find?_adjust, Edge.touches, hn]
    · simp [hl, touch, find?_adjust, Edge.touches, hn, Ne.symm hn]
  · by_cases hs : node = e.source
    · subst hs
      simp [hl, touch, find?_adjust, Edge.touches]
    · by_cases ht : node = e.target
      · subst ht
        simp [hl, touch, find?_adjust, Edge.touches, hs]
      · simp [hl, touch, find?_adjust, Edge.touches, hs, Ne.symm hs, ht, Ne.symm ht]

theorem keys_touch {t : Table (List Edge)} : (touch node e t).keys = t.keys := keys_adjust

theorem allEdges_addEdge (h : f.addEdge e = .ok g) : g.allEdges = f.allEdges ++ [e] := by
  obtain ⟨_, _, he, rfl⟩ := addEdge_eq_ok h
  exact values_put_of_not_has he

theorem valid_addEdge (hv : f.Valid) (h : f.addEdge e = .ok g) : g.Valid := by
  have hall := allEdges_addEdge h
  obtain ⟨hs, ht, he, rfl⟩ := addEdge_eq_ok h
  refine ⟨hv.nodes_keyed, hv.edges_keyed.put he, fun e' he' => ?_, ?_, fun node => ?_⟩
  · rw [hall] at he'
    rcases List.mem_append.mp he' with he' | he'
    · exact hv.ends e' he'
    · rw [List.mem_singleton.mp he']
      exact ⟨hs, ht⟩
  · by_cases hl : e.source = e.target
    · simpa [hl, keys_touch] using hv.touching_nodup
    · simpa [hl, keys_touch] using hv.touching_nodup
  · rw [hall, find?_touch_ends, hv.touching_find?]
    change _ = if f.hasNode node = true then _ else _
    by_cases hn : f.hasNode node = true
    · by_cases hto : e.touches node = true <;> simp [hn, hto]
    · simp [hn]

/-- What it takes away an edge from the list at each of its ends. -/
theorem find?_untouch_ends {t : Table (List Edge)} :
    (untouch e.target id (untouch e.source id t)).find? node =
      (t.find? node).map fun es =>
        if e.touches node then es.filter fun e => e.id != id else es := by
  by_cases hs : node = e.source
  · subst hs
    by_cases ht : e.source = e.target
    · simp [untouch, find?_adjust, Edge.touches, ht, Option.map_map, Function.comp_def]
    · simp [untouch, find?_adjust, Edge.touches, ht]
  · by_cases ht : node = e.target
    · subst ht
      simp [untouch, find?_adjust, Edge.touches, hs]
    · simp [untouch, find?_adjust, Edge.touches, hs, Ne.symm hs, ht, Ne.symm ht]

theorem keys_untouch {t : Table (List Edge)} : (untouch node id t).keys = t.keys := keys_adjust

theorem removeEdge_of_edge? (h : f.edge? id = some e) :
    f.removeEdge id =
      { f with
        edges := f.edges.erase id
        touching := untouch e.target id (untouch e.source id f.touching) } := by
  simp [removeEdge, h]

theorem nodes_removeEdge : (f.removeEdge id).nodes = f.nodes := by
  cases h : f.edge? id with
  | none => simp [removeEdge, h]
  | some e => simp [removeEdge, h]

theorem Valid.id_ne_of_edge?_eq_none (hv : f.Valid) (h : f.edge? id = none) :
    ∀ e ∈ f.allEdges, e.id ≠ id := by
  intro e he hid
  simp [hv.edge?_eq_some.mpr ⟨he, hid⟩] at h

theorem allEdges_removeEdge (hv : f.Valid) :
    (f.removeEdge id).allEdges = f.allEdges.filter fun e => e.id != id := by
  cases h : f.edge? id with
  | none =>
    have hne := hv.id_ne_of_edge?_eq_none h
    rw [List.filter_eq_self.mpr fun e he => by simpa using hne e he]
    simp [removeEdge, h]
  | some e =>
    rw [removeEdge_of_edge? h]
    exact hv.edges_keyed.values_erase

/-- The list at a node loses an edge that touches the node, and no other list has it. -/
theorem Valid.filter_touches_ne (hv : f.Valid) (he : e ∈ f.allEdges) :
    (f.allEdges.filter fun e' => e'.id != e.id).filter (fun e' => e'.touches node) =
      if e.touches node then
        (f.allEdges.filter fun e' => e'.touches node).filter fun e' => e'.id != e.id
      else f.allEdges.filter fun e' => e'.touches node := by
  rw [List.filter_filter, List.filter_filter]
  by_cases ht : e.touches node = true
  · rw [if_pos ht]
    exact List.filter_congr fun e' _ => Bool.and_comm _ _
  · rw [if_neg ht]
    refine List.filter_congr fun e' he' => ?_
    by_cases hid : e'.id = e.id
    · obtain rfl := hv.edges_keyed.eq_of_id_eq he' he hid
      simp [ht]
    · simp [hid]

theorem valid_removeEdge (hv : f.Valid) : (f.removeEdge id).Valid := by
  have hall : (f.removeEdge id).allEdges = _ := allEdges_removeEdge hv
  cases h : f.edge? id with
  | none => simpa [removeEdge, h] using hv
  | some e =>
    rw [removeEdge_of_edge? h] at hall ⊢
    obtain ⟨he, rfl⟩ := hv.edge?_eq_some.mp h
    refine ⟨hv.nodes_keyed, hv.edges_keyed.erase, fun e' he' => ?_, ?_, fun node => ?_⟩
    · rw [hall] at he'
      exact hv.ends e' (List.mem_of_mem_filter he')
    · rw [keys_untouch, keys_untouch]
      exact hv.touching_nodup
    · rw [hall, find?_untouch_ends, hv.touching_find?, hv.filter_touches_ne he]
      change _ = if f.hasNode node = true then _ else _
      by_cases hn : f.hasNode node = true <;> simp [hn]

/-! Several edges at once -/

section removeEdges

variable {es : List Edge}

theorem removeEdges_cons : f.removeEdges (e :: es) = (f.removeEdge e.id).removeEdges es := rfl

theorem valid_removeEdges (hv : f.Valid) : (f.removeEdges es).Valid := by
  induction es generalizing f with
  | nil => exact hv
  | cons e es ih => exact ih (valid_removeEdge hv)

theorem nodes_removeEdges : (f.removeEdges es).nodes = f.nodes := by
  induction es generalizing f with
  | nil => rfl
  | cons e es ih => rw [removeEdges_cons, ih, nodes_removeEdge]

theorem hasNode_removeEdges : (f.removeEdges es).hasNode node = f.hasNode node := by
  rw [hasNode, nodes_removeEdges, hasNode]

theorem allEdges_removeEdges (hv : f.Valid) :
    (f.removeEdges es).allEdges = f.allEdges.filter fun e => es.all fun e' => e.id != e'.id := by
  induction es generalizing f with
  | nil => exact (List.filter_eq_self.mpr fun _ _ => rfl).symm
  | cons e es ih =>
    rw [removeEdges_cons, ih (valid_removeEdge hv), allEdges_removeEdge hv, List.filter_filter]
    exact List.filter_congr fun e' _ => Bool.and_comm _ _

/-- The edges with some property are those that share an id with one of them. -/
theorem Valid.all_id_ne_filter (hv : f.Valid) (p : Edge → Bool) (he : e ∈ f.allEdges) :
    ((f.allEdges.filter p).all fun e' => e.id != e'.id) = !p e := by
  cases hp : p e with
  | true =>
    have hmem : e ∈ f.allEdges.filter p := List.mem_filter.mpr ⟨he, hp⟩
    exact List.all_eq_false.mpr ⟨e, hmem, by simp⟩
  | false =>
    refine List.all_eq_true.mpr fun e' he' => ?_
    obtain ⟨he', hp'⟩ := List.mem_filter.mp he'
    have hne : e.id ≠ e'.id := fun hid => by
      simp [hv.edges_keyed.eq_of_id_eq he he' hid, hp'] at hp
    simpa using hne

/-- To remove the edges with some property is to keep the others. -/
theorem allEdges_removeEdges_filter (hv : f.Valid) (p : Edge → Bool) :
    (f.removeEdges (f.allEdges.filter p)).allEdges = f.allEdges.filter fun e => !p e := by
  rw [allEdges_removeEdges hv]
  exact List.filter_congr fun e he => hv.all_id_ne_filter p he

end removeEdges

theorem allEdges_disconnect (hv : f.Valid) :
    (f.disconnect source target).2.allEdges =
      f.allEdges.filter fun e => !e.connects source target := by
  rw [disconnect, hv.edgesFrom_eq]
  exact allEdges_removeEdges_filter hv _

theorem valid_disconnect (hv : f.Valid) : (f.disconnect source target).2.Valid :=
  valid_removeEdges hv

/-! Removing a node -/

theorem removeNode_eq_ok (h : f.removeNode id = .ok g) :
    f.hasNode id = true ∧
      g = { f.removeEdges ((f.touching.find? id).getD []) with
        nodes := (f.removeEdges ((f.touching.find? id).getD [])).nodes.erase id
        touching := (f.removeEdges ((f.touching.find? id).getD [])).touching.erase id } := by
  by_cases hn : f.hasNode id = true
  · simp only [removeNode, hn] at h
    exact ⟨hn, by simpa using h.symm⟩
  · simp [removeNode, hn] at h

theorem hasNode_removeNode (h : f.removeNode id = .ok g) :
    g.hasNode node = (node != id && f.hasNode node) := by
  obtain ⟨_, rfl⟩ := removeNode_eq_ok h
  exact has_erase.trans (by rw [← hasNode, hasNode_removeEdges])

/-- With a node go exactly the edges that touch it. -/
theorem allEdges_removeNode (hv : f.Valid) (h : f.removeNode id = .ok g) :
    g.allEdges = f.allEdges.filter fun e => !e.touches id := by
  obtain ⟨_, rfl⟩ := removeNode_eq_ok h
  rw [hv.touching_getD]
  exact allEdges_removeEdges_filter hv _

theorem valid_removeNode (hv : f.Valid) (h : f.removeNode id = .ok g) : g.Valid := by
  have hhas : ∀ node, g.hasNode node = (node != id && f.hasNode node) :=
    fun _ => hasNode_removeNode h
  have hall := allEdges_removeNode hv h
  obtain ⟨hn, rfl⟩ := removeNode_eq_ok h
  have hw : (f.removeEdges ((f.touching.find? id).getD [])).Valid := valid_removeEdges hv
  refine ⟨hw.nodes_keyed.erase, hw.edges_keyed, fun e he => ?_, ?_, fun node => ?_⟩
  · rw [hall] at he
    obtain ⟨he, ht⟩ := List.mem_filter.mp he
    obtain ⟨hs, ht'⟩ := hv.ends e he
    have hne : ¬ (e.source = id ∨ e.target = id) := fun hor => by
      simp [touches_iff.mpr hor] at ht
    rw [hhas, hhas, hs, ht']
    simpa using hne
  · rw [keys_erase]
    exact hw.touching_nodup.filter _
  · rw [hhas, find?_erase, hw.touching_find?, hasNode_removeEdges]
    by_cases hid : node = id
    · simp [hid]
    · simp [hid, allEdges]

end FlowTalk.Flow
