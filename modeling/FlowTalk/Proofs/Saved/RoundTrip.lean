import FlowTalk.Proofs.Flow.Reachable
import FlowTalk.Proofs.Json.RoundTrip
import FlowTalk.Proofs.Saved.Load
import FlowTalk.Saved.Write

/-! A saved flow is loaded again. -/
namespace FlowTalk

variable {f g : Flow} {o : SaveOptions} {clock : Int} {n : Node} {e : Edge}
  {positions : Bool} {ns : List Node} {es : List Edge}

/-- A node as it is loaded again. Where positions are not saved, it is at the origin. -/
def Node.reloaded (positions : Bool) (n : Node) : Node :=
  { n with position := if positions then n.position else .origin }

/-! The saved text is read -/

section
open Json

theorem exact_position (d : Nat) (p : Position) : Exact (d + 1) p.toJson := by
  refine .obj (by simp) fun m hm => ?_
  simp only [List.mem_cons, List.not_mem_nil, or_false] at hm
  rcases hm with rfl | rfl
  all_goals exact .num (readsBack_float _)

theorem exact_data (d : Nat) (n : Node) : Exact (d + 1) n.dataJson := by
  refine .obj (by simp) fun m hm => ?_
  obtain rfl := List.mem_singleton.1 hm
  exact .str _

theorem exact_node (d : Nat) (n : Node) (positions : Bool) :
    Exact (d + 2) (n.savedJson positions) := by
  cases positions with
  | false =>
    refine .obj (by simp) fun m hm => ?_
    simp only [List.mem_cons, List.not_mem_nil, or_false] at hm
    rcases hm with rfl | rfl
    · exact .str _
    · exact exact_data d n
  | true =>
    refine .obj (by simp) fun m hm => ?_
    simp only [List.mem_cons, List.not_mem_nil, or_false] at hm
    rcases hm with rfl | rfl | rfl
    · exact .str _
    · exact exact_position d n.position
    · exact exact_data d n

theorem exact_edge (d : Nat) (e : Edge) : Exact (d + 1) e.toJson := by
  refine .obj (by simp) fun m hm => ?_
  simp only [List.mem_cons, List.not_mem_nil, or_false] at hm
  rcases hm with rfl | rfl | rfl
  all_goals exact .str _

/-- What is saved of a flow has objects in an array in an object in arrays in an object. -/
theorem exact_savedJson (d : Nat) (f : Flow) (o : SaveOptions) (clock : Int) :
    Exact (d + 4) (f.savedJson o clock) := by
  have hnodes : Exact (d + 3) (.arr (f.allNodes.map (Node.savedJson o.positions))) := by
    refine .arr fun v hv => ?_
    obtain ⟨n, _, rfl⟩ := List.mem_map.1 hv
    exact exact_node d n o.positions
  have hedges : Exact (d + 3) (.arr (f.allEdges.map Edge.toJson)) := by
    refine .arr fun v hv => ?_
    obtain ⟨e, _, rfl⟩ := List.mem_map.1 hv
    exact exact_edge (d + 1) e
  rw [Flow.savedJson]
  cases o.timestamp with
  | false =>
    refine .obj (by simp) fun m hm => ?_
    simp only [Bool.false_eq_true, if_false, List.mem_cons, List.not_mem_nil, or_false] at hm
    rcases hm with rfl | rfl
    · exact hnodes
    · exact hedges
  | true =>
    refine .obj (by simp) fun m hm => ?_
    simp only [if_true, List.mem_cons, List.not_mem_nil, or_false] at hm
    rcases hm with rfl | rfl | rfl
    · exact hnodes
    · exact hedges
    · exact .str _

end

namespace Saved

/-! The nodes and edges are rebuilt -/

theorem node_savedJson (n : Node) (positions : Bool) :
    node (n.savedJson positions) = .ok (n.reloaded positions) := by
  cases positions <;> rfl

theorem addNode_savedJson (h : f.addNode (n.reloaded positions) = .ok g) :
    addNode f (n.savedJson positions) = .ok g :=
  addNode_eq_ok.2 ⟨_, node_savedJson n positions, h⟩

theorem addEdge_toJson (h : f.addEdge e = .ok g) : addEdge f e.toJson = .ok g :=
  addEdge_eq_ok.2 ⟨.str e.source, .str e.target, .str e.id, e.source, e.target, e.id, rfl, rfl, rfl,
    text_str _, text_str _, text_str _, h⟩

/-- Of the nodes of a flow, all but the last ones stand in another one. -/
structure NodesLeft (f : Flow) (positions : Bool) (ns : List Node) (g : Flow) : Prop where
  valid : g.Valid
  name_eq : g.name = f.name
  nodes : g.allNodes ++ ns.map (Node.reloaded positions) =
    f.allNodes.map (Node.reloaded positions)
  edges : g.allEdges = []

/-- Of the edges of a flow, all but the last ones stand in another one, which has its nodes. -/
structure EdgesLeft (f : Flow) (positions : Bool) (es : List Edge) (g : Flow) : Prop where
  valid : g.Valid
  name_eq : g.name = f.name
  nodes : g.allNodes = f.allNodes.map (Node.reloaded positions)
  edges : g.allEdges ++ es = f.allEdges

theorem NodesLeft.addNode (hv : f.Valid) (h : NodesLeft f positions (n :: ns) g) :
    ∃ g', addNode g (n.savedJson positions) = .ok g' ∧ NodesLeft f positions ns g' := by
  have hids : ((g.allNodes ++ (n :: ns).map (Node.reloaded positions)).map Node.id).Nodup := by
    rw [h.nodes, List.map_map]
    exact hv.nodes_keyed.nodup_ids
  have hnew : g.hasNode (n.reloaded positions).id = false :=
    h.valid.nodes_keyed.not_has_of_nodup hids
  obtain ⟨g', hg⟩ := Flow.exists_addNode hnew
  refine ⟨g', addNode_savedJson hg, Flow.valid_addNode h.valid hg, ?_, ?_, ?_⟩
  · obtain ⟨_, rfl⟩ := Flow.addNode_eq_ok hg
    exact h.name_eq
  · rw [Flow.allNodes_addNode hg, ← h.nodes, List.append_assoc]
    rfl
  · obtain ⟨_, rfl⟩ := Flow.addNode_eq_ok hg
    exact h.edges

theorem EdgesLeft.hasNode (hv : f.Valid) (h : EdgesLeft f positions es g) (node : Text) :
    g.hasNode node = f.hasNode node := by
  rw [Bool.eq_iff_iff]
  refine h.valid.nodes_keyed.has_iff.trans (Iff.trans ?_ hv.nodes_keyed.has_iff.symm)
  have hnodes : g.nodes.values = f.nodes.values.map (Node.reloaded positions) := h.nodes
  simp [hnodes, Node.reloaded]

theorem EdgesLeft.addEdge (hv : f.Valid) (h : EdgesLeft f positions (e :: es) g) :
    ∃ g', addEdge g e.toJson = .ok g' ∧ EdgesLeft f positions es g' := by
  have hids : ((g.allEdges ++ e :: es).map Edge.id).Nodup := by
    rw [h.edges]
    exact hv.edges_keyed.nodup_ids
  have hnew : g.edges.has e.id = false := h.valid.edges_keyed.not_has_of_nodup hids
  have hmem : e ∈ f.allEdges := by
    rw [← h.edges]
    simp
  obtain ⟨hs, ht⟩ := hv.ends e hmem
  rw [← h.hasNode hv] at hs ht
  obtain ⟨g', hg⟩ := Flow.exists_addEdge hs ht hnew
  refine ⟨g', addEdge_toJson hg, Flow.valid_addEdge h.valid hg, ?_, ?_, ?_⟩
  · obtain ⟨_, _, _, rfl⟩ := Flow.addEdge_eq_ok hg
    exact h.name_eq
  · obtain ⟨_, _, _, rfl⟩ := Flow.addEdge_eq_ok hg
    exact h.nodes
  · rw [Flow.allEdges_addEdge hg, ← h.edges, List.append_assoc]
    rfl

/-- The value that is saved of a flow is loaded as a flow with the same nodes and edges. -/
theorem load_savedJson (hv : f.Valid) (o : SaveOptions) (clock : Int) :
    ∃ g, load f.name (f.savedJson o clock) = .ok g ∧ EdgesLeft f o.positions [] g := by
  have hempty : NodesLeft f o.positions f.allNodes (.empty f.name) :=
    ⟨Flow.valid_empty _, rfl, rfl, rfl⟩
  have hnodes : ∃ g, f.allNodes.foldlM (fun g n => addNode g (n.savedJson o.positions))
      (.empty f.name) = .ok g ∧ NodesLeft f o.positions [] g :=
    foldlM_ok (P := NodesLeft f o.positions) (fun h => h.addNode hv) hempty
  obtain ⟨g, hg, hdone⟩ := hnodes
  have hbare : EdgesLeft f o.positions f.allEdges g :=
    ⟨hdone.valid, hdone.name_eq, by simpa using hdone.nodes, by rw [hdone.edges]; rfl⟩
  have hedges : ∃ g', f.allEdges.foldlM (fun g e => addEdge g e.toJson) g = .ok g' ∧
      EdgesLeft f o.positions [] g' :=
    foldlM_ok (P := EdgesLeft f o.positions) (fun h => h.addEdge hv) hbare
  obtain ⟨g', hg', hdone'⟩ := hedges
  rw [← List.foldlM_map] at hg hg'
  refine ⟨g', ?_, hdone'⟩
  change (f.allNodes.map _).foldlM addNode _ >>= (f.allEdges.map Edge.toJson).foldlM addEdge = _
  exact bind_eq_ok.2 ⟨g, hg, hg'⟩

end Saved

namespace Flow

/-- A saved flow is loaded as a flow with the same nodes and edges in the same order and the same
edges at each node, whatever the layout and whether or not positions and the time are saved. -/
theorem read_savedText (hv : f.Valid) (o : SaveOptions) (clock : Int) :
    ∃ g, Saved.read f.name (f.savedText o clock) = .ok g ∧ g.Valid ∧ g.name = f.name ∧
      g.allNodes = f.allNodes.map (Node.reloaded o.positions) ∧ g.allEdges = f.allEdges ∧
      ∀ node, g.touching.find? node = f.touching.find? node := by
  obtain ⟨g, hload, hg⟩ := Saved.load_savedJson hv o clock
  have hread : Json.read (f.savedText o clock) = .ok (f.savedJson o clock) :=
    Json.read_write (exact_savedJson 996 f o clock)
  have hedges : g.allEdges = f.allEdges := by simpa using hg.edges
  refine ⟨g, ?_, hg.valid, hg.name_eq, hg.nodes, hedges, fun node => ?_⟩
  · rw [Saved.read, hread]
    exact hload
  · rw [hg.valid.touching_find?, hv.touching_find?, hg.hasNode hv, hedges]

/-- A node with an odd label and one without a text, a loop, and two edges between the nodes. -/
def knot : Flow :=
  (empty ['k']).after ([.addNode ⟨['n'], ['"', '\\', '\n', '\x01', 'é', '😀'], ⟨0.1, -2.5⟩⟩,
    .addNode ⟨[], [], ⟨1e22, 0.0⟩⟩, .addEdge ⟨['1'], [], []⟩, .addEdge ⟨['2'], ['n'], []⟩,
    .addEdge ⟨['3'], ['n'], []⟩].map fun e => (e, { clock := 0 }))

theorem read_savedText_knot :
    knot.Valid ∧ ∃ g, Saved.read ['k'] (knot.savedText ⟨true, true, some 4⟩ 0) = .ok g ∧
      g.allNodes = knot.allNodes ∧
      g.touching.find? [] = some [⟨['1'], [], []⟩, ⟨['2'], ['n'], []⟩, ⟨['3'], ['n'], []⟩] := by
  have hv : knot.Valid := valid_reachable (reachable_after (.empty ['k']))
  obtain ⟨g, hg, _, _, hnodes, _, htouching⟩ := read_savedText hv ⟨true, true, some 4⟩ 0
  exact ⟨hv, g, hg, hnodes.trans rfl, (htouching []).trans rfl⟩

end Flow

end FlowTalk
