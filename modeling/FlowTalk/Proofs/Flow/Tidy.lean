import FlowTalk.Proofs.Flow.Valid
import FlowTalk.Text.Basic

/-! Flows in which no two edges have the same ends in the same order and every label can be read.
Changes that take care of the new edge or the new label keep them so. -/
namespace FlowTalk.Flow
open Table

variable {f g : Flow} {n : Node} {e : Edge} {id source target label : Text}

/-- At most one edge runs from one node to another, and a label is there and has no outer white
space. -/
structure Tidy (f : Flow) : Prop where
  valid : f.Valid
  single : ∀ source target, (f.allEdges.filter fun e => e.connects source target).length ≤ 1
  labelled : ∀ n ∈ f.allNodes, n.label ≠ [] ∧ Text.trim n.label = n.label

/-! What a change does to the nodes, and to the edges -/

theorem allEdges_addNode (h : f.addNode n = .ok g) : g.allEdges = f.allEdges := by
  obtain ⟨_, rfl⟩ := addNode_eq_ok h
  rfl

theorem allNodes_relabel (hv : f.Valid) (h : f.relabel id label = .ok g) :
    g.allNodes = f.allNodes.map fun n => if n.id = id then { n with label := label } else n := by
  obtain ⟨_, rfl⟩ := relabel_eq_ok h
  exact hv.nodes_keyed.values_adjust (f := fun n => { n with label := label })

theorem allEdges_relabel (h : f.relabel id label = .ok g) : g.allEdges = f.allEdges := by
  obtain ⟨_, rfl⟩ := relabel_eq_ok h
  rfl

theorem allNodes_removeNode (hv : f.Valid) (h : f.removeNode id = .ok g) :
    g.allNodes = f.allNodes.filter fun n => n.id != id := by
  obtain ⟨_, rfl⟩ := removeNode_eq_ok h
  rw [allNodes, nodes_removeEdges]
  exact hv.nodes_keyed.values_erase

theorem allNodes_addEdge (h : f.addEdge e = .ok g) : g.allNodes = f.allNodes := by
  obtain ⟨_, _, _, rfl⟩ := addEdge_eq_ok h
  rfl

theorem allNodes_disconnect : (f.disconnect source target).2.allNodes = f.allNodes := by
  rw [allNodes, disconnect, nodes_removeEdges, allNodes]

/-! Each change keeps a flow tidy -/

theorem tidy_empty (name : Text) : (empty name).Tidy where
  valid := valid_empty name
  single := fun _ _ => Nat.zero_le 1
  labelled := fun _ h => absurd h List.not_mem_nil

theorem tidy_clear : f.clear.Tidy := tidy_empty f.name

/-- Fewer edges are still single. -/
theorem Tidy.single_filter (h : f.Tidy) (p : Edge → Bool) (source target : Text) :
    ((f.allEdges.filter p).filter fun e => e.connects source target).length ≤ 1 :=
  Nat.le_trans (List.filter_sublist.filter _).length_le (h.single source target)

theorem tidy_addNode (ht : f.Tidy) (hlabel : n.label ≠ [] ∧ Text.trim n.label = n.label)
    (h : f.addNode n = .ok g) : g.Tidy := by
  refine ⟨valid_addNode ht.valid h, ?_, fun n' hn' => ?_⟩
  · rw [allEdges_addNode h]
    exact ht.single
  · rw [allNodes_addNode h] at hn'
    rcases List.mem_append.1 hn' with hn' | hn'
    · exact ht.labelled n' hn'
    · rw [List.mem_singleton.1 hn']
      exact hlabel

theorem tidy_relabel (ht : f.Tidy) (hlabel : label ≠ [] ∧ Text.trim label = label)
    (h : f.relabel id label = .ok g) : g.Tidy := by
  refine ⟨valid_relabel ht.valid h, ?_, fun n' hn' => ?_⟩
  · rw [allEdges_relabel h]
    exact ht.single
  · rw [allNodes_relabel ht.valid h] at hn'
    obtain ⟨n, hn, rfl⟩ := List.mem_map.1 hn'
    by_cases hid : n.id = id
    · simpa [hid] using hlabel
    · simpa [hid] using ht.labelled n hn

theorem tidy_removeNode (ht : f.Tidy) (h : f.removeNode id = .ok g) : g.Tidy := by
  refine ⟨valid_removeNode ht.valid h, ?_, fun n hn => ?_⟩
  · rw [allEdges_removeNode ht.valid h]
    exact ht.single_filter _
  · rw [allNodes_removeNode ht.valid h] at hn
    exact ht.labelled n (List.mem_of_mem_filter hn)

/-- What is read at one end before an edge is added decides whether the edge is the only one. -/
theorem tidy_addEdge (ht : f.Tidy) (hnew : f.edgesFrom e.source e.target = [])
    (h : f.addEdge e = .ok g) : g.Tidy := by
  refine ⟨valid_addEdge ht.valid h, fun source target => ?_, ?_⟩
  · rw [allEdges_addEdge h, List.filter_append, List.length_append]
    cases hc : e.connects source target with
    | true =>
      obtain ⟨rfl, rfl⟩ := connects_iff.1 hc
      rw [ht.valid.edgesFrom_eq] at hnew
      simp [hnew, hc]
    | false => simpa [hc] using ht.single source target
  · rw [allNodes_addEdge h]
    exact ht.labelled

theorem tidy_disconnect (ht : f.Tidy) : (f.disconnect source target).2.Tidy := by
  refine ⟨valid_disconnect ht.valid, ?_, ?_⟩
  · rw [allEdges_disconnect ht.valid]
    exact ht.single_filter _
  · rw [allNodes_disconnect]
    exact ht.labelled

end FlowTalk.Flow
