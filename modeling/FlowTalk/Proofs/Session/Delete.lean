import FlowTalk.Proofs.Flow.OnePass
import FlowTalk.Proofs.Flow.Reachable
import FlowTalk.Proofs.Interpret.Numbering

/-! A node that is deleted takes the edges along that touch it and nothing else, and the report
counts them, each once. -/
namespace FlowTalk

variable {f : Flow} {w : World} {n : Node} {id node : Text}

namespace Flow
open Table

theorem allNodes_without (hv : f.Valid) :
    (f.without id).allNodes = f.allNodes.filter fun n => n.id != id := hv.nodes_keyed.values_erase

theorem allEdges_without : (f.without id).allEdges = f.allEdges.filter fun e => !e.touches id :=
  allEdges_keeping (f := f) (p := fun e => !e.touches id)

theorem find?_touching_without : (f.without id).touching.find? node =
    if node = id then none
    else (f.touching.find? node).map fun es => es.filter fun e => !e.touches id := by
  rw [without, find?_erase, keeping, find?_mapAll]

theorem valid_without (hv : f.Valid) (h : f.hasNode id = true) : (f.without id).Valid :=
  valid_removeNode hv (removeNode_eq hv h)

theorem listing_without (hv : f.Valid) :
    (f.without id).listing = Listing.renumbered (f.listing.filter fun entry => entry.id != id) := by
  have hpairs : f.listing.pairs = f.allNodes.map fun n => (n.id, n.label) :=
    Listing.pairs_ofPairs _
  have hrest : Listing.pairs (f.listing.filter fun entry => entry.id != id) =
      f.listing.pairs.filter fun pair => pair.1 != id := by
    rw [Listing.pairs, Listing.pairs, List.filter_map]
    rfl
  rw [Listing.renumbered, hrest, hpairs, List.filter_map, listing, allNodes_without hv]
  rfl

end Flow

namespace Command

theorem execute_delete (hv : w.flow.Valid) (hn : n ∈ w.flow.allNodes) :
    (delete n.id).execute w = (.ok (.done ("Node ".toList ++ named n.label ++ " deleted (".toList ++
      Text.ofNat (w.flow.allEdges.filter fun e => e.touches n.id).length ++
      " connection(s) removed).".toList)), { w with flow := w.flow.without n.id }) := by
  have hfind : w.flow.node? n.id = some n := hv.nodes_keyed.find?_eq_some.2 ⟨hn, rfl⟩
  have hhas : w.flow.hasNode n.id = true := hv.nodes_keyed.has_iff.2 ⟨n, hn, rfl⟩
  simp only [execute, hfind, Flow.removeNode_eq hv hhas]

/-- A node that is deleted leaves the other nodes and the edges that do not touch it, in their
order. The list of the node is gone and no other list mentions an edge that is gone. The nodes are
numbered again from the first, and the number that is reported is that of the edges that are gone. -/
theorem execute_delete_exact (hv : w.flow.Valid) (hn : n ∈ w.flow.allNodes) :
    ∃ g count, (delete n.id).execute w =
        (.ok (.done ("Node ".toList ++ named n.label ++ " deleted (".toList ++ Text.ofNat count ++
          " connection(s) removed).".toList)), { w with flow := g }) ∧
      count + g.allEdges.length = w.flow.allEdges.length ∧
      g.name = w.flow.name ∧
      g.allNodes = w.flow.allNodes.filter (fun m => m.id != n.id) ∧
      g.allEdges = w.flow.allEdges.filter (fun e => !e.touches n.id) ∧
      (∀ node, g.touching.find? node = if node = n.id then none
        else (w.flow.touching.find? node).map fun es => es.filter fun e => !e.touches n.id) ∧
      (∀ entry ∈ g.touching, ∀ e ∈ entry.2, e ∈ g.allEdges) ∧
      g.Valid ∧
      g.listing = Listing.renumbered (w.flow.listing.filter fun entry => entry.id != n.id) := by
  have hvalid : (w.flow.without n.id).Valid :=
    Flow.valid_without hv (hv.nodes_keyed.has_iff.2 ⟨n, hn, rfl⟩)
  have hcount : (w.flow.allEdges.filter fun e => e.touches n.id).length +
      (w.flow.without n.id).allEdges.length = w.flow.allEdges.length := by
    rw [Flow.allEdges_without]
    exact (List.length_eq_length_filter_add fun e : Edge => e.touches n.id).symm
  exact ⟨w.flow.without n.id, _, execute_delete hv hn, hcount, rfl, Flow.allNodes_without hv,
    Flow.allEdges_without, fun _ => Flow.find?_touching_without,
    fun _ hentry _ he => hvalid.mem_allEdges_of_touching hentry he, hvalid,
    Flow.listing_without hv⟩

/-- A node with a loop, two edges to a second node and one from there, and an edge beside them. -/
def tangle : World :=
  ⟨(Flow.empty []).after ([.addNode ⟨['a'], ['x'], .origin⟩, .addNode ⟨['b'], ['y'], .origin⟩,
      .addNode ⟨['c'], ['z'], .origin⟩, .addEdge ⟨['1'], ['a'], ['a']⟩,
      .addEdge ⟨['2'], ['a'], ['b']⟩, .addEdge ⟨['3'], ['a'], ['b']⟩,
      .addEdge ⟨['4'], ['b'], ['a']⟩,
      .addEdge ⟨['5'], ['b'], ['c']⟩].map fun e => (e, { clock := 0 })), { clock := 0 }⟩

theorem execute_delete_exact_tangle :
    tangle.flow.Valid ∧ ⟨['a'], ['x'], .origin⟩ ∈ tangle.flow.allNodes ∧
      ∃ g, (delete ['a']).execute tangle =
          (.ok (.done "Node 'x' deleted (4 connection(s) removed).".toList),
            { tangle with flow := g }) ∧
        g.allEdges = [⟨['5'], ['b'], ['c']⟩] ∧
        g.listing = [⟨['b'], ['y'], 0⟩, ⟨['c'], ['z'], 1⟩] := by
  have hv : tangle.flow.Valid := Flow.valid_reachable (Flow.reachable_after (.empty []))
  have hn : ⟨['a'], ['x'], .origin⟩ ∈ tangle.flow.allNodes := List.mem_cons_self
  obtain ⟨g, count, hexecute, hcount, _, _, hedges, _, _, _, hlisting⟩ :=
    execute_delete_exact hv hn
  have hleft : g.allEdges = [⟨['5'], ['b'], ['c']⟩] := hedges.trans (by decide)
  have hall : tangle.flow.allEdges.length = 5 := rfl
  obtain rfl : count = 4 := by
    rw [hleft, hall] at hcount
    simpa using hcount
  exact ⟨hv, hn, g, hexecute, hleft, hlisting.trans (by decide)⟩

end Command

end FlowTalk
