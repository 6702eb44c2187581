import FlowTalk.Proofs.Flow.OnePass
import FlowTalk.Proofs.Flow.Reachable

/-! Two nodes are connected by the edge that is there first or else by a new one, which is the last.
They are disconnected by the removal of all edges from the one to the other. Done again, either finds
nothing to do. -/
namespace FlowTalk

variable {f : Flow} {w : World} {e : Edge} {source target : Text} {isNew : Bool}

namespace Flow

/-- The first edge from one node to another, by a scan of all edges. -/
def firstEdge? (source target : Text) (f : Flow) : Option Edge :=
  f.allEdges.find? fun e => e.connects source target

theorem Valid.head?_edgesFrom (hv : f.Valid) :
    (f.edgesFrom source target).head? = f.firstEdge? source target := by
  rw [hv.edgesFrom_eq, List.head?_filter, firstEdge?]

theorem Valid.edgesFrom_eq_nil (hv : f.Valid) (h : f.firstEdge? source target = none) :
    f.edgesFrom source target = [] := by
  rw [← List.head?_eq_none_iff, hv.head?_edgesFrom, h]

theorem Valid.firstEdge?_of_missing (hv : f.Valid)
    (h : f.hasNode source = false ∨ f.hasNode target = false) :
    f.firstEdge? source target = none := by
  refine List.find?_eq_none.2 fun e he hc => ?_
  obtain ⟨rfl, rfl⟩ := connects_iff.1 hc
  obtain ⟨hs, ht⟩ := hv.ends e he
  simp [hs, ht] at h

theorem firstEdge?_adding (h : f.firstEdge? source target = none)
    (he : e.connects source target = true) : (f.adding e).firstEdge? source target = some e := by
  have hall : (f.adding e).allEdges = f.allEdges ++ [e] := List.map_append
  have hold : f.allEdges.find? (fun e => e.connects source target) = none := h
  rw [firstEdge?, hall, List.find?_append, hold, Option.none_or]
  exact List.find?_cons_of_pos he

/-- All edges from the one node to the other are gone. -/
theorem disconnect_again (hv : f.Valid) : (f.disconnect source target).2.disconnect source target =
    (0, (f.disconnect source target).2) := by
  rw [disconnect_eq hv, disconnect_eq (valid_keeping hv), allEdges_keeping, keeping_keeping]
  simp [List.filter_filter]

end Flow

namespace World

/-- The edge from one node to another that is made next. -/
def nextEdge (source target : Text) (w : World) : Edge :=
  ⟨w.supply.freshEdgeId.1, source, target⟩

theorem connect_of_edge (hv : w.flow.Valid) (h : w.flow.firstEdge? source target = some e) :
    w.connect source target = (.ok (e, false), w) := by
  rw [← hv.head?_edgesFrom] at h
  obtain ⟨es, hes⟩ := List.head?_eq_some_iff.1 h
  simp [connect, hes]

theorem connect_of_none (hv : w.flow.Valid) (hs : w.flow.hasNode source = true)
    (ht : w.flow.hasNode target = true) (h : w.flow.firstEdge? source target = none) :
    w.connect source target =
      if w.flow.edges.has (w.nextEdge source target).id then
        (.error (.edgeExists (w.nextEdge source target).id),
          { w with supply := w.supply.freshEdgeId.2 })
      else (.ok (w.nextEdge source target, true),
        ⟨w.flow.adding (w.nextEdge source target), w.supply.freshEdgeId.2⟩) := by
  have hnew := hv.edgesFrom_eq_nil h
  rw [nextEdge]
  cases hid : w.flow.edges.has w.supply.freshEdgeId.1 with
  | true => simp [connect, hnew, hs, ht, Flow.addEdge, hid]
  | false =>
    have hadd : w.flow.addEdge ⟨w.supply.freshEdgeId.1, source, target⟩ = _ :=
      Flow.addEdge_eq hv hs ht hid
    simp [connect, hnew, hs, ht, hadd]

/-- The edge that was found or made is there, whatever ids come next. -/
theorem connect_again (hv : w.flow.Valid) (hs : w.flow.hasNode source = true)
    (ht : w.flow.hasNode target = true) (hok : (w.connect source target).1 = .ok (e, isNew))
    (supply : Supply) :
    connect source target ⟨(w.connect source target).2.flow, supply⟩ =
      (.ok (e, false), ⟨(w.connect source target).2.flow, supply⟩) := by
  cases h : w.flow.firstEdge? source target with
  | some first =>
    rw [connect_of_edge hv h] at hok ⊢
    obtain ⟨rfl, _⟩ := Prod.mk.inj (Except.ok.inj hok)
    exact connect_of_edge (w := ⟨w.flow, supply⟩) hv h
  | none =>
    rw [connect_of_none hv hs ht h] at hok ⊢
    cases hid : w.flow.edges.has (w.nextEdge source target).id with
    | true => simp [hid] at hok
    | false =>
      simp only [hid, Bool.false_eq_true, if_false] at hok ⊢
      obtain ⟨rfl, _⟩ := Prod.mk.inj (Except.ok.inj hok)
      have hadd := Flow.addEdge_eq (e := w.nextEdge source target) hv hs ht hid
      have hends : (w.nextEdge source target).connects source target = true :=
        Flow.connects_iff.2 ⟨rfl, rfl⟩
      exact connect_of_edge (w := ⟨_, supply⟩) (Flow.valid_addEdge hv hadd)
        (Flow.firstEdge?_adding h hends)

/-- Between two nodes there are: to connect them is to find the first edge, and then all stays as it
is, or else to add one edge as the last, unless its id is taken, which is refused and changes no
flow. To disconnect them is to keep all edges but those from the one to the other, which are counted.
A second time each changes nothing. -/
theorem connect_disconnect_exact (hv : w.flow.Valid) (hs : w.flow.hasNode source = true)
    (ht : w.flow.hasNode target = true) :
    (∀ e, w.flow.firstEdge? source target = some e →
        w.connect source target = (.ok (e, false), w)) ∧
      (w.flow.firstEdge? source target = none → w.connect source target =
        if w.flow.edges.has (w.nextEdge source target).id then
          (.error (.edgeExists (w.nextEdge source target).id),
            { w with supply := w.supply.freshEdgeId.2 })
        else (.ok (w.nextEdge source target, true),
          ⟨w.flow.adding (w.nextEdge source target), w.supply.freshEdgeId.2⟩)) ∧
      (∀ e isNew, (w.connect source target).1 = .ok (e, isNew) → ∀ supply,
        connect source target ⟨(w.connect source target).2.flow, supply⟩ =
          (.ok (e, false), ⟨(w.connect source target).2.flow, supply⟩)) ∧
      w.flow.disconnect source target =
        ((w.flow.allEdges.filter fun e => e.connects source target).length,
          w.flow.keeping fun e => !e.connects source target) ∧
      (w.flow.disconnect source target).2.disconnect source target =
        (0, (w.flow.disconnect source target).2) :=
  ⟨fun _ h => connect_of_edge hv h, connect_of_none hv hs ht,
    fun _ _ hok => connect_again hv hs ht hok, Flow.disconnect_eq hv, Flow.disconnect_again hv⟩

/-- Two edges between the same nodes, with one in the other direction between them. -/
def parallel : World :=
  ⟨(Flow.empty []).after ([.addNode ⟨['a'], ['x'], .origin⟩, .addNode ⟨['b'], ['y'], .origin⟩,
      .addEdge ⟨['1'], ['a'], ['b']⟩, .addEdge ⟨['2'], ['b'], ['a']⟩,
      .addEdge ⟨['3'], ['a'], ['b']⟩].map fun e => (e, { clock := 0 })), { clock := 0 }⟩

theorem connect_disconnect_exact_parallel :
    parallel.flow.Valid ∧ parallel.flow.hasNode ['a'] = true ∧
      parallel.flow.hasNode ['b'] = true ∧
      parallel.connect ['a'] ['b'] = (.ok (⟨['1'], ['a'], ['b']⟩, false), parallel) ∧
      (parallel.flow.disconnect ['a'] ['b']).1 = 2 ∧
      (parallel.flow.disconnect ['a'] ['b']).2.allEdges = [⟨['2'], ['b'], ['a']⟩] ∧
      (parallel.connect ['b'] ['b']).1 =
        .ok (⟨"edge-0-000000001".toList, ['b'], ['b']⟩, true) := by
  have hv : parallel.flow.Valid := Flow.valid_reachable (Flow.reachable_after (.empty []))
  have ha : parallel.flow.hasNode ['a'] = true := rfl
  have hb : parallel.flow.hasNode ['b'] = true := rfl
  obtain ⟨hfirst, _, _, hdisconnect, _⟩ := connect_disconnect_exact hv ha hb
  obtain ⟨_, hnew, _⟩ := connect_disconnect_exact hv hb hb
  have hid : parallel.nextEdge ['b'] ['b'] = ⟨"edge-0-000000001".toList, ['b'], ['b']⟩ := by
    decide +kernel
  refine ⟨hv, ha, hb, hfirst _ rfl, by rw [hdisconnect]; rfl, by rw [hdisconnect]; rfl, ?_⟩
  rw [hnew rfl, hid]
  rfl

/-- The id that is taken next already stands for an edge in the other direction. -/
def taken : World :=
  ⟨(Flow.empty []).after ([.addNode ⟨['a'], ['x'], .origin⟩, .addNode ⟨['b'], ['y'], .origin⟩,
      .addEdge ⟨"edge-0-000000001".toList, ['b'], ['a']⟩].map fun e => (e, { clock := 0 })),
    { clock := 0 }⟩

/-- Without an edge from the one node to the other, none need be added. -/
theorem connect_taken :
    taken.flow.Valid ∧ taken.flow.hasNode ['a'] = true ∧ taken.flow.hasNode ['b'] = true ∧
      taken.flow.firstEdge? ['a'] ['b'] = none ∧
      taken.connect ['a'] ['b'] = (.error (.edgeExists "edge-0-000000001".toList),
        { taken with supply := taken.supply.freshEdgeId.2 }) := by
  have hv : taken.flow.Valid := Flow.valid_reachable (Flow.reachable_after (.empty []))
  have hid : taken.nextEdge ['a'] ['b'] = ⟨"edge-0-000000001".toList, ['a'], ['b']⟩ := by
    decide +kernel
  refine ⟨hv, rfl, rfl, rfl, ?_⟩
  rw [connect_of_none hv rfl rfl rfl, hid]
  rfl

end World

end FlowTalk
