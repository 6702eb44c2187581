import FlowTalk.Proofs.Session.Connect
import FlowTalk.Proofs.Session.Delete

/-! What leaves no trace, and what may be done in any order. A node that comes, with edges that come
to it, goes without a trace. Removals come to the same flow in either order. -/
namespace FlowTalk

variable {f g h : Flow} {n : Node} {e : Edge} {id x y source target : Text} {p : Edge → Bool}

/-! Nodes that come and go -/

namespace Flow
open Table

theorem without_adding (he : e.touches id = true) : (f.adding e).without id = f.without id := by
  have hkeep : (f.adding e).keeping (fun e => !e.touches id) = f.keeping fun e => !e.touches id :=
    keeping_adding (by simp [he])
  rw [without, without, hkeep]
  rfl

theorem without_addNode (hv : f.Valid) (hg : f.addNode n = .ok g) : g.without n.id = f := by
  have hall : g.keeping (fun e => !e.touches n.id) = g := by
    apply keeping_eq_self (valid_addNode hv hg)
    intro e he
    obtain ⟨hnew, rfl⟩ := addNode_eq_ok hg
    by_cases ht : e.touches n.id = true
    · simp [hv.hasNode_of_touches he ht] at hnew
    · simpa using ht
  obtain ⟨hnew, rfl⟩ := addNode_eq_ok hg
  rw [without, hall, erase_put_of_not_has hnew,
    erase_put_of_not_has (hv.has_touching.trans hnew)]

/-- The second flow is the first with one node more, and with edges that touch it. -/
structure Grown (id : Text) (f g : Flow) : Prop where
  valid : g.Valid
  hasNode : g.hasNode id = true
  without : g.without id = f

namespace Grown

theorem of_addNode (hv : f.Valid) (hg : f.addNode n = .ok g) : Grown n.id f g := by
  refine ⟨valid_addNode hv hg, ?_, without_addNode hv hg⟩
  simp [hasNode_addNode hg]

theorem addEdge (hg : Grown id f g) (he : e.touches id = true) (hh : g.addEdge e = .ok h) :
    Grown id f h := by
  obtain ⟨hs, ht, hid, _⟩ := addEdge_eq_ok hh
  obtain rfl : g.adding e = h := by
    have hadd := addEdge_eq hg.valid hs ht hid
    exact Except.ok.inj (hadd.symm.trans hh)
  refine ⟨valid_addEdge hg.valid hh, hg.hasNode, ?_⟩
  rw [without_adding he, hg.without]

theorem removeNode (hg : Grown id f g) : g.removeNode id = .ok f := by
  rw [removeNode_eq hg.valid hg.hasNode, hg.without]

end Grown

end Flow

namespace Edit

/-- To connect a node with another or with itself, or another with it. -/
inductive Attaches (id : Text) : Edit → Prop
  | outgoing (target : Text) : Attaches id (.connect id target)
  | incoming (source : Text) : Attaches id (.connect source id)

end Edit

namespace Flow.Grown

variable {c : Edit} {changes : List (Edit × Supply)} {supply : Supply}

theorem connect (hg : Grown id f g) (hends : source = id ∨ target = id) :
    Grown id f (World.connect source target ⟨g, supply⟩).2.flow := by
  rcases World.connect_cases source target ⟨g, supply⟩ with hsame | ⟨_, e, _, rfl, rfl, hadd⟩
  · rw [hsame]
    exact hg
  · exact hg.addEdge (touches_iff.2 hends) hadd

theorem apply (hg : Grown id f g) (hc : c.Attaches id) :
    Grown id f (c.apply ⟨g, supply⟩).flow := by
  cases hc with
  | outgoing target => exact hg.connect (Or.inl rfl)
  | incoming source => exact hg.connect (Or.inr rfl)

/-- By induction on the changes: the node is there all the time, and all that comes touches it. -/
theorem after (hg : Grown id f g) (hc : ∀ c ∈ changes, c.1.Attaches id) :
    Grown id f (g.after changes) := by
  induction changes generalizing g with
  | nil => exact hg
  | cons c changes ih =>
    obtain ⟨hfirst, hrest⟩ := List.forall_mem_cons.1 hc
    exact ih (hg.apply hfirst) hrest

end Flow.Grown

namespace World

variable {w : World} {position : Json}

theorem createAt_of_fresh (text : Text) (place : Position)
    (hfresh : w.flow.hasNode w.supply.freshNodeId.1 = false) :
    ∃ n, (w.createAt text place).1 = .ok n := by
  obtain ⟨g, hg⟩ := Flow.exists_addNode (n := ⟨w.supply.freshNodeId.1, text, place⟩) hfresh
  exact ⟨⟨w.supply.freshNodeId.1, text, place⟩, by simp only [createAt, hg]⟩

/-- A node is created if its id is fresh and its place, where one is given, is a position. -/
theorem createFrom_of_fresh (label : Json)
    (hfresh : w.flow.hasNode w.supply.freshNodeId.1 = false)
    (hplace : position = .null ∨ ∃ place, Position.ofJson position = .ok place) :
    ∃ n, (w.createFrom label position).1 = .ok n ∧
      w.flow.addNode n = .ok (w.createFrom label position).2.flow := by
  rcases createFrom_cases label position w with ⟨e, he, _⟩ | hok
  · exfalso
    rcases hplace with rfl | ⟨place, hplace⟩
    · obtain ⟨n, hn⟩ := createAt_of_fresh (w := { w with supply := w.supply.randomPosition.2 })
        (w.labelOr (if label.isFalsy then [] else label.display)) w.supply.randomPosition.1 hfresh
      simp [createFrom, create, hn, Except.mapError] at he
    · have hnull : position ≠ .null := by
        rintro rfl
        simp [Position.ofJson] at hplace
      obtain ⟨n, hn⟩ :=
        createAt_of_fresh (w.labelOr (if label.isFalsy then [] else label.display)) place hfresh
      rw [createFrom_of_ne_null hnull] at he
      simp [createAtValue, hplace, hn, Except.mapError] at he
  · exact hok

end World

/-! Removals in either order -/

namespace Flow
open Table

theorem keeping_without : (f.without id).keeping p = (f.keeping p).without id := by
  have hkeep : (f.keeping fun e => !e.touches id).keeping p =
      (f.keeping p).keeping fun e => !e.touches id := keeping_comm
  rw [without, without, ← hkeep, keeping, mapAll_erase]
  rfl

theorem without_without : (f.without x).without y =
    let rest := (f.keeping fun e => !e.touches x).keeping fun e => !e.touches y
    { rest with
      nodes := (f.nodes.erase x).erase y
      touching := (rest.touching.erase x).erase y } := by
  rw [without, keeping_without, without, keeping_comm]
  rfl

/-- An edge between the two nodes goes with the first of them. -/
theorem without_comm : (f.without x).without y = (f.without y).without x := by
  rw [without_without, without_without, keeping_comm]
  dsimp only
  rw [erase_comm x y, erase_comm x y]

theorem removeNode_removeNode (hv : f.Valid) (hx : f.hasNode x = true) (hy : f.hasNode y = true)
    (hne : x ≠ y) : f.removeNode x >>= removeNode y = .ok ((f.without x).without y) := by
  have hfirst : f.removeNode x = .ok (f.without x) := removeNode_eq hv hx
  have hstay : (f.without x).hasNode y = true := by
    rw [hasNode_removeNode hfirst, hy]
    simpa using hne.symm
  rw [hfirst]
  exact removeNode_eq (valid_without hv hx) hstay

theorem disconnect_comm (hv : f.Valid) {s t : Text} :
    ((f.disconnect source target).2.disconnect s t).2 =
      ((f.disconnect s t).2.disconnect source target).2 := by
  rw [disconnect_eq hv, disconnect_eq hv, disconnect_eq (valid_keeping hv),
    disconnect_eq (valid_keeping hv)]
  dsimp only
  exact keeping_comm

/-- A node with a fresh id is created. Whatever connections of it are then asked for, refused or
not, once it is removed the flow is what it was. Two nodes that are removed, and two pairs of nodes
that are disconnected, leave the same flow in either order. -/
theorem removal_exact (hv : f.Valid) :
    (∀ label position supply, f.hasNode supply.freshNodeId.1 = false →
        (position = .null ∨ ∃ place, Position.ofJson position = .ok place) →
        ∃ n w, World.createFrom label position ⟨f, supply⟩ = (.ok n, w) ∧
          ∀ changes : List (Edit × Supply), (∀ c ∈ changes, c.1.Attaches n.id) →
            (w.flow.after changes).removeNode n.id = .ok f) ∧
      (∀ x y, f.hasNode x = true → f.hasNode y = true → x ≠ y →
        ∃ g, f.removeNode x >>= removeNode y = .ok g ∧ f.removeNode y >>= removeNode x = .ok g) ∧
      ∀ source target s t, ((f.disconnect source target).2.disconnect s t).2 =
        ((f.disconnect s t).2.disconnect source target).2 := by
  refine ⟨?_, ?_, ?_⟩
  · intro label position supply hfresh hplace
    obtain ⟨n, hn, hadd⟩ :=
      World.createFrom_of_fresh (w := ⟨f, supply⟩) label hfresh hplace
    refine ⟨n, (World.createFrom label position ⟨f, supply⟩).2, Prod.ext hn rfl, ?_⟩
    intro changes hc
    have hgrown := (Grown.of_addNode hv hadd).after hc
    exact hgrown.removeNode
  · intro x y hx hy hne
    refine ⟨(f.without x).without y, removeNode_removeNode hv hx hy hne, ?_⟩
    rw [removeNode_removeNode hv hy hx hne.symm, without_comm]
  · intro source target s t
    exact disconnect_comm hv

/-- An edge each way and a loop, one of them asked for again, and an edge to a node that is not
there. -/
def visits (id : Text) : List (Edit × Supply) :=
  [Edit.connect id ['a'], .connect ['b'] id, .connect id id, .connect id ['a'],
    .connect id ['c']].mapIdx fun i c => (c, { clock := 0, ids := i })

theorem attaches_visits : ∀ c ∈ visits id, c.1.Attaches id := by
  simp [visits, Edit.Attaches.outgoing, Edit.Attaches.incoming]

theorem removal_exact_visits :
    World.parallel.flow.Valid ∧
      ∃ n w, World.createFrom .null .null World.parallel = (.ok n, w) ∧
        n.id = "node-0-000000001".toList ∧
        (w.flow.after (visits n.id)).allEdges.map (fun e => (e.source, e.target)) =
          [(['a'], ['b']), (['b'], ['a']), (['a'], ['b']), (n.id, ['a']), (['b'], n.id),
            (n.id, n.id)] ∧
        (w.flow.after (visits n.id)).removeNode n.id = .ok World.parallel.flow ∧
      ∃ g, World.parallel.flow.removeNode ['a'] >>= removeNode ['b'] = .ok g ∧
        World.parallel.flow.removeNode ['b'] >>= removeNode ['a'] = .ok g := by
  have hv : World.parallel.flow.Valid := valid_reachable (reachable_after (.empty []))
  obtain ⟨hcreated, hremoved, _⟩ := removal_exact hv
  obtain ⟨n, w, hn, hback⟩ :=
    hcreated .null .null World.parallel.supply (by decide +kernel) (Or.inl rfl)
  have hsome : some n.id = some "node-0-000000001".toList := by
    have hmade : (World.createFrom .null .null World.parallel).1.toOption.map Node.id =
        some "node-0-000000001".toList := by decide +kernel
    have hsame := congrArg (fun r => r.1.toOption.map Node.id) hn
    exact hsame.symm.trans hmade
  have hid : n.id = "node-0-000000001".toList := Option.some.inj hsome
  obtain rfl : (World.createFrom .null .null World.parallel).2 = w := congrArg Prod.snd hn
  refine ⟨hv, n, _, hn, hid, ?_, hback _ attaches_visits,
    hremoved ['a'] ['b'] rfl rfl (by decide)⟩
  rw [hid]
  decide +kernel

end Flow

end FlowTalk
