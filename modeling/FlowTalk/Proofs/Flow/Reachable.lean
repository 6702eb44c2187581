import FlowTalk.Proofs.Saved.Load
import FlowTalk.Proofs.Session.World

/-! Flows that come about from an empty or a loaded one by changes in any order. -/
namespace FlowTalk

/-- A change that can be asked for; it may be refused. -/
inductive Edit where
  | addNode (n : Node)
  | createNode (label position : Json)
  | relabel (id label : Text)
  | removeNode (id : Text)
  | addEdge (e : Edge)
  | connect (source target : Text)
  | removeEdge (id : Text)
  | disconnect (source target : Text)
  | clear

namespace Edit

/-- The flow after a change without fresh ids, which is not there if the change is refused. -/
def settle (w : World) (r : Except FlowError Flow) : World :=
  match r with
  | .ok flow => { w with flow }
  | .error _ => w

/-- The world after a change, refused or not. -/
def apply : Edit → World → World
  | addNode n, w => settle w (w.flow.addNode n)
  | createNode label position, w => (w.createFrom label position).2
  | relabel id label, w => settle w (w.flow.relabel id label)
  | removeNode id, w => settle w (w.flow.removeNode id)
  | addEdge e, w => settle w (w.flow.addEdge e)
  | connect source target, w => (w.connect source target).2
  | removeEdge id, w => { w with flow := w.flow.removeEdge id }
  | disconnect source target, w => { w with flow := (w.flow.disconnect source target).2 }
  | clear, w => { w with flow := w.flow.clear }

variable {w : World} {r : Except FlowError Flow}

theorem valid_settle (hv : w.flow.Valid) (hr : ∀ g, r = .ok g → g.Valid) :
    (settle w r).flow.Valid := by
  cases r with
  | error e => exact hv
  | ok g => exact hr g rfl

theorem valid_apply (e : Edit) (hv : w.flow.Valid) : (e.apply w).flow.Valid := by
  cases e with
  | addNode n => exact valid_settle hv fun _ h => Flow.valid_addNode hv h
  | createNode label position => exact World.valid_createFrom hv
  | relabel id label => exact valid_settle hv fun _ h => Flow.valid_relabel hv h
  | removeNode id => exact valid_settle hv fun _ h => Flow.valid_removeNode hv h
  | addEdge e => exact valid_settle hv fun _ h => Flow.valid_addEdge hv h
  | connect source target => exact World.valid_connect hv
  | removeEdge id => exact Flow.valid_removeEdge hv
  | disconnect source target => exact Flow.valid_disconnect hv
  | clear => exact Flow.valid_clear

end Edit

namespace Flow

/-- Flows that come about. The supply is any at each change, so a fresh id may be taken already, and
an id that was removed may come back. -/
inductive Reachable : Flow → Prop
  | empty (name : Text) : Reachable (.empty name)
  | loaded {name : Text} {v : Json} {f : Flow} (h : Saved.load name v = .ok f) : Reachable f
  | edited {f : Flow} (h : Reachable f) (e : Edit) (supply : Supply) :
      Reachable (e.apply ⟨f, supply⟩).flow

variable {f : Flow} {changes : List (Edit × Supply)}

theorem valid_reachable (h : Reachable f) : f.Valid := by
  induction h with
  | empty name => exact valid_empty name
  | loaded h => exact Saved.valid_load h
  | edited _ e _ ih => exact Edit.valid_apply e ih

/-- The flow after some changes in their order, each with a supply of its own. -/
def after (changes : List (Edit × Supply)) (f : Flow) : Flow :=
  changes.foldl (fun f c => (c.1.apply ⟨f, c.2⟩).flow) f

theorem reachable_after (h : Reachable f) : Reachable (f.after changes) := by
  induction changes generalizing f with
  | nil => exact h
  | cons c changes ih => exact ih (h.edited c.1 c.2)

/-- However a flow has come about, its two views of the edges agree: what is read at one end of an
edge is what a scan of all edges finds. -/
theorem reachable_index_exact (h : Reachable f) :
    f.Valid ∧ (∀ node, node ∈ f.touching.keys ↔ node ∈ f.nodes.keys) ∧
      ∀ source target, f.edgesFrom source target =
        f.allEdges.filter fun e => e.connects source target := by
  have hv := valid_reachable h
  exact ⟨hv, fun _ => hv.mem_touching_keys, fun _ _ => hv.edgesFrom_eq⟩

/-- A node with a loop is removed, comes back under its id and gets two loops; a third edge is
refused. -/
def loops : List (Edit × Supply) :=
  [.addNode ⟨['a'], [], .origin⟩, .addEdge ⟨['1'], ['a'], ['a']⟩, .removeNode ['a'],
    .addNode ⟨['a'], [], .origin⟩, .addEdge ⟨['1'], ['a'], ['a']⟩,
    .addEdge ⟨['2'], ['a'], ['a']⟩, .addEdge ⟨['3'], ['a'], ['b']⟩].map fun e => (e, { clock := 0 })

theorem reachable_index_exact_loops :
    Reachable ((empty []).after loops) ∧ ((empty []).after loops).Valid ∧
      ((empty []).after loops).edgesFrom ['a'] ['a'] =
        [⟨['1'], ['a'], ['a']⟩, ⟨['2'], ['a'], ['a']⟩] := by
  have h : Reachable ((empty []).after loops) := reachable_after (.empty [])
  refine ⟨h, (reachable_index_exact h).1, ?_⟩
  rw [(reachable_index_exact h).2.2]
  rfl

end Flow

end FlowTalk
