import FlowTalk.Proofs.Flow.Tidy
import FlowTalk.Proofs.Session.Execute

/-! All that a command can do to a flow: it makes one change, of its own kind, and succeeds, or it
leaves the flow as it is. -/
namespace FlowTalk

variable {w : World} {c : Command} {f g : Flow}

/-- The change of a flow that a command makes. A node without a label gets the next one, and an
edge is only added where there is none. -/
inductive Command.Changes : Command → Flow → Flow → Prop
  | add {label : Text} {n : Node} {f g : Flow}
      (hlabel : n.label = if label.isEmpty then f.listing.nextLabel else label)
      (h : f.addNode n = .ok g) : Changes (.add label) f g
  | delete {id : Text} {f g : Flow} (h : f.removeNode id = .ok g) : Changes (.delete id) f g
  | update {id label : Text} {f g : Flow} (h : f.relabel id label = .ok g) :
      Changes (.update id label) f g
  | connect {e : Edge} {f g : Flow} (hnew : f.edgesFrom e.source e.target = [])
      (h : f.addEdge e = .ok g) : Changes (.connect e.source e.target) f g
  | disconnect {source target : Text} {f : Flow} :
      Changes (.disconnect source target) f (f.disconnect source target).2

namespace Command

theorem Changes.mutates (h : c.Changes f g) : c.mutates = true := by
  cases h <;> rfl

theorem betweenNodes_cases (source target : Text) (w : World)
    (change : World → Changed FlowError Outcome) :
    (betweenNodes source target w change).2 = w ∨
      betweenNodes source target w change = change w := by
  cases hs : w.flow.hasNode source with
  | false => exact Or.inl (by simp [betweenNodes, hs])
  | true =>
    cases ht : w.flow.hasNode target with
    | false => exact Or.inl (by simp [betweenNodes, hs, ht])
    | true => exact Or.inr (betweenNodes_eq hs ht)

/-- A command that does not succeed, or that finds nothing to do, changes nothing. -/
theorem execute_cases (c : Command) (w : World) :
    (c.execute w).2.flow = w.flow ∨
      (∃ outcome, (c.execute w).1 = .ok outcome ∧ outcome.success = true) ∧
        c.Changes w.flow (c.execute w).2.flow := by
  cases c with
  | add label =>
    rcases World.createAt_cases (w.labelOr label) w.supply.randomPosition.1
      { w with supply := w.supply.randomPosition.2 } with ⟨_, _, h⟩ | ⟨n, hn, hlabel, h⟩
    · exact Or.inl h
    · have hdone : ∃ outcome, ((add label).execute w).1 = .ok outcome ∧ outcome.success = true :=
        ⟨_, map_eq_ok.2 ⟨n, hn, rfl⟩, rfl⟩
      exact Or.inr ⟨hdone, .add hlabel h⟩
  | delete id =>
    cases hnode : w.flow.node? id with
    | none => exact Or.inl (by simp [execute, hnode])
    | some n =>
      cases h : w.flow.removeNode id with
      | error e => exact Or.inl (by simp [execute, hnode, h])
      | ok g =>
        refine Or.inr ⟨⟨_, by simp only [execute, hnode, h]; rfl, rfl⟩, .delete ?_⟩
        simp [execute, hnode, h]
  | update id label =>
    cases hnode : w.flow.node? id with
    | none => exact Or.inl (by simp [execute, hnode])
    | some n =>
      cases h : w.flow.relabel id label with
      | error e => exact Or.inl (by simp [execute, hnode, h])
      | ok g =>
        refine Or.inr ⟨⟨_, by simp only [execute, hnode, h]; rfl, rfl⟩, .update ?_⟩
        simp [execute, hnode, h]
  | connect source target =>
    rw [execute]
    rcases betweenNodes_cases source target w _ with h | h
    · exact Or.inl (congrArg World.flow h)
    · rw [h]
      rcases World.connect_cases source target w with hsame | ⟨hnew, e, he, rfl, rfl, hadd⟩
      · exact Or.inl hsame
      · exact Or.inr ⟨⟨_, map_eq_ok.2 ⟨(e, true), he, rfl⟩, rfl⟩, .connect hnew hadd⟩
  | disconnect source target =>
    rw [execute]
    rcases betweenNodes_cases source target w _ with h | h
    · exact Or.inl (congrArg World.flow h)
    · rw [h]
      exact Or.inr ⟨⟨_, rfl, rfl⟩, .disconnect⟩
  | explain message => exact Or.inl rfl
  | unknown message => exact Or.inl rfl

/-- Nothing is changed but by success of a command that may change something. -/
theorem flow_execute_of_not (h : ∀ outcome, (c.execute w).1 = .ok outcome →
    (outcome.success && c.mutates) = false) : (c.execute w).2.flow = w.flow := by
  rcases c.execute_cases w with hsame | ⟨⟨outcome, houtcome, hsuccess⟩, hchanges⟩
  · exact hsame
  · have hnot := h outcome houtcome
    rw [hsuccess, hchanges.mutates] at hnot
    cases hnot

/-- A command that gives only labels that can be read keeps a flow tidy. -/
theorem Changes.tidy (h : c.Changes f g) (ht : f.Tidy)
    (hlabel : ∀ label ∈ c.label?, label ≠ [] ∧ Text.trim label = label) : g.Tidy := by
  cases h with
  | @add label n f g hn h =>
    refine Flow.tidy_addNode ht ?_ h
    obtain ⟨hne, htrim⟩ := hlabel label rfl
    rw [if_neg (by simpa using hne)] at hn
    rw [hn]
    exact ⟨hne, htrim⟩
  | delete h => exact Flow.tidy_removeNode ht h
  | @update id label f g h => exact Flow.tidy_relabel ht (hlabel label rfl) h
  | connect hnew h => exact Flow.tidy_addEdge ht hnew h
  | disconnect => exact Flow.tidy_disconnect ht

theorem Changes.valid (h : c.Changes f g) (hv : f.Valid) : g.Valid := by
  cases h with
  | add _ h => exact Flow.valid_addNode hv h
  | delete h => exact Flow.valid_removeNode hv h
  | update h => exact Flow.valid_relabel hv h
  | connect _ h => exact Flow.valid_addEdge hv h
  | disconnect => exact Flow.valid_disconnect hv

end Command

end FlowTalk
