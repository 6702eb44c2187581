import FlowTalk.Proofs.Interpret.Build
import FlowTalk.Proofs.Session.World
import FlowTalk.Session.Basic

/-! A command about nodes of the flow is carried out: it succeeds unless it is unknown. -/
namespace FlowTalk

variable {w : World} {c : Command} {label source target id : Text}
  {position : Position}

/-- The ids that will be taken next are not in use. -/
structure World.Fresh (w : World) : Prop where
  node : w.flow.hasNode w.supply.freshNodeId.1 = false
  edge : w.flow.edges.has w.supply.freshEdgeId.1 = false

namespace World

theorem createAt_ok (h : w.flow.hasNode w.supply.freshNodeId.1 = false) :
    ∃ n, (w.createAt label position).1 = .ok n := by
  have hadd : ∃ g, w.flow.addNode ⟨w.supply.freshNodeId.1, label, position⟩ = .ok g :=
    Flow.exists_addNode h
  obtain ⟨g, hg⟩ := hadd
  exact ⟨⟨w.supply.freshNodeId.1, label, position⟩, by simp [createAt, hg]⟩

/-- Random numbers do not change the ids. -/
theorem create_ok (h : w.Fresh) : ∃ n, (w.create label).1 = .ok n :=
  createAt_ok (w := { w with supply := w.supply.randomPosition.2 }) h.node

theorem connect_ok (h : w.Fresh) (hs : w.flow.hasNode source = true)
    (ht : w.flow.hasNode target = true) : ∃ r, (w.connect source target).1 = .ok r := by
  cases hes : w.flow.edgesFrom source target with
  | cons e es => exact ⟨(e, false), by simp [connect, hes]⟩
  | nil =>
    have hadd : ∃ g, w.flow.addEdge ⟨w.supply.freshEdgeId.1, source, target⟩ = .ok g :=
      Flow.exists_addEdge hs ht h.edge
    obtain ⟨g, hg⟩ := hadd
    exact ⟨(⟨w.supply.freshEdgeId.1, source, target⟩, true), by
      simp [connect, hes, hs, ht, hg]⟩

end World

namespace Command

theorem betweenNodes_eq {change : World → Changed FlowError Outcome}
    (hs : w.flow.hasNode source = true) (ht : w.flow.hasNode target = true) :
    betweenNodes source target w change = change w := by
  simp [betweenNodes, hs, ht]

/-- None of the refusals of a command is met. -/
theorem execute_ok (h : w.Fresh) (hc : ∀ id ∈ c.nodeIds, w.flow.hasNode id = true) :
    ∃ outcome, (c.execute w).1 = .ok outcome ∧
      (outcome.success = true ↔ c.intent ≠ .unknown) := by
  cases c with
  | add label =>
    have hcreate : ∃ n, (w.create label).1 = .ok n := World.create_ok h
    obtain ⟨n, hn⟩ := hcreate
    have hpair : w.create label = (.ok n, (w.create label).2) := Prod.ext hn rfl
    exact ⟨_, by rw [execute, hpair]; rfl, by simp [intent]⟩
  | delete id =>
    have hid : w.flow.hasNode id = true := hc id (by simp [nodeIds])
    obtain ⟨n, hn⟩ := Flow.node?_of_hasNode hid
    cases hremove : w.flow.removeNode id with
    | error e => simp [Flow.removeNode, hid] at hremove
    | ok g => exact ⟨_, by rw [execute, hn, hremove], by simp [intent, Outcome.done]⟩
  | update id label =>
    have hid : w.flow.hasNode id = true := hc id (by simp [nodeIds])
    obtain ⟨n, hn⟩ := Flow.node?_of_hasNode hid
    cases hrelabel : w.flow.relabel id label with
    | error e => simp [Flow.relabel, hid] at hrelabel
    | ok g => exact ⟨_, by rw [execute, hn, hrelabel], by simp [intent, Outcome.done]⟩
  | connect source target =>
    have hs : w.flow.hasNode source = true := hc source (by simp [nodeIds])
    have ht : w.flow.hasNode target = true := hc target (by simp [nodeIds])
    obtain ⟨r, hr⟩ := World.connect_ok h hs ht
    have hpair : w.connect source target = (.ok r, (w.connect source target).2) := Prod.ext hr rfl
    exact ⟨_, by rw [execute, betweenNodes_eq hs ht, hpair]; rfl, by simp [intent]⟩
  | disconnect source target =>
    have hs : w.flow.hasNode source = true := hc source (by simp [nodeIds])
    have ht : w.flow.hasNode target = true := hc target (by simp [nodeIds])
    exact ⟨_, by rw [execute, betweenNodes_eq hs ht], by simp [intent, Outcome.done]⟩
  | explain message => exact ⟨_, rfl, by simp [intent, Outcome.done]⟩
  | unknown message => exact ⟨_, rfl, by simp [intent, Outcome.failure]⟩

end Command

end FlowTalk
