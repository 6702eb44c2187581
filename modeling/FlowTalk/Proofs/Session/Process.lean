import FlowTalk.Proofs.Flow.Reachable
import FlowTalk.Proofs.Session.Execute

/-! What an utterance is taken for can be carried out, and a message changes nothing. -/
namespace FlowTalk

variable {f : Flow} {e : Entry} {s : Session} {c : Command} {t : Text} {outcome : Outcome}

theorem Flow.mem_allNodes_of_mem_listing (h : e ∈ f.listing) : ∃ n ∈ f.allNodes, n.id = e.id := by
  obtain ⟨i, hi, rfl⟩ := List.mem_mapIdx.1 h
  have hlength : i < f.allNodes.length := by simpa using hi
  exact ⟨f.allNodes[i], List.getElem_mem hlength, by simp⟩

theorem interpret_nodeIds {nodes : Listing} (h : interpret t nodes = .ok c) :
    ∀ id ∈ c.nodeIds, ∃ e ∈ nodes, e.id = id := by
  obtain ⟨d, _, hbuild⟩ := bind_eq_ok.1 h
  exact Draft.nodeIds_build hbuild

theorem interpret_label {nodes : Listing} (h : interpret t nodes = .ok c) :
    ∀ label ∈ c.label?, label ≠ [] ∧ Text.trim label = label := by
  obtain ⟨d, _, hbuild⟩ := bind_eq_ok.1 h
  exact Draft.label_build hbuild

namespace Session

theorem process_eq_perform (h : interpret t s.flow.listing = .ok c) :
    s.process t = s.perform c := by
  rw [process, h]
  rfl

theorem perform_of_error {e : FlowError} (h : (c.execute s.world).1 = .error e) :
    s.perform c = (.error (.flow e), { s with world := (c.execute s.world).2 }) := by
  have hpair : c.execute s.world = (.error e, (c.execute s.world).2) := Prod.ext h rfl
  rw [perform, hpair]

theorem perform_of_ok (h : (c.execute s.world).1 = .ok outcome) :
    s.perform c = (.ok ⟨outcome, some c⟩,
      if outcome.success && c.mutates then save { s with world := (c.execute s.world).2 }
      else { s with world := (c.execute s.world).2 }) := by
  have hpair : c.execute s.world = (.ok outcome, (c.execute s.world).2) := Prod.ext h rfl
  rw [perform, hpair]

theorem perform_ok (h : (c.execute s.world).1 = .ok outcome) :
    (s.perform c).1 = .ok ⟨outcome, some c⟩ := by
  rw [perform_of_ok h]

theorem perform_of_not_mutates (h : c.mutates = false) : (s.perform c).2 = s := by
  cases c with
  | explain message => rfl
  | unknown message => rfl
  | add | delete | update | connect | disconnect => cases h

/-- What an utterance is taken for is about nodes of the flow, gives only labels that are there, and
is carried out with success unless it is unknown. Messages change nothing. -/
theorem process_interpreted (hv : s.flow.Valid) (hfresh : s.world.Fresh)
    (h : interpret t s.flow.listing = .ok c) :
    (∀ id ∈ c.nodeIds, ∃ n ∈ s.flow.allNodes, n.id = id) ∧
      (∀ label ∈ c.label?, label ≠ [] ∧ Text.trim label = label) ∧
      (∃ outcome, (s.process t).1 = .ok ⟨outcome, some c⟩ ∧
        (outcome.success = true ↔ c.intent ≠ .unknown)) ∧
      (c.intent = .unknown ∨ c.intent = .explain → (s.process t).2 = s) ∧
      (s.flow.allNodes = [] → c.intent ∈ [Intent.add, .explain, .unknown]) := by
  have hnodes : ∀ id ∈ c.nodeIds, ∃ n ∈ s.flow.allNodes, n.id = id := by
    intro id hid
    obtain ⟨e, he, rfl⟩ := interpret_nodeIds h id hid
    exact Flow.mem_allNodes_of_mem_listing he
  have hthere : ∀ id ∈ c.nodeIds, s.world.flow.hasNode id = true := fun id hid =>
    hv.nodes_keyed.has_iff.2 (hnodes id hid)
  obtain ⟨outcome, hexecute, hsuccess⟩ := Command.execute_ok hfresh hthere
  rw [process_eq_perform h]
  refine ⟨hnodes, interpret_label h, ⟨outcome, perform_ok hexecute, hsuccess⟩, ?_, ?_⟩
  · intro hsilent
    refine perform_of_not_mutates ?_
    cases c <;> simp [Command.intent] at hsilent <;> rfl
  · intro hempty
    have hnone : ∀ id ∈ c.nodeIds, False := by
      intro id hid
      obtain ⟨n, hn, _⟩ := hnodes id hid
      simp [hempty] at hn
    cases c with
    | delete id => exact (hnone id (by simp [Command.nodeIds])).elim
    | update id label => exact (hnone id (by simp [Command.nodeIds])).elim
    | connect source target => exact (hnone source (by simp [Command.nodeIds])).elim
    | disconnect source target => exact (hnone source (by simp [Command.nodeIds])).elim
    | add | explain | unknown => simp [Command.intent]

/-- Two nodes, the second with a label that is half white space. -/
def twoNodes : Session :=
  ⟨⟨(Flow.empty []).after ([.addNode ⟨['a'], ['x'], .origin⟩,
      .addNode ⟨['b'], [' ', 'y'], .origin⟩].map fun e => (e, { clock := 0 })), { clock := 0 }⟩,
    {}, .off⟩

theorem process_interpreted_connect :
    twoNodes.flow.Valid ∧ twoNodes.world.Fresh ∧
      interpret "link Y to node 1".toList twoNodes.flow.listing = .ok (.connect ['b'] ['a']) ∧
      ∃ outcome, (twoNodes.process "link Y to node 1".toList).1 =
        .ok ⟨outcome, some (.connect ['b'] ['a'])⟩ ∧ outcome.success = true := by
  have hv : twoNodes.flow.Valid := Flow.valid_reachable (Flow.reachable_after (.empty []))
  have hfresh : twoNodes.world.Fresh := ⟨by decide +kernel, by decide +kernel⟩
  have h : interpret "link Y to node 1".toList twoNodes.flow.listing =
      .ok (.connect ['b'] ['a']) := by decide +kernel
  obtain ⟨_, _, ⟨outcome, hprocess, hsuccess⟩, _⟩ := process_interpreted hv hfresh h
  exact ⟨hv, hfresh, h, outcome, hprocess, hsuccess.2 (by decide)⟩

end Session

end FlowTalk
