import FlowTalk.Proofs.Session.Change
import FlowTalk.Proofs.Session.Connect
import FlowTalk.Proofs.Session.Stepwise

/-! Changes that are refused. They stop before anything of the flow is written, and the checks of a
command come to all that could stop the change that the command makes. -/
namespace FlowTalk

variable {w : World} {e : Edit} {stop : Stop} {c : Command} {id source target : Text}

namespace Edit

def stepwise : Edit → Steps Unit
  | addNode n => Steps.addNode n
  | createNode label position => (fun _ => ()) <$> Steps.createNode label position
  | relabel id label => Steps.relabel id label
  | removeNode id => Steps.removeNode id
  | addEdge e => Steps.addEdge e
  | connect source target => (fun _ => ()) <$> Steps.connect source target
  | removeEdge id => Steps.removeEdge id
  | disconnect source target => (fun _ => ()) <$> Steps.disconnect source target
  | clear => Steps.clear

/-- What a change comes to that is made at once. -/
def result (w : World) : Edit → Except Stop Unit
  | addNode n => Steps.ending (w.flow.addNode n)
  | createNode label position =>
    ((w.createFrom label position).1.mapError .ofCreate).map fun _ => ()
  | relabel id label => Steps.ending (w.flow.relabel id label)
  | removeNode id => Steps.ending (w.flow.removeNode id)
  | addEdge e => Steps.ending (w.flow.addEdge e)
  | connect source target => Steps.ending (w.connect source target).1
  | removeEdge _ | disconnect _ _ | clear => .ok ()

/-- One write after the other comes to the change that is made at once. -/
theorem runFrom_stepwise (hv : w.flow.Valid) (e : Edit) :
    e.stepwise.runFrom w = (e.result w, e.apply w) := by
  cases e with
  | addNode n => exact Steps.runFrom_addNode
  | createNode label position =>
    rw [stepwise, Steps.runFrom_map, Steps.runFrom_createNode]
    rfl
  | relabel id label => exact Steps.runFrom_relabel
  | removeNode id => exact Steps.runFrom_removeNode
  | addEdge e => exact Steps.runFrom_addEdge hv
  | connect source target =>
    rw [stepwise, Steps.runFrom_map, Steps.runFrom_connect hv]
    rfl
  | removeEdge id => exact Steps.runFrom_removeEdge
  | disconnect source target =>
    rw [stepwise, Steps.runFrom_map, Steps.runFrom_disconnect]
    rfl
  | clear => exact Steps.runFrom_clear

theorem settle_of_error {r : Except FlowError Flow} (h : Steps.ending r = .error stop) :
    settle w r = w := by
  cases r with
  | ok flow => cases h
  | error e => rfl

/-- Whatever stops a change, the flow is left as it is. -/
theorem flow_apply_of_error (h : e.result w = .error stop) : (e.apply w).flow = w.flow := by
  cases e with
  | addNode n | relabel id label | removeNode id | addEdge e =>
    exact congrArg World.flow (settle_of_error h)
  | createNode label position =>
    rcases World.createFrom_cases label position w with ⟨_, _, hsame⟩ | ⟨_, hok, _⟩
    · exact hsame
    · rw [result, hok] at h
      cases h
  | connect source target =>
    rcases World.connect_cases source target w with hsame | ⟨_, _, hok, _⟩
    · exact hsame
    · rw [result, hok] at h
      cases h
  | removeEdge id | disconnect source target | clear => cases h

/-! Why a change is refused -/

def refusedIf (refused : Bool) (e : FlowError) : Option Stop :=
  if refused then some (.refused e) else none

def missingEnd (source target : Text) (f : Flow) : Option Stop :=
  refusedIf (!f.hasNode source) (.sourceMissing source) <|>
    refusedIf (!f.hasNode target) (.targetMissing target)

/-- A null is no place, and a place is found for it. -/
def misplaced : Json → Option Stop
  | .null => none
  | position =>
    match Position.ofJson position with
    | .ok _ => none
    | .error e => some (.unplaced e)

/-- Why a change is refused, if it is. -/
def refusal? (w : World) : Edit → Option Stop
  | addNode n => refusedIf (w.flow.hasNode n.id) (.nodeExists n.id)
  | createNode _ position =>
    misplaced position <|>
      refusedIf (w.flow.hasNode w.supply.freshNodeId.1) (.nodeExists w.supply.freshNodeId.1)
  | relabel id _ | removeNode id => refusedIf (!w.flow.hasNode id) (.nodeMissing id)
  | addEdge e =>
    missingEnd e.source e.target w.flow <|> refusedIf (w.flow.edges.has e.id) (.edgeExists e.id)
  | connect source target =>
    missingEnd source target w.flow <|>
      refusedIf ((w.flow.firstEdge? source target).isNone &&
        w.flow.edges.has w.supply.freshEdgeId.1) (.edgeExists w.supply.freshEdgeId.1)
  | removeEdge _ | disconnect _ _ | clear => none

/-- What a change comes to by its refusals. -/
def verdict (w : World) (e : Edit) : Except Stop Unit := (e.refusal? w).elim (.ok ()) .error

theorem verdict_createNode {label position : Json} {text : Text} {place : Position}
    (h : misplaced position = none) : (createNode label position).verdict w =
      Steps.ending (w.createAt text place).1 := by
  cases hid : w.flow.hasNode w.supply.freshNodeId.1 <;>
    simp [verdict, refusal?, h, refusedIf, World.createAt, Flow.addNode, hid]

theorem verdict_createAtValue {label v : Json} {text : Text} (hv : v ≠ .null) :
    (createNode label v).verdict w =
      ((w.createAtValue text v).1.mapError .ofCreate).map fun _ => () := by
  cases h : Position.ofJson v with
  | error e =>
    have hplace : misplaced v = some (.unplaced e) := by simp [misplaced, h]
    simp [verdict, refusal?, hplace, World.createAtValue, h, Except.map, Except.mapError,
      Stop.ofCreate]
  | ok place =>
    have hplace : misplaced v = none := by simp [misplaced, h]
    rw [verdict_createNode hplace, World.createAtValue, h, Steps.ending, ← Steps.mapError_ofCreate]

theorem result_createNode {label position : Json} :
    (createNode label position).result w = (createNode label position).verdict w := by
  by_cases hnull : position = .null
  · subst hnull
    -- The numbers that are drawn for a place do not change the id that is taken.
    have hdrawn : (createNode label .null).verdict w = (createNode label .null).verdict
        { w with supply := w.supply.randomPosition.2 } := rfl
    rw [hdrawn, verdict_createNode rfl, Steps.ending, ← Steps.mapError_ofCreate]
    rfl
  · rw [verdict_createAtValue hnull, result, World.createFrom_of_ne_null hnull]

theorem result_connect (hv : w.flow.Valid) :
    (connect source target).result w = (connect source target).verdict w := by
  rw [result, verdict, refusal?, missingEnd]
  cases hs : w.flow.hasNode source with
  | false =>
    have hnone : w.flow.firstEdge? source target = none := hv.firstEdge?_of_missing (Or.inl hs)
    simp [World.connect, hv.edgesFrom_eq_nil hnone, hs, refusedIf]
  | true =>
    cases ht : w.flow.hasNode target with
    | false =>
      have hnone : w.flow.firstEdge? source target = none := hv.firstEdge?_of_missing (Or.inr ht)
      simp [World.connect, hv.edgesFrom_eq_nil hnone, hs, ht, refusedIf]
    | true =>
      cases h : w.flow.firstEdge? source target with
      | some e => simp [World.connect_of_edge hv h, refusedIf]
      | none =>
        rw [World.connect_of_none hv hs ht h, World.nextEdge]
        cases hid : w.flow.edges.has w.supply.freshEdgeId.1 <;> simp [refusedIf]

/-- A change is refused for the first of its faults, and not otherwise. -/
theorem result_eq_verdict (hv : w.flow.Valid) (e : Edit) : e.result w = e.verdict w := by
  cases e with
  | addNode n =>
    cases h : w.flow.hasNode n.id <;>
      simp [result, verdict, refusal?, refusedIf, Flow.addNode, h]
  | createNode label position => exact result_createNode
  | relabel id label =>
    cases h : w.flow.hasNode id <;>
      simp [result, verdict, refusal?, refusedIf, Flow.relabel, h]
  | removeNode id =>
    cases h : w.flow.hasNode id <;>
      simp [result, verdict, refusal?, refusedIf, Flow.removeNode, h]
  | addEdge e =>
    cases hs : w.flow.hasNode e.source <;> cases ht : w.flow.hasNode e.target <;>
      cases he : w.flow.edges.has e.id <;>
        simp [result, verdict, refusal?, missingEnd, refusedIf, Flow.addEdge, hs, ht, he]
  | connect source target => exact result_connect hv
  | removeEdge id => rfl
  | disconnect source target => rfl
  | clear => rfl

end Edit

namespace Command

/-- The change that a command makes if its nodes are there. -/
def edit? : Command → Option Edit
  | add label => some (.createNode (.str label) .null)
  | delete id => some (.removeNode id)
  | update id label => some (.relabel id label)
  | connect source target => some (.connect source target)
  | disconnect source target => some (.disconnect source target)
  | explain _ | unknown _ => none

/-- The change that a command makes, one write at a time. -/
def steps (c : Command) : Steps Unit := c.edit?.elim (pure ()) Edit.stepwise

theorem betweenNodes_of_missing {change : World → Changed FlowError Outcome}
    (h : w.flow.hasNode source = false ∨ w.flow.hasNode target = false) :
    ∃ outcome, betweenNodes source target w change = (.ok outcome, w) ∧
      outcome.success = false := by
  cases hs : w.flow.hasNode source with
  | false => exact ⟨notFound "Source node" source, by simp [betweenNodes, hs], rfl⟩
  | true =>
    have ht : w.flow.hasNode target = false := by simpa [hs] using h
    exact ⟨notFound "Target node" target, by simp [betweenNodes, hs, ht], rfl⟩

/-- A command about a node that is not there does not succeed, and changes nothing. -/
theorem execute_of_missing (hid : id ∈ c.nodeIds) (h : w.flow.hasNode id = false) :
    ∃ outcome, c.execute w = (.ok outcome, w) ∧ outcome.success = false := by
  cases c with
  | add label => cases hid
  | delete node =>
    obtain rfl : id = node := by simpa [nodeIds] using hid
    exact ⟨notFound "Node" id, by simp [execute, Flow.node?_of_missing h], rfl⟩
  | update node label =>
    obtain rfl : id = node := by simpa [nodeIds] using hid
    exact ⟨notFound "Node" id, by simp [execute, Flow.node?_of_missing h], rfl⟩
  | connect source target | disconnect source target =>
    rw [execute]
    refine betweenNodes_of_missing ?_
    have hends : id = source ∨ id = target := by simpa [nodeIds] using hid
    rcases hends with rfl | rfl
    · exact Or.inl h
    · exact Or.inr h
  | explain message => cases hid
  | unknown message => cases hid

/-- What a command has checked is all that the change which it makes demands. -/
theorem refusal?_of_edit? (h : w.Fresh) (hc : ∀ id ∈ c.nodeIds, w.flow.hasNode id = true)
    (he : c.edit? = some e) : e.refusal? w = none := by
  cases c with
  | add label =>
    cases he
    simp [Edit.refusal?, Edit.misplaced, Edit.refusedIf, h.node]
  | delete id | update id label =>
    have hid : w.flow.hasNode id = true := hc id (by simp [nodeIds])
    cases he
    simp [Edit.refusal?, Edit.refusedIf, hid]
  | connect source target =>
    have hs : w.flow.hasNode source = true := hc source (by simp [nodeIds])
    have ht : w.flow.hasNode target = true := hc target (by simp [nodeIds])
    cases he
    simp [Edit.refusal?, Edit.missingEnd, Edit.refusedIf, hs, ht, h.edge]
  | disconnect source target =>
    cases he
    rfl
  | explain message => cases he
  | unknown message => cases he

theorem execute_eq_apply (hc : ∀ id ∈ c.nodeIds, w.flow.hasNode id = true) :
    (c.execute w).2 = c.edit?.elim w fun e => e.apply w := by
  cases c with
  | add label =>
    have hlabel : (if (Json.str label).isFalsy then [] else (Json.str label).display) = label := by
      cases label <;> rfl
    simp [edit?, Edit.apply, World.createFrom, execute, hlabel]
  | delete id =>
    have hid : w.flow.hasNode id = true := hc id (by simp [nodeIds])
    obtain ⟨n, hn⟩ := Flow.node?_of_hasNode hid
    simp [edit?, Edit.apply, Edit.settle, execute, hn, Flow.removeNode, hid]
  | update id label =>
    have hid : w.flow.hasNode id = true := hc id (by simp [nodeIds])
    obtain ⟨n, hn⟩ := Flow.node?_of_hasNode hid
    simp [edit?, Edit.apply, Edit.settle, execute, hn, Flow.relabel, hid]
  | connect source target | disconnect source target =>
    have hs : w.flow.hasNode source = true := hc source (by simp [nodeIds])
    have ht : w.flow.hasNode target = true := hc target (by simp [nodeIds])
    rw [execute, betweenNodes_eq hs ht]
    rfl
  | explain message => rfl
  | unknown message => rfl

/-- The steps of a command about nodes of the flow run through. -/
theorem runFrom_steps (hv : w.flow.Valid) (h : w.Fresh)
    (hc : ∀ id ∈ c.nodeIds, w.flow.hasNode id = true) :
    c.steps.runFrom w = (.ok (), (c.execute w).2) := by
  rw [execute_eq_apply hc, steps]
  cases he : c.edit? with
  | none => rfl
  | some e =>
    have hnone : e.refusal? w = none := refusal?_of_edit? h hc he
    change e.stepwise.runFrom w = (.ok (), e.apply w)
    rw [Edit.runFrom_stepwise hv, Edit.result_eq_verdict hv, Edit.verdict, hnone]
    rfl

end Command

namespace World

theorem flow_execute_of_error {error : FlowError} (h : (c.execute w).1 = .error error) :
    (c.execute w).2.flow = w.flow :=
  Command.flow_execute_of_not fun outcome hok => by
    rw [h] at hok
    cases hok

/-- A command succeeds unless it is unknown or is about a node that is not there. Without success it
changes nothing, and with success it makes its change to the end. -/
theorem execute_exact (hv : w.flow.Valid) (h : w.Fresh) (c : Command) :
    ∃ outcome, (c.execute w).1 = .ok outcome ∧
      (outcome.success = false ↔
        c.intent = .unknown ∨ ∃ id ∈ c.nodeIds, w.flow.hasNode id = false) ∧
      (outcome.success = false → (c.execute w).2 = w) ∧
      (outcome.success = true → c.steps.runFrom w = (.ok (), (c.execute w).2)) := by
  by_cases hmissing : ∃ id ∈ c.nodeIds, w.flow.hasNode id = false
  · obtain ⟨id, hid, hnode⟩ := hmissing
    obtain ⟨outcome, hexecute, hfailure⟩ := Command.execute_of_missing hid hnode
    refine ⟨outcome, by rw [hexecute], ⟨fun _ => Or.inr ⟨id, hid, hnode⟩, fun _ => hfailure⟩,
      fun _ => by rw [hexecute], fun hsuccess => ?_⟩
    rw [hfailure] at hsuccess
    cases hsuccess
  · have hc : ∀ id ∈ c.nodeIds, w.flow.hasNode id = true := by simpa using hmissing
    obtain ⟨outcome, hok, hsuccess⟩ := Command.execute_ok h hc
    have hfailure : outcome.success = false ↔ c.intent = .unknown := by
      rw [← Bool.not_eq_true, hsuccess, not_not]
    refine ⟨outcome, hok, hfailure.trans (or_iff_left hmissing).symm, fun hfalse => ?_,
      fun _ => Command.runFrom_steps hv h hc⟩
    cases c with
    | unknown message => rfl
    | add | delete | update | connect | disconnect | explain => cases hfailure.1 hfalse

/-- Failures leave the flow as it is. A change that is made one write at a time comes to what it
comes to at once, is refused for the first of its faults only, and has then written nothing. A
command that fails to get an id changes nothing either, and with ids that are not in use each
command is carried out: it succeeds unless it is unknown or is about a node that is not there, and
then the world is as it was. -/
theorem refused_unchanged (hv : w.flow.Valid) :
    (∀ e : Edit, e.stepwise.runFrom w = (e.result w, e.apply w) ∧
        e.result w = (e.refusal? w).elim (.ok ()) .error) ∧
      (∀ (e : Edit) (stop : Stop) (w' : World),
        e.stepwise.runFrom w = (.error stop, w') → w'.flow = w.flow) ∧
      (∀ (c : Command) (error : FlowError),
        (c.execute w).1 = .error error → (c.execute w).2.flow = w.flow) ∧
      (w.Fresh → ∀ c : Command, ∃ outcome, (c.execute w).1 = .ok outcome ∧
        (outcome.success = false ↔
          c.intent = .unknown ∨ ∃ id ∈ c.nodeIds, w.flow.hasNode id = false) ∧
        (outcome.success = false → (c.execute w).2 = w) ∧
        (outcome.success = true → c.steps.runFrom w = (.ok (), (c.execute w).2))) := by
  refine ⟨fun e => ⟨Edit.runFrom_stepwise hv e, Edit.result_eq_verdict hv e⟩, fun e stop w' h => ?_,
    fun _ _ => flow_execute_of_error, execute_exact hv⟩
  rw [Edit.runFrom_stepwise hv] at h
  obtain ⟨herror, rfl⟩ := Prod.mk.inj h
  exact Edit.flow_apply_of_error herror

theorem fresh_parallel : parallel.Fresh := ⟨by decide +kernel, by decide +kernel⟩

theorem refused_unchanged_parallel :
    taken.flow.Valid ∧ parallel.flow.Valid ∧ parallel.Fresh ∧
      (∃ w', (Edit.connect ['a'] ['b']).stepwise.runFrom taken =
          (.error (.refused (.edgeExists "edge-0-000000001".toList)), w') ∧
        w'.flow = taken.flow) ∧
      ((Command.connect ['a'] ['c']).execute parallel).2 = parallel ∧
      ∃ outcome, ((Command.delete ['a']).execute parallel).1 = .ok outcome ∧
        outcome.success = true := by
  have htaken : taken.flow.Valid := Flow.valid_reachable (Flow.reachable_after (.empty []))
  have hparallel : parallel.flow.Valid := Flow.valid_reachable (Flow.reachable_after (.empty []))
  obtain ⟨hsteps, hstop, _⟩ := refused_unchanged htaken
  obtain ⟨_, _, _, hcommands⟩ := refused_unchanged hparallel
  have hrefusal : (Edit.connect ['a'] ['b']).refusal? taken =
      some (.refused (.edgeExists "edge-0-000000001".toList)) := by
    decide +kernel
  obtain ⟨hrun, hresult⟩ := hsteps (.connect ['a'] ['b'])
  rw [hresult, hrefusal] at hrun
  obtain ⟨stale, _, hstale, hsame, _⟩ := hcommands fresh_parallel (.connect ['a'] ['c'])
  obtain ⟨outcome, hok, hfailure, _⟩ := hcommands fresh_parallel (.delete ['a'])
  refine ⟨htaken, hparallel, fresh_parallel, ⟨_, hrun, hstop _ _ _ hrun⟩,
    hsame (hstale.2 (Or.inr ⟨['c'], by decide, rfl⟩)), outcome, hok, ?_⟩
  rw [← Bool.not_eq_false, hfailure]
  decide +kernel

end World

end FlowTalk
