import FlowTalk.Proofs.Saved.RoundTrip
import FlowTalk.Proofs.Session.Run

/-! The file that a session saves to holds the flow as it is now, once it has been written, and it
is written by the first step that may have changed the flow. Where a session saves to makes no other
difference. -/
namespace FlowTalk

variable {f : Flow} {s : Session} {o : SaveOptions} {content : Option Text}

theorem Saved.exists_read (hv : f.Valid) (name : Text) (o : SaveOptions) (clock : Int) :
    ∃ g, read name (f.savedText o clock) = .ok g ∧ g.Valid ∧ g.name = name ∧
      g.allNodes = f.allNodes.map (Node.reloaded o.positions) ∧ g.allEdges = f.allEdges := by
  -- A name is not saved, so the flow may as well have the one that it is loaded under.
  have hvalid : ({ f with name := name } : Flow).Valid :=
    ⟨hv.nodes_keyed, hv.edges_keyed, hv.ends, hv.touching_nodup, hv.touching_find?⟩
  have hread : Json.read (f.savedText o clock) = .ok (f.savedJson o clock) :=
    Json.read_write (exact_savedJson 996 f o clock)
  obtain ⟨g, hload, hg⟩ := load_savedJson hvalid o clock
  have hedges : g.allEdges = f.allEdges := (List.append_nil _).symm.trans hg.edges
  refine ⟨g, ?_, hg.valid, hg.name_eq, hg.nodes, hedges⟩
  rw [read, hread]
  exact hload

namespace Session

/-- A session that saves to another place. -/
def savingTo (place : Autosave) (s : Session) : Session := { s with autosave := place }

/-- Whether a step succeeded that may change the flow: a command of that kind, or the removal of
everything. -/
def changed : Except ProcessError Report → Bool
  | .ok r => r.outcome.success && r.command.all Command.mutates
  | .error _ => false

/-! The place has no effect on anything else -/

theorem save_eq (s : Session) : ∃ place, s.save = s.savingTo place := by
  obtain ⟨world, options, autosave⟩ := s
  cases autosave with
  | off => exact ⟨.off, rfl⟩
  | blocked => exact ⟨.blocked, rfl⟩
  | file content => exact ⟨_, rfl⟩

theorem save_savingTo (place : Autosave) (s : Session) :
    ∃ place', (s.savingTo place).save = s.save.savingTo place' := by
  obtain ⟨place', h⟩ := save_eq (s.savingTo place)
  obtain ⟨_, h'⟩ := save_eq s
  exact ⟨place', by rw [h, h']; rfl⟩

theorem perform_savingTo (place : Autosave) (s : Session) (c : Command) :
    ∃ place', (s.savingTo place).perform c =
      ((s.perform c).1, (s.perform c).2.savingTo place') := by
  cases h : (c.execute s.world).1 with
  | error e =>
    rw [perform_of_error h, perform_of_error (s := s.savingTo place) h]
    exact ⟨place, rfl⟩
  | ok outcome =>
    rw [perform_of_ok h, perform_of_ok (s := s.savingTo place) h]
    by_cases hsave : (outcome.success && c.mutates) = true
    · rw [if_pos hsave, if_pos hsave]
      obtain ⟨place', h'⟩ := save_savingTo place { s with world := (c.execute s.world).2 }
      exact ⟨place', congrArg (Prod.mk _) h'⟩
    · rw [if_neg hsave, if_neg hsave]
      exact ⟨place, rfl⟩

theorem apply_savingTo (place : Autosave) (step : Step) (s : Session) :
    ∃ place', step.apply (s.savingTo place) =
      ((step.apply s).1, (step.apply s).2.savingTo place') := by
  have hread : ∀ r : Except NumeralError Command, ∃ place',
      (s.savingTo place).performRead r =
        ((s.performRead r).1, (s.performRead r).2.savingTo place') := by
    intro r
    cases r with
    | error e => exact ⟨place, rfl⟩
    | ok c => exact perform_savingTo place s c
  cases step with
  | process utterance => exact hread _
  | processWith assistant utterance => exact hread _
  | clear =>
    obtain ⟨place', h⟩ := save_savingTo place
      { s with world := { s.world with flow := s.flow.clear } }
    exact ⟨place', congrArg (Prod.mk _) h⟩

theorem run_savingTo (place : Autosave) (turns : List (Step × Supply)) (s : Session) :
    ∃ place', (s.savingTo place).run turns =
      ((s.run turns).1, (s.run turns).2.savingTo place') := by
  induction turns generalizing s place with
  | nil => exact ⟨place, rfl⟩
  | cons turn turns ih =>
    obtain ⟨place₁, happly⟩ := apply_savingTo place turn.1 (s.withSupply turn.2)
    obtain ⟨place₂, hrun⟩ := ih place₁ (turn.1.apply (s.withSupply turn.2)).2
    have hstep : turn.1.apply ((s.savingTo place).withSupply turn.2) = _ := happly
    exact ⟨place₂, by rw [run_cons, run_cons, hstep, hrun]; rfl⟩

/-! The file follows the flow -/

/-- A session with these options saves to a file, and what the file holds is the flow as it is now,
saved at some time. -/
structure Mirrored (o : SaveOptions) (content : Option Text) (s : Session) : Prop where
  options : s.options = o
  file : s.autosave = .file content
  current : ∀ t ∈ content, ∃ clock, t = s.flow.savedText o clock

theorem Mirrored.of_flow_eq (h : Mirrored o content s) {world : World}
    (hflow : world.flow = s.flow) : Mirrored o content { s with world } := by
  refine ⟨h.options, h.file, ?_⟩
  rw [flow, hflow]
  exact h.current

/-- To save makes the file what it should be, whatever it was. -/
theorem mirrored_save (hoptions : s.options = o) (hfile : s.autosave = .file content) :
    Mirrored o (some (s.savedText o)) s.save := by
  have hsave : s.save = s.savingTo (.file (some (s.savedText o))) := by
    rw [save, hfile, ← hoptions]
    rfl
  rw [hsave]
  refine ⟨hoptions, rfl, fun t ht => ?_⟩
  obtain rfl := Option.some.inj ht
  exact ⟨s.world.supply.saveClock, rfl⟩

/-- The file is written if the step may have changed the flow, and otherwise both stay as they
are. -/
theorem mirrored_perform (h : Mirrored o content s) (c : Command) :
    ∃ content', Mirrored o content' (s.perform c).2 ∧
      (content' = none ↔ content = none ∧ changed (s.perform c).1 = false) := by
  cases hexecute : (c.execute s.world).1 with
  | error e =>
    have hsame : (c.execute s.world).2.flow = s.world.flow :=
      Command.flow_execute_of_not fun outcome hok => by simp [hexecute] at hok
    rw [perform_of_error hexecute]
    exact ⟨content, h.of_flow_eq hsame, by simp [changed]⟩
  | ok outcome =>
    rw [perform_of_ok hexecute]
    by_cases hsave : (outcome.success && c.mutates) = true
    · rw [if_pos hsave]
      exact ⟨_, mirrored_save h.options h.file, by simp [changed, hsave]⟩
    · have hsame : (c.execute s.world).2.flow = s.world.flow :=
        Command.flow_execute_of_not fun outcome' hok => by
          obtain rfl := Except.ok.inj (hexecute.symm.trans hok)
          simpa using hsave
      have hnot : changed (.ok ⟨outcome, some c⟩) = false := by simpa [changed] using hsave
      rw [if_neg hsave]
      exact ⟨content, h.of_flow_eq hsame, by simp [hnot]⟩

theorem mirrored_apply (h : Mirrored o content s) (step : Step) :
    ∃ content', Mirrored o content' (step.apply s).2 ∧
      (content' = none ↔ content = none ∧ changed (step.apply s).1 = false) := by
  rcases step.apply_cases s with ⟨e, he⟩ | ⟨c, _, hc⟩ | hclear
  · rw [he]
    exact ⟨content, h, by simp [changed]⟩
  · rw [hc]
    exact mirrored_perform h c
  · rw [hclear, clear]
    exact ⟨_, mirrored_save h.options h.file, by simp [changed, Outcome.done]⟩

theorem mirrored_run (h : Mirrored o content s) (turns : List (Step × Supply)) :
    ∃ content', Mirrored o content' (s.run turns).2 ∧
      (content' = none ↔ content = none ∧ ∀ entry ∈ (s.run turns).1, changed entry.1 = false) := by
  induction turns generalizing s content with
  | nil => exact ⟨content, h, by simp [run]⟩
  | cons turn turns ih =>
    have hsupplied : Mirrored o content (s.withSupply turn.2) := h.of_flow_eq rfl
    obtain ⟨content₁, hstep, hfirst⟩ := mirrored_apply hsupplied turn.1
    obtain ⟨content₂, hrun, hrest⟩ := ih hstep
    rw [run_cons]
    refine ⟨content₂, hrun, ?_⟩
    rw [hrest, hfirst, List.forall_mem_cons, and_assoc]

/-- After each step of a session that saves to a file that is not there at first, the file is still
not there exactly if no step has succeeded that may change the flow, and otherwise it is loaded as a
flow with the nodes and edges that there are now. Where the session saves to makes no difference to
what the steps give and to the flow after each of them. -/
theorem autosave_mirrors (hv : s.flow.Valid) (turns : List (Step × Supply)) :
    ∃ content, ((s.savingTo (.file none)).run turns).2.autosave = .file content ∧
      (content = none ↔
        ∀ entry ∈ ((s.savingTo (.file none)).run turns).1, changed entry.1 = false) ∧
      (∀ t ∈ content, ∀ name, ∃ g, Saved.read name t = .ok g ∧ g.Valid ∧ g.name = name ∧
        g.allNodes = ((s.savingTo (.file none)).flowAfter turns).allNodes.map
          (Node.reloaded s.options.positions) ∧
        g.allEdges = ((s.savingTo (.file none)).flowAfter turns).allEdges) ∧
      ∀ place, ((s.savingTo place).run turns).1 = ((s.savingTo (.file none)).run turns).1 := by
  have hstart : Mirrored s.options none (s.savingTo (.file none)) := ⟨rfl, rfl, by simp⟩
  have hlast : ((s.savingTo (.file none)).flowAfter turns).Valid := valid_run turns hv
  obtain ⟨content, hmirrored, hnone⟩ := mirrored_run hstart turns
  refine ⟨content, hmirrored.file, by simpa using hnone, fun t ht name => ?_, fun place => ?_⟩
  · obtain ⟨clock, rfl⟩ := hmirrored.current t ht
    exact Saved.exists_read hlast name s.options clock
  · obtain ⟨_, hplace⟩ := run_savingTo place turns s
    obtain ⟨_, hfile⟩ := run_savingTo (.file none) turns s
    rw [hplace, hfile]

/-- A question, and then an edge between the two nodes. -/
def askThenLink : List (Step × Supply) :=
  [(.process "explain".toList, { clock := 0 }),
    (.process "link Y to node 1".toList, { clock := 0 })]

theorem autosave_mirrors_link :
    twoNodes.flow.Valid ∧
      (((twoNodes.savingTo (.file none)).run askThenLink).1.map fun entry => changed entry.1) =
        [false, true] ∧
      ∃ t, ((twoNodes.savingTo (.file none)).run askThenLink).2.autosave = .file (some t) ∧
        ∃ g, Saved.read "flow".toList t = .ok g ∧
          (g.allEdges.map fun e => (e.source, e.target)) = [(['b'], ['a'])] := by
  have hv : twoNodes.flow.Valid := Flow.valid_reachable (Flow.reachable_after (.empty []))
  have hchanged : (((twoNodes.savingTo (.file none)).run askThenLink).1.map fun entry =>
      changed entry.1) = [false, true] := by decide +kernel
  have hedges : (((twoNodes.savingTo (.file none)).flowAfter askThenLink).allEdges.map fun e =>
      (e.source, e.target)) = [(['b'], ['a'])] := by decide +kernel
  obtain ⟨content, hfile, hnone, hread, _⟩ := autosave_mirrors hv askThenLink
  cases content with
  | none =>
    have hall : ∀ b ∈ ((twoNodes.savingTo (.file none)).run askThenLink).1.map fun entry =>
        changed entry.1, b = false := List.forall_mem_map.2 (hnone.1 rfl)
    simp [hchanged] at hall
  | some t =>
    obtain ⟨g, hg, _, _, _, hsame⟩ := hread t rfl "flow".toList
    exact ⟨hv, hchanged, t, hfile, g, hg, by rw [hsame, hedges]⟩

end Session

end FlowTalk
