import FlowTalk.Proofs.Session.Change
import FlowTalk.Proofs.Session.Process

/-! Sessions step by step. Whatever is said and whatever a hosted model answers, the flow stays tidy
at each step. -/
namespace FlowTalk

variable {nodes : Listing} {t : Text} {c : Command} {s : Session}

theorem interpretWith_label {assistant : Option Assistant}
    (h : interpretWith assistant t nodes = .ok c) :
    ∀ label ∈ c.label?, label ≠ [] ∧ Text.trim label = label := by
  cases assistant with
  | none => exact interpret_label h
  | some assistant =>
    rw [interpretWith] at h
    cases hresult : (assistant.ask t nodes).result with
    | error e =>
      rw [hresult] at h
      exact interpret_label h
    | ok d =>
      rw [hresult] at h
      exact Draft.label_build h

namespace Session

/-- What can be asked of a session. -/
inductive Step where
  | process (utterance : Text)
  | processWith (assistant : Option Assistant) (utterance : Text)
  | clear

def Step.apply : Step → Session → Except ProcessError Report × Session
  | process utterance, s => s.process utterance
  | processWith assistant utterance, s => s.processWith assistant utterance
  | clear, s => (.ok s.clear.1, s.clear.2)

def withSupply (supply : Supply) (s : Session) : Session :=
  { s with world := { s.world with supply } }

/-- What each of some steps gives with the flow after it, and the session after all of them. The
supply is any at each step, so the clock may be set, the chance is any, and a fresh id may be taken
already. -/
def run : List (Step × Supply) → Session → List (Except ProcessError Report × Flow) × Session
  | [], s => ([], s)
  | (step, supply) :: rest, s =>
    let (result, s) := step.apply (s.withSupply supply)
    let (results, last) := run rest s
    ((result, s.flow) :: results, last)

theorem run_cons (turn : Step × Supply) (turns : List (Step × Supply)) (s : Session) :
    s.run (turn :: turns) =
      (((turn.1.apply (s.withSupply turn.2)).1, (turn.1.apply (s.withSupply turn.2)).2.flow) ::
          ((turn.1.apply (s.withSupply turn.2)).2.run turns).1,
        ((turn.1.apply (s.withSupply turn.2)).2.run turns).2) := rfl

theorem flow_save : s.save.flow = s.flow := by
  rw [save]
  cases s.autosave <;> rfl

theorem flow_perform : (s.perform c).2.flow = (c.execute s.world).2.flow := by
  cases h : (c.execute s.world).1 with
  | error e =>
    rw [perform_of_error h]
    rfl
  | ok outcome =>
    rw [perform_of_ok h]
    by_cases hsave : (outcome.success && c.mutates) = true
    · rw [if_pos hsave, flow_save]
      rfl
    · rw [if_neg hsave]
      rfl

/-- A step fails to read an utterance, or carries out a command with labels that can be read, or
removes everything. -/
theorem Step.apply_cases (step : Step) (s : Session) :
    (∃ e, step.apply s = (.error (.numeral e), s)) ∨
      (∃ c : Command, (∀ label ∈ c.label?, label ≠ [] ∧ Text.trim label = label) ∧
        step.apply s = s.perform c) ∨
      step.apply s = (.ok s.clear.1, s.clear.2) := by
  cases step with
  | process utterance =>
    cases h : interpret utterance s.flow.listing with
    | error e => exact Or.inl ⟨e, congrArg (fun c => s.performRead c) h⟩
    | ok c => exact Or.inr (Or.inl ⟨c, interpret_label h, process_eq_perform h⟩)
  | processWith assistant utterance =>
    cases h : interpretWith assistant utterance s.flow.listing with
    | error e => exact Or.inl ⟨e, congrArg (fun c => s.performRead c) h⟩
    | ok c =>
      exact Or.inr (Or.inl ⟨c, interpretWith_label h, congrArg (fun c => s.performRead c) h⟩)
  | clear => exact Or.inr (Or.inr rfl)

/-- What a step can do to the flow. -/
theorem flow_apply_cases (step : Step) (s : Session) :
    (step.apply s).2.flow = s.flow ∨
      (∃ c : Command, (∀ label ∈ c.label?, label ≠ [] ∧ Text.trim label = label) ∧
        c.Changes s.flow (step.apply s).2.flow) ∨
      (step.apply s).2.flow = s.flow.clear := by
  rcases step.apply_cases s with ⟨e, h⟩ | ⟨c, hlabel, h⟩ | h
  · rw [h]
    exact Or.inl rfl
  · rw [h, flow_perform]
    rcases c.execute_cases s.world with hsame | ⟨_, hchanges⟩
    · exact Or.inl hsame
    · exact Or.inr (Or.inl ⟨c, hlabel, hchanges⟩)
  · rw [h, clear, flow_save]
    exact Or.inr (Or.inr rfl)

theorem tidy_apply (step : Step) (ht : s.flow.Tidy) : (step.apply s).2.flow.Tidy := by
  rcases flow_apply_cases step s with h | ⟨c, hlabel, h⟩ | h
  · rw [h]
    exact ht
  · exact h.tidy ht hlabel
  · rw [h]
    exact Flow.tidy_clear

theorem valid_apply (step : Step) (hv : s.flow.Valid) : (step.apply s).2.flow.Valid := by
  rcases flow_apply_cases step s with h | ⟨c, _, h⟩ | h
  · rw [h]
    exact hv
  · exact h.valid hv
  · rw [h]
    exact Flow.valid_clear

/-- What each step keeps of the flow, a run keeps. The supply is no part of the flow. -/
theorem run_keeps {P : Flow → Prop}
    (hstep : ∀ (step : Step) (s : Session), P s.flow → P (step.apply s).2.flow)
    (turns : List (Step × Supply)) (h : P s.flow) : P (s.run turns).2.flow := by
  induction turns generalizing s with
  | nil => exact h
  | cons turn turns ih => exact ih (hstep turn.1 (s.withSupply turn.2) h)

theorem valid_run (turns : List (Step × Supply)) (hv : s.flow.Valid) :
    (s.run turns).2.flow.Valid :=
  run_keeps (fun step _ => valid_apply step) turns hv

/-- A session without nodes. -/
def opened (name : Text) (supply : Supply) (options : SaveOptions) (autosave : Autosave) :
    Session :=
  ⟨⟨.empty name, supply⟩, options, autosave⟩

/-- The flow after all of some steps. -/
def flowAfter (turns : List (Step × Supply)) (s : Session) : Flow := (s.run turns).2.flow

/-- However a session goes on that starts without nodes, at most one edge runs from one node to
another, each label is there and has no outer white space, and no id stands for two nodes. -/
theorem flowAfter_opened (name : Text) (supply : Supply) (options : SaveOptions)
    (autosave : Autosave) (turns : List (Step × Supply)) :
    (∀ source target, (((opened name supply options autosave).flowAfter turns).allEdges.filter
        fun e => e.connects source target).length ≤ 1) ∧
      (∀ n ∈ ((opened name supply options autosave).flowAfter turns).allNodes,
        n.label ≠ [] ∧ Text.trim n.label = n.label) ∧
      (((opened name supply options autosave).flowAfter turns).allNodes.map Node.id).Nodup := by
  have ht : ((opened name supply options autosave).flowAfter turns).Tidy :=
    run_keeps (fun step _ => tidy_apply step) turns (Flow.tidy_empty name)
  exact ⟨ht.single, ht.labelled, ht.valid.nodes_keyed.nodup_ids⟩

end Session

end FlowTalk
