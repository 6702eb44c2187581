import FlowTalk.Assistant.Ask
import FlowTalk.Saved.Load
import FlowTalk.Saved.Write
import FlowTalk.Session.World

/-! A flow that is edited by utterances and saved after each change. -/
namespace FlowTalk

/-- Where a flow is saved after each change: nowhere, to a place that cannot be written, or to a
file, which holds a text once it has been written. A place that cannot be written refuses each write
with an error of the file system, which is all that saving catches: a path that fails in another
way, such as one with a zero byte in it, is not among these places. -/
inductive Autosave where
  | off
  | blocked
  | file (content : Option Text)

structure Session where
  world : World
  options : SaveOptions
  autosave : Autosave

/-- What is reported of an utterance, with the command that it was taken for. -/
structure Report where
  outcome : Outcome
  command : Option Command

/-- Why an utterance is not carried out. -/
inductive ProcessError where
  | numeral (e : NumeralError)
  | flow (e : FlowError)

namespace Session

def flow (s : Session) : Flow := s.world.flow

/-- The text of the flow as it is saved now. -/
def savedText (s : Session) (o : SaveOptions) : Text :=
  s.flow.savedText o s.world.supply.saveClock

/-- Saves the flow. A place that cannot be written changes nothing. -/
def save (s : Session) : Session :=
  match s.autosave with
  | .file _ => { s with autosave := .file (some (s.savedText s.options)) }
  | _ => s

/-- Carries out a command, and saves the flow if it succeeded and may have changed it. -/
def perform (c : Command) (s : Session) : Except ProcessError Report × Session :=
  let (r, world) := c.execute s.world
  let s := { s with world }
  match r with
  | .error e => (.error (.flow e), s)
  | .ok outcome =>
    (.ok ⟨outcome, some c⟩, if outcome.success && c.mutates then s.save else s)

/-- Carries out what an utterance was taken for. -/
def performRead (c : Except NumeralError Command) (s : Session) :
    Except ProcessError Report × Session :=
  match c with
  | .ok c => s.perform c
  | .error e => (.error (.numeral e), s)

/-- Carries out an utterance. -/
def process (utterance : Text) (s : Session) : Except ProcessError Report × Session :=
  s.performRead (interpret utterance s.flow.listing)

/-- Carries out an utterance with the help of the hosted model, if there is one. -/
def processWith (assistant : Option Assistant) (utterance : Text) (s : Session) :
    Except ProcessError Report × Session :=
  s.performRead (interpretWith assistant utterance s.flow.listing)

/-- Removes all nodes and edges. -/
def clear (s : Session) : Report × Session :=
  let s : Session := { s with world := { s.world with flow := s.flow.clear } }
  (⟨.done "Flow cleared.".toList, none⟩, s.save)

/-- Why a flow is not saved to a file and loaded again. -/
inductive FileError where
  | path (e : Saved.PathError)
  | load (e : Saved.LoadError)

/-- Saves the flow to a file in a fresh directory and loads it from there. The flow is named after
the file. -/
def saveAndLoad (path : Text) (o : SaveOptions) (s : Session) : Except FileError Session :=
  match Saved.fileName path with
  | .error e => .error (.path e)
  | .ok name =>
    ((Saved.read (Saved.stem name) (s.savedText o)).mapError .load).map fun flow =>
      { s with world := { s.world with flow } }

end Session

end FlowTalk
