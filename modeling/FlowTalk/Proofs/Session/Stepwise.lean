import FlowTalk.Proofs.Flow.Reachable

/-! Changes of a flow made one write at a time: the nodes, the edges and the lists at the nodes are
written one after the other, and a change that stops on its way leaves what it has written. In a
valid flow each comes to the change that is made at once. -/
namespace FlowTalk

/-- Why a change stops: it is refused, a value is no position, or a node has no list to which an
edge could be appended. -/
inductive Stop where
  | refused (e : FlowError)
  | unplaced (e : PositionError)
  | noList (node : Text)
  deriving DecidableEq

def Stop.ofCreate : World.CreateError → Stop
  | .position e => unplaced e
  | .flow e => refused e

/-- A change made one write at a time. -/
abbrev Steps (α : Type) := ExceptT Stop (StateM World) α

namespace Steps

variable {α β : Type} {w : World} {a : α} {stop : Stop} {f : Flow} {e : Edge} {es : List Edge}
  {n : Node} {id node source target label : Text}

/-- What some steps come to, and the world in which they stop or end. -/
def runFrom (w : World) (c : Steps α) : Changed Stop α := StateT.run (ExceptT.run c) w

def flow : Steps Flow := do return (← get).flow

def refuseIf (refused : Bool) (e : FlowError) : Steps Unit :=
  if refused then throw (.refused e) else pure ()

def write (change : Flow → Flow) : Steps Unit :=
  modify fun w => { w with flow := change w.flow }

/-- Takes the next value from the supply. -/
def take (next : Supply → α × Supply) : Steps α :=
  modifyGet fun w => ((next w.supply).1, { w with supply := (next w.supply).2 })

def addNode (n : Node) : Steps Unit := do
  refuseIf ((← flow).hasNode n.id) (.nodeExists n.id)
  write fun f => { f with nodes := f.nodes.put n.id n }
  write fun f => { f with touching := f.touching.put n.id [] }

/-- Adds a node with a fresh id. A place is looked at after the id has been taken. -/
def createAt (label : Text) (place : Except PositionError Position) : Steps Node := do
  let id ← take Supply.freshNodeId
  match place with
  | .error e => throw (.unplaced e)
  | .ok place =>
    addNode ⟨id, label, place⟩
    return ⟨id, label, place⟩

/-- Where no place is given one is drawn, before an id is taken. -/
def createNode (label position : Json) : Steps Node := do
  let label := (← get).labelOr (if label.isFalsy then [] else label.display)
  match position with
  | .null => createAt label (.ok (← take Supply.randomPosition))
  | position => createAt label (Position.ofJson position)

def relabel (id label : Text) : Steps Unit := do
  refuseIf (!(← flow).hasNode id) (.nodeMissing id)
  write fun f => { f with nodes := f.nodes.adjust id fun n => { n with label := label } }

/-- Appends an edge to the list at a node. -/
def append (node : Text) (e : Edge) : Steps Unit := do
  if (← flow).touching.has node then
    write fun f => { f with touching := Flow.touch node e f.touching }
  else throw (.noList node)

def addEdge (e : Edge) : Steps Unit := do
  refuseIf (!(← flow).hasNode e.source) (.sourceMissing e.source)
  refuseIf (!(← flow).hasNode e.target) (.targetMissing e.target)
  refuseIf ((← flow).edges.has e.id) (.edgeExists e.id)
  write fun f => { f with edges := f.edges.put e.id e }
  append e.source e
  if e.source = e.target then pure () else append e.target e

def connect (source target : Text) : Steps (Edge × Bool) := do
  match (← flow).edgesFrom source target with
  | e :: _ => return (e, false)
  | [] =>
    refuseIf (!(← flow).hasNode source) (.sourceMissing source)
    refuseIf (!(← flow).hasNode target) (.targetMissing target)
    let id ← take Supply.freshEdgeId
    addEdge ⟨id, source, target⟩
    return (⟨id, source, target⟩, true)

def removeEdge (id : Text) : Steps Unit := do
  match (← flow).edge? id with
  | none => pure ()
  | some e =>
    write fun f => { f with touching := Flow.untouch e.source id f.touching }
    write fun f => { f with touching := Flow.untouch e.target id f.touching }
    write fun f => { f with edges := f.edges.erase id }

def removeEdges (es : List Edge) : Steps Unit := es.forM fun e => removeEdge e.id

def removeNode (id : Text) : Steps Unit := do
  refuseIf (!(← flow).hasNode id) (.nodeMissing id)
  removeEdges (((← flow).touching.find? id).getD [])
  write fun f => { f with nodes := f.nodes.erase id }
  write fun f => { f with touching := f.touching.erase id }

def disconnect (source target : Text) : Steps Nat := do
  let es := (← flow).edgesFrom source target
  removeEdges es
  return es.length

def clear : Steps Unit := do
  write fun f => { f with nodes := [] }
  write fun f => { f with edges := [] }
  write fun f => { f with touching := [] }

@[simp]
theorem runFrom_bind (c : Steps α) (k : α → Steps β) : (c >>= k).runFrom w =
    match c.runFrom w with
    | (.ok a, w) => (k a).runFrom w
    | (.error stop, w) => (.error stop, w) := by
  simp only [runFrom, ExceptT.run_bind, StateT.run_bind]
  rcases StateT.run (ExceptT.run c) w with ⟨r, w'⟩
  cases r with
  | error stop => rfl
  | ok a => rfl

@[simp]
theorem runFrom_map (c : Steps α) (g : α → β) :
    (g <$> c).runFrom w = ((c.runFrom w).1.map g, (c.runFrom w).2) := by
  rw [← bind_pure_comp, runFrom_bind]
  rcases c.runFrom w with ⟨r, w'⟩
  cases r with
  | error stop => rfl
  | ok a => rfl

@[simp]
theorem runFrom_pure : (pure a : Steps α).runFrom w = (.ok a, w) := rfl

@[simp]
theorem runFrom_throw : (throw stop : Steps α).runFrom w = (.error stop, w) := rfl

@[simp]
theorem runFrom_get : (get : Steps World).runFrom w = (.ok w, w) := rfl

@[simp]
theorem runFrom_flow : flow.runFrom w = (.ok w.flow, w) := rfl

@[simp]
theorem runFrom_write (change : Flow → Flow) :
    (write change).runFrom w = (.ok (), { w with flow := change w.flow }) := rfl

@[simp]
theorem runFrom_take (next : Supply → α × Supply) : (take next).runFrom w =
    (.ok (next w.supply).1, { w with supply := (next w.supply).2 }) := rfl

@[simp]
theorem runFrom_refuseIf (refused : Bool) (error : FlowError) : (refuseIf refused error).runFrom w =
    if refused then (.error (.refused error), w) else (.ok (), w) := by
  cases refused <;> rfl

/-- How a change ends that is made at once: it is made, or it is refused. -/
def ending (r : Except FlowError α) : Except Stop Unit := (r.mapError .refused).map fun _ => ()

@[simp]
theorem ending_ok : ending (.ok a) = .ok () := rfl

@[simp]
theorem ending_error {error : FlowError} :
    ending (.error error : Except FlowError α) = .error (.refused error) := rfl

/-- What a change that takes nothing from the supply comes to if it is made at once. -/
def atOnce (w : World) (r : Except FlowError Flow) : Changed Stop Unit := (ending r, Edit.settle w r)

@[simp]
theorem atOnce_ok : atOnce w (.ok f) = (.ok (), { w with flow := f }) := rfl

@[simp]
theorem atOnce_error {error : FlowError} : atOnce w (.error error) = (.error (.refused error), w) :=
  rfl

theorem runFrom_addNode : (addNode n).runFrom w = atOnce w (w.flow.addNode n) := by
  cases h : w.flow.hasNode n.id <;> simp [addNode, Flow.addNode, h]

theorem runFrom_relabel : (relabel id label).runFrom w = atOnce w (w.flow.relabel id label) := by
  cases h : w.flow.hasNode id <;> simp [relabel, Flow.relabel, h]

theorem runFrom_removeEdge :
    (removeEdge id).runFrom w = (.ok (), { w with flow := w.flow.removeEdge id }) := by
  cases h : w.flow.edge? id <;> simp [removeEdge, Flow.removeEdge, h]

theorem runFrom_removeEdges :
    (removeEdges es).runFrom w = (.ok (), { w with flow := w.flow.removeEdges es }) := by
  induction es generalizing w with
  | nil => rfl
  | cons e es ih =>
    have hrest : (removeEdges (e :: es)).runFrom w =
        (removeEdge e.id >>= fun _ => removeEdges es).runFrom w := rfl
    rw [hrest, runFrom_bind, runFrom_removeEdge]
    exact ih

theorem runFrom_removeNode : (removeNode id).runFrom w = atOnce w (w.flow.removeNode id) := by
  cases h : w.flow.hasNode id <;> simp [removeNode, Flow.removeNode, runFrom_removeEdges, h]

theorem runFrom_disconnect : (disconnect source target).runFrom w =
    (.ok (w.flow.disconnect source target).1,
      { w with flow := (w.flow.disconnect source target).2 }) := by
  simp [disconnect, Flow.disconnect, runFrom_removeEdges, Except.map]

theorem runFrom_clear : clear.runFrom w = (.ok (), { w with flow := w.flow.clear }) := rfl

theorem runFrom_append (h : w.flow.touching.has node = true) : (append node e).runFrom w =
    (.ok (), { w with flow := { w.flow with touching := Flow.touch node e w.flow.touching } }) := by
  simp [append, h]

/-- The lists at both ends are there, so the steps do not stop between the table of edges and the
lists. -/
theorem runFrom_addEdge (hv : w.flow.Valid) :
    (addEdge e).runFrom w = atOnce w (w.flow.addEdge e) := by
  cases hs : w.flow.hasNode e.source with
  | false => simp [addEdge, Flow.addEdge, hs]
  | true =>
    cases ht : w.flow.hasNode e.target with
    | false => simp [addEdge, Flow.addEdge, hs, ht]
    | true =>
      cases he : w.flow.edges.has e.id with
      | true => simp [addEdge, Flow.addEdge, hs, ht, he]
      | false =>
        have hsource : w.flow.touching.has e.source = true := hv.has_touching.trans hs
        have htarget : (Flow.touch e.source e w.flow.touching).has e.target = true :=
          Table.has_adjust.trans (hv.has_touching.trans ht)
        -- A loop is appended to one list only.
        by_cases hl : e.source = e.target
        · rw [hl] at hs hsource
          simp [addEdge, Flow.addEdge, runFrom_append, hs, he, hl, hsource]
        · simp [addEdge, Flow.addEdge, runFrom_append, hs, ht, he, hl, hsource, htarget]

theorem runFrom_connect (hv : w.flow.Valid) : (connect source target).runFrom w =
    ((w.connect source target).1.mapError .refused, (w.connect source target).2) := by
  cases hes : w.flow.edgesFrom source target with
  | cons e es => simp [connect, World.connect, hes, Except.mapError]
  | nil =>
    cases hs : w.flow.hasNode source with
    | false => simp [connect, World.connect, hes, hs, Except.mapError]
    | true =>
      cases ht : w.flow.hasNode target with
      | false => simp [connect, World.connect, hes, hs, ht, Except.mapError]
      | true =>
        have hadd : ∀ e supply, (addEdge e).runFrom { w with supply } =
            atOnce { w with supply } (w.flow.addEdge e) := fun _ _ => runFrom_addEdge hv
        cases h : w.flow.addEdge ⟨w.supply.freshEdgeId.1, source, target⟩ <;>
          simp [connect, World.connect, hes, hs, ht, hadd, h, Except.map, Except.mapError]

theorem runFrom_createAt {place : Position} : (createAt label (.ok place)).runFrom w =
    ((w.createAt label place).1.mapError .refused, (w.createAt label place).2) := by
  cases h : w.flow.addNode ⟨w.supply.freshNodeId.1, label, place⟩ <;>
    simp [createAt, World.createAt, runFrom_addNode, h, Except.map, Except.mapError]

theorem mapError_ofCreate (r : Except FlowError α) :
    (r.mapError .flow).mapError Stop.ofCreate = r.mapError .refused := by
  cases r <;> rfl

theorem runFrom_createAt_ofJson {v : Json} :
    (createAt (w.labelOr label) (Position.ofJson v)).runFrom w =
      ((w.createAtValue label v).1.mapError .ofCreate, (w.createAtValue label v).2) := by
  cases h : Position.ofJson v with
  | error e => simp [createAt, World.createAtValue, h, Except.mapError, Stop.ofCreate]
  | ok place => simp [World.createAtValue, h, runFrom_createAt, mapError_ofCreate]

theorem runFrom_createNode {label position : Json} : (createNode label position).runFrom w =
    ((w.createFrom label position).1.mapError .ofCreate, (w.createFrom label position).2) := by
  cases position with
  | null => simp [createNode, World.createFrom, World.create, runFrom_createAt, mapError_ofCreate]
  | bool | num | str | arr | obj => simp [createNode, World.createFrom, runFrom_createAt_ofJson]

end Steps

end FlowTalk
