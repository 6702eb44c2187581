import FlowTalk.Flow.Position
import FlowTalk.Json.Shown
import FlowTalk.Text.Encoding

/-! Flows from writing. -/
namespace FlowTalk.Saved

/-- What is wrong with a saved flow. -/
inductive FormatError where
  | unreadable (e : Json.SyntaxError)
  | notObject
  | noLists
  | danglingEdge (id : Text)
  | missing (field : String)
  | notIndexed
  | notRecord
  | coordinate (e : CoordinateError)
  | longNumeral
  | conflict (e : FlowError)

def FormatError.message : FormatError → Text
  | unreadable e => "Invalid JSON: ".toList ++ e.message
  | notObject => "Flow data must be an object.".toList
  | noLists => "Flow data needs 'nodes' and 'edges' lists.".toList
  | danglingEdge id => "Edge ".toList ++ id ++ " references a missing node.".toList
  | missing field => "Malformed flow data: '".toList ++ field.toList ++ "'".toList
  | notIndexed | notRecord | coordinate _ | longNumeral => "Malformed flow data".toList
  | conflict e => "Malformed flow data: ".toList ++ e.message

/-- Why no flow is loaded: the data are no saved flow, or a limit is passed. -/
inductive LoadError where
  | format (e : FormatError)
  | coordinateTooLarge
  | numeralTooLong
  | tooDeep

/-- The value of a field that a value must have. -/
def field (name : String) : Json → Except LoadError Json
  | .obj members =>
    match Json.field? name members with
    | some v => .ok v
    | none => .error (.format (.missing name))
  | _ => .error (.format .notIndexed)

/-- The value of a field that an object may have. -/
def optionalField (name : String) : Json → Except LoadError (Option Json)
  | .obj members => .ok (Json.field? name members)
  | _ => .error (.format .notRecord)

/-- The text of a value. An integer that is too long for one makes the data no saved flow. -/
def text (v : Json) : Except LoadError Text :=
  match v.shown with
  | .ok t => .ok t
  | .error .numeralTooLong => .error (.format .longNumeral)
  | .error .tooDeep => .error .tooDeep

def coordinate (v : Json) : Except LoadError Float :=
  match Position.coordinate v with
  | .ok x => .ok x
  | .error .tooLarge => .error .coordinateTooLarge
  | .error e => .error (.format (.coordinate e))

/-- An absent position, or one that counts as false, is an empty record. -/
def positionRecord (v : Option Json) : Json :=
  match v with
  | some v => if v.isFalsy then .obj [] else v
  | none => .obj []

/-- The node of an item. -/
def node (item : Json) : Except LoadError Node := do
  let position ← optionalField "position" item
  let id ← field "id" item
  let id ← text id
  let data ← field "data" item
  let label ← field "label" data
  let x ← optionalField "x" (positionRecord position)
  let y ← optionalField "y" (positionRecord position)
  let label ← text label
  let x ← coordinate (x.getD (.float 0.0))
  let y ← coordinate (y.getD (.float 0.0))
  return ⟨id, label, ⟨x, y⟩⟩

/-- The flow with one more change, which must not be refused. -/
def changed (r : Except FlowError Flow) : Except LoadError Flow :=
  r.mapError fun e => .format (.conflict e)

def addNode (f : Flow) (item : Json) : Except LoadError Flow := do
  let n ← node item
  changed (f.addNode n)

def addEdge (f : Flow) (item : Json) : Except LoadError Flow := do
  let source ← field "source" item
  let source ← text source
  let target ← field "target" item
  let target ← text target
  if f.hasNode source && f.hasNode target then
    let id ← field "id" item
    let id ← text id
    changed (f.addEdge ⟨id, source, target⟩)
  else
    let id ← optionalField "id" item
    let id ← text (id.getD .null)
    .error (.format (.danglingEdge id))

/-- The flow that a value stands for. -/
def load (name : Text) : Json → Except LoadError Flow
  | .obj members =>
    match Json.field? "nodes" members, Json.field? "edges" members with
    | some (.arr nodes), some (.arr edges) => do
      let f ← nodes.foldlM addNode (.empty name)
      edges.foldlM addEdge f
    | _, _ => .error (.format .noLists)
  | _ => .error (.format .notObject)

/-- The flow that a text stands for. -/
def read (name t : Text) : Except LoadError Flow :=
  match Json.read t with
  | .ok v => load name v
  | .error (.badSyntax e) => .error (.format (.unreadable e))
  | .error .numeralTooLong => .error .numeralTooLong
  | .error .tooDeep => .error .tooDeep

/-- Why a path names no file that can be written. -/
inductive PathError where
  | zeroByte
  | isDirectory
  | noDirectory
  | nameTooLong
  deriving DecidableEq

/-- The name of a file or a directory may have so many bytes. -/
def maxNameBytes : Nat := 255

/-- The file that a path names in a directory that has no directories below it. Empty parts and dots
lead nowhere else, and two dots at the front lead to a directory that is there. -/
def fileName (path : Text) : Except PathError Text :=
  if path.contains '\x00' then .error .zeroByte
  else
    let steps := (Text.splitWhere (· == '/') path).filter fun part => !part.isEmpty && part != ['.']
    match steps.dropWhile (· == ['.', '.']) with
    | [] => .error .isDirectory
    | name :: rest =>
      if maxNameBytes < (Text.bytes name).length then .error .nameTooLong
      else if rest.isEmpty then .ok name
      else .error .noDirectory

/-- A file name without what follows its last dot, unless that dot is its first or last
character. -/
def stem (name : Text) : Text :=
  let extension := name.reverse.takeWhile fun c => c != '.'
  let rest := name.take (name.length - extension.length - 1)
  if extension.isEmpty || rest.isEmpty || extension.length = name.length then name else rest

end FlowTalk.Saved
