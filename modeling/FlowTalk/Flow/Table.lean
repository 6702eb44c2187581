import FlowTalk.Text.Ranges

namespace FlowTalk

/-- Values under keys, in the order in which the keys were first put. -/
abbrev Table (α : Type) := List (Text × α)

namespace Table

variable {α : Type}

def keys (t : Table α) : List Text := t.map Prod.fst

def values (t : Table α) : List α := t.map Prod.snd

def find? (key : Text) (t : Table α) : Option α := t.lookup key

def has (key : Text) (t : Table α) : Bool := t.any fun entry => entry.1 == key

/-- Changes the value under a key; without the key nothing changes. -/
def adjust (key : Text) (f : α → α) (t : Table α) : Table α :=
  t.map fun entry => if entry.1 == key then (entry.1, f entry.2) else entry

/-- Puts a value under a key. A new key goes to the end, a key that is there keeps its place. -/
def put (key : Text) (value : α) (t : Table α) : Table α :=
  if t.has key then t.adjust key fun _ => value else t ++ [(key, value)]

def erase (key : Text) (t : Table α) : Table α := t.filter fun entry => entry.1 != key

end Table

end FlowTalk
