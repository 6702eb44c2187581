import FlowTalk.Number.Basic
import FlowTalk.Text.Ranges

namespace FlowTalk

/-- A JSON value; the members of an object are in their order. -/
inductive Json where
  | null
  | bool (b : Bool)
  | num (n : Number)
  | str (t : Text)
  | arr (items : List Json)
  | obj (members : List (Text × Json))

namespace Json

/-- The value of the first member with a given name. -/
def field? (name : String) (members : List (Text × Json)) : Option Json :=
  members.lookup name.toList

def int (n : Int) : Json := .num (.int n)

def float (x : Float) : Json := .num (.float x)

def text (s : String) : Json := .str s.toList

/-- Whether a value counts as false: null, false, zero and what is empty. -/
def isFalsy : Json → Bool
  | .null => true
  | .bool b => !b
  | .num (.int n) => n == 0
  | .num (.float x) => x == 0
  | .str t => t.isEmpty
  | .arr items => items.isEmpty
  | .obj members => members.isEmpty

end Json

end FlowTalk
