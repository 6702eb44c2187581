import FlowTalk.Listing.Basic
import FlowTalk.Lookup.Keywords

/-! Ways to find one node of a listing. Of several nodes that answer, the first is found. -/
namespace FlowTalk.Lookup

def byId (id : Text) (nodes : Listing) : Option Entry :=
  if id.isEmpty then none else nodes.find? fun node => node.id == id

/-- The node with a number, counted from one. -/
def byOrdinal (n : Int) (nodes : Listing) : Option Entry :=
  if n < 1 then none else nodes[(n - 1).toNat]?

/-- A label as it is compared: without outer white space, in lower case. -/
def folded (label : Text) : Text := lower (Text.trim label)

def byLabel (label : Text) (nodes : Listing) : Option Entry :=
  if (Text.trim label).isEmpty then none
  else nodes.find? fun node => folded node.label == folded label

/-- Whether the lower-case label of a node contains a keyword. -/
def mentions (node : Entry) (word : Text) : Bool := Text.occursIn word (lower node.label)

/-- The first node whose label contains all keywords, or else the first whose label contains a
keyword of more than two characters. -/
def byKeywords (t : Text) (nodes : Listing) : Option Entry :=
  let words := keywords t
  if words.isEmpty then none
  else
    match nodes.find? fun node => words.all (mentions node) with
    | some node => some node
    | none =>
      nodes.find? fun node => (words.filter fun w => 2 < w.length).any (mentions node)

end FlowTalk.Lookup
