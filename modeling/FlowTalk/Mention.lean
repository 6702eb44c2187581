import FlowTalk.Text.Basic

namespace FlowTalk

/-- A node as it was mentioned: by number, by a label given as such, or by some other phrase. The
text is what was said. -/
inductive Mention where
  | ordinal (n : Int) (text : Text)
  | label (text : Text)
  | phrase (text : Text)
  deriving DecidableEq

namespace Mention

def text : Mention → Text
  | .ordinal _ text | .label text | .phrase text => text

def ordinal? : Mention → Option Int
  | .ordinal n _ => some n
  | _ => none

def isLabel : Mention → Bool
  | .label _ => true
  | _ => false

/-- The mention of a node by number, in the given words or else in plain ones. -/
def ofOrdinal (n : Int) (text : Text) : Mention :=
  .ordinal n (if text.isEmpty then "node ".toList ++ Text.ofInt n else text)

end Mention

end FlowTalk
