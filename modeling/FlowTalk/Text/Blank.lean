import FlowTalk.Text.Ranges

namespace FlowTalk

/-- The twenty-nine white-space code points: the separators of every kind and the controls
between them. -/
def blankRanges : Ranges :=
  [(9, 13), (28, 32), (133, 133), (160, 160), (5760, 5760), (8192, 8202), (8232, 8233),
   (8239, 8239), (8287, 8287), (12288, 12288)]

def isBlank (c : Char) : Bool := blankRanges.covers c.toNat

end FlowTalk
