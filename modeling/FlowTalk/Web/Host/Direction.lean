import FlowTalk.Web.Host.Mark

/-! The direction of writing in a label. -/
namespace FlowTalk.Host

/-- Letters of scripts that run from right to left. -/
def leftwardRanges : Ranges :=
  [(1488, 1514), (1519, 1524), (1568, 1599), (1601, 1610), (1646, 1647), (1649, 1652),
   (1657, 1747), (1749, 1749), (1765, 1766), (1774, 1775), (1786, 1791), (1808, 1808),
   (1810, 1839), (1869, 1957), (1969, 1969), (1984, 2026), (2036, 2037), (2048, 2069),
   (2074, 2074), (2084, 2084), (2088, 2088), (2112, 2136), (2144, 2154), (2160, 2183),
   (2185, 2190), (2208, 2249), (65139, 65139), (67584, 67589), (67592, 67592), (67594, 67637),
   (67639, 67640), (67644, 67644), (67647, 67669), (67680, 67702), (67712, 67742), (67808, 67826),
   (67828, 67829), (67840, 67861), (67872, 67897), (67968, 68023), (68030, 68031), (68096, 68096),
   (68112, 68115), (68117, 68119), (68121, 68149), (68192, 68220), (68224, 68252), (68288, 68295),
   (68297, 68324), (68352, 68405), (68416, 68437), (68448, 68466), (68480, 68497), (68608, 68680),
   (68800, 68850), (68864, 68899), (69248, 69289), (69296, 69297), (69376, 69404), (69415, 69415),
   (69424, 69445), (69488, 69505), (69552, 69572), (69600, 69622), (124928, 125124),
   (125218, 125251), (125259, 125259), (125264, 125273)]

/-- Digits that are written like those of Arabic. -/
def arabicNumberRanges : Ranges :=
  [(1632, 1641), (68912, 68921)]

/-- Digits that are written like those of ASCII. -/
def numberRanges : Ranges :=
  [(48, 57), (1776, 1785)]

/-- Characters without a direction. -/
def neutralRanges : Ranges :=
  [(45, 45), (183, 183), (697, 698), (710, 719), (748, 748), (885, 885), (8204, 8205),
   (11823, 11823), (12539, 12539), (42623, 42623), (42775, 42783), (42888, 42888)]

/-- The part that a character takes in the direction of a line. -/
inductive Direction where
  | leftToRight
  | rightToLeft
  | number
  | arabicNumber
  | neutral
  | attached
  deriving DecidableEq

def direction (n : Nat) : Direction :=
  if isAttached n then .attached
  else if leftwardRanges.covers n then .rightToLeft
  else if numberRanges.covers n then .number
  else if arabicNumberRanges.covers n then .arabicNumber
  else if neutralRanges.covers n then .neutral
  else .leftToRight

namespace Direction

/-- Whether a line with such a character has a part that runs from right to left. -/
def turns : Direction → Bool
  | rightToLeft | arabicNumber => true
  | _ => false

/-- Whether a line from right to left may end with such a character. -/
def ends : Direction → Bool
  | rightToLeft | number | arabicNumber => true
  | _ => false

end Direction

/-- Whether a label is read in one direction. If a part of it runs from right to left, it starts with
a letter that does, has no letter that does not, ends with a letter or a digit but for its marks, and
has digits of one kind. -/
def readsOneWay (label : List Nat) : Bool :=
  let ds := label.map direction
  !ds.any Direction.turns ||
    (ds.head? == some .rightToLeft && !ds.contains .leftToRight &&
      (ds.reverse.dropWhile (· == .attached)).head?.any Direction.ends &&
      !(ds.contains .number && ds.contains .arabicNumber))

end FlowTalk.Host
