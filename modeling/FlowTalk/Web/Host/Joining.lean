import FlowTalk.Web.Host.Mark

/-! Letters that join their neighbours, and the scripts that some signs belong to. -/
namespace FlowTalk.Host

/-- Letters that join the next letter. -/
def onwardRanges : Ranges :=
  [(1568, 1568), (1574, 1574), (1576, 1576), (1578, 1582), (1587, 1599), (1601, 1607),
   (1609, 1610), (1646, 1647), (1657, 1671), (1690, 1727), (1729, 1730), (1740, 1740),
   (1742, 1742), (1744, 1745), (1786, 1788), (1791, 1791), (1810, 1812), (1818, 1821),
   (1823, 1831), (1833, 1833), (1835, 1835), (1837, 1838), (1870, 1880), (1884, 1898),
   (1901, 1904), (1906, 1906), (1909, 1911), (1914, 1919), (1994, 2026), (2113, 2117),
   (2120, 2120), (2122, 2131), (2133, 2133), (2144, 2144), (2146, 2149), (2152, 2152),
   (2182, 2182), (2185, 2189), (2208, 2217), (2223, 2224), (2227, 2232), (2234, 2248),
   (6176, 6264), (6279, 6312), (6314, 6314), (43072, 43122), (68288, 68292), (68301, 68301),
   (68307, 68316), (68318, 68320), (68480, 68480), (68482, 68482), (68486, 68488), (68490, 68491),
   (68493, 68493), (68496, 68496), (68864, 68897), (68899, 68899), (69424, 69426), (69428, 69444),
   (69488, 69491), (69494, 69505), (69552, 69552), (69554, 69555), (69560, 69560), (69563, 69564),
   (69566, 69567), (69569, 69569), (69572, 69572), (125218, 125251)]

/-- Letters that join the letter before them. -/
def backwardRanges : Ranges :=
  [(1568, 1568), (1570, 1599), (1601, 1610), (1646, 1647), (1649, 1651), (1657, 1747),
   (1749, 1749), (1774, 1775), (1786, 1788), (1791, 1791), (1808, 1808), (1810, 1839),
   (1869, 1919), (1994, 2026), (2112, 2136), (2144, 2144), (2146, 2149), (2151, 2154),
   (2160, 2178), (2182, 2182), (2185, 2190), (2208, 2220), (2222, 2248), (6176, 6264),
   (6279, 6312), (6314, 6314), (43072, 43121), (68288, 68293), (68295, 68295), (68297, 68298),
   (68302, 68310), (68312, 68321), (68324, 68324), (68480, 68497), (68865, 68899), (69424, 69444),
   (69488, 69505), (69552, 69552), (69554, 69558), (69560, 69567), (69569, 69572),
   (125218, 125251)]

/-- Greek characters. -/
def greekRanges : Ranges :=
  [(881, 881), (883, 883), (885, 885), (887, 887), (891, 893), (912, 912), (940, 974), (983, 983),
   (985, 985), (987, 987), (989, 989), (991, 991), (993, 993), (1011, 1011), (1016, 1016),
   (1019, 1020), (7462, 7466), (7936, 7943), (7952, 7957), (7968, 7975), (7984, 7991),
   (8000, 8005), (8016, 8023), (8032, 8039), (8048, 8048), (8050, 8050), (8052, 8052),
   (8054, 8054), (8056, 8056), (8058, 8058), (8060, 8060), (8112, 8113), (8118, 8118),
   (8134, 8134), (8144, 8146), (8150, 8151), (8160, 8162), (8164, 8167), (8182, 8182),
   (43877, 43877)]

/-- Hebrew characters. -/
def hebrewRanges : Ranges :=
  [(1425, 1469), (1471, 1471), (1473, 1474), (1476, 1477), (1479, 1479), (1488, 1514),
   (1519, 1524), (64286, 64286)]

/-- Kana and Han characters. -/
def japaneseRanges : Ranges :=
  [(12293, 12293), (12295, 12295), (12353, 12438), (12445, 12446), (12449, 12538), (12541, 12542),
   (12784, 12799), (13312, 19903), (19968, 40959), (64014, 64015), (64017, 64017), (64019, 64020),
   (64031, 64031), (64033, 64033), (64035, 64036), (64039, 64041), (94179, 94179), (94192, 94193),
   (110576, 110579), (110581, 110587), (110589, 110590), (110592, 110882), (110928, 110930),
   (110948, 110951), (131072, 173791), (173824, 177976), (177984, 178205), (178208, 183969),
   (183984, 191456), (196608, 201546)]

/-- What joining passes over: marks. -/
def isTransparent (n : Nat) : Bool := isAttached n || n == 0x1e94b

/-- The first letter of a text that is no mark. -/
def nearest (ns : List Nat) : Option Nat := (ns.dropWhile isTransparent).head?

def isArabicDigit (n : Nat) : Bool := 0x660 ≤ n && n ≤ 0x669

def isExtendedArabicDigit (n : Nat) : Bool := 0x6f0 ≤ n && n ≤ 0x6f9

/-- The invisible signs that keep two letters apart or join them. -/
def isJoiner (n : Nat) : Bool := n == 0x200c || n == 0x200d

/-- Whether a sign that needs company has it, given what stands before it, the nearest first, and
what stands after it. Signs that need none have no answer. -/
def hasCompany (before : List Nat) (n : Nat) (after : List Nat) : Option Bool :=
  if n = 0x200c then
    some (before.head?.any isVirama ||
      ((nearest before).any onwardRanges.covers && (nearest after).any backwardRanges.covers))
  else if n = 0x200d then some (before.head?.any isVirama)
  else if n = 0xb7 then some (before.head? == some 0x6c && after.head? == some 0x6c)
  else if n = 0x375 then some (after.head?.any greekRanges.covers)
  else if n = 0x5f3 ∨ n = 0x5f4 then some (before.head?.any hebrewRanges.covers)
  else if n = 0x30fb then some ((before ++ after).any japaneseRanges.covers)
  else if isArabicDigit n then some (!(before ++ after).any isExtendedArabicDigit)
  else if isExtendedArabicDigit n then some (!(before ++ after).any isArabicDigit)
  else none

end FlowTalk.Host
