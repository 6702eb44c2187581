import FlowTalk.Text.Ranges

/-! Marks, and the order in which several marks of one letter are written. -/
namespace FlowTalk.Host

/-- Marks that take no place of their own in a line and follow the direction of their letter. -/
def attachedRanges : Ranges :=
  [(768, 831), (834, 834), (838, 846), (848, 879), (1155, 1159), (1425, 1469), (1471, 1471),
   (1473, 1474), (1476, 1477), (1479, 1479), (1552, 1562), (1611, 1631), (1648, 1648),
   (1750, 1756), (1759, 1764), (1767, 1768), (1770, 1773), (1809, 1809), (1840, 1866),
   (1958, 1968), (2027, 2035), (2045, 2045), (2070, 2073), (2075, 2083), (2085, 2087),
   (2089, 2093), (2137, 2139), (2200, 2207), (2250, 2273), (2275, 2306), (2362, 2362),
   (2364, 2364), (2369, 2376), (2381, 2381), (2385, 2391), (2402, 2403), (2433, 2433),
   (2492, 2492), (2497, 2500), (2509, 2509), (2530, 2531), (2558, 2558), (2561, 2562),
   (2620, 2620), (2625, 2626), (2631, 2632), (2635, 2637), (2641, 2641), (2672, 2673),
   (2677, 2677), (2689, 2690), (2748, 2748), (2753, 2757), (2759, 2760), (2765, 2765),
   (2786, 2787), (2810, 2815), (2817, 2817), (2876, 2876), (2879, 2879), (2881, 2884),
   (2893, 2893), (2901, 2902), (2914, 2915), (2946, 2946), (3008, 3008), (3021, 3021),
   (3072, 3072), (3076, 3076), (3132, 3132), (3134, 3136), (3142, 3144), (3146, 3149),
   (3157, 3158), (3170, 3171), (3201, 3201), (3260, 3260), (3276, 3277), (3298, 3299),
   (3328, 3329), (3387, 3388), (3393, 3396), (3405, 3405), (3426, 3427), (3457, 3457),
   (3530, 3530), (3538, 3540), (3542, 3542), (3633, 3633), (3636, 3642), (3655, 3662),
   (3761, 3761), (3764, 3772), (3784, 3789), (3864, 3865), (3893, 3893), (3895, 3895),
   (3897, 3897), (3953, 3954), (3956, 3956), (3962, 3966), (3968, 3968), (3970, 3972),
   (3974, 3975), (3981, 3986), (3988, 3991), (3993, 3996), (3998, 4001), (4003, 4006),
   (4008, 4011), (4013, 4024), (4026, 4028), (4038, 4038), (4141, 4144), (4146, 4151),
   (4153, 4154), (4157, 4158), (4184, 4185), (4190, 4192), (4209, 4212), (4226, 4226),
   (4229, 4230), (4237, 4237), (4253, 4253), (4957, 4959), (5906, 5908), (5938, 5939),
   (5970, 5971), (6002, 6003), (6071, 6077), (6086, 6086), (6089, 6099), (6109, 6109),
   (6277, 6278), (6313, 6313), (6432, 6434), (6439, 6440), (6450, 6450), (6457, 6459),
   (6679, 6680), (6683, 6683), (6742, 6742), (6744, 6750), (6752, 6752), (6754, 6754),
   (6757, 6764), (6771, 6780), (6783, 6783), (6832, 6845), (6847, 6862), (6912, 6915),
   (6964, 6964), (6966, 6970), (6972, 6972), (6978, 6978), (7019, 7027), (7040, 7041),
   (7074, 7077), (7080, 7081), (7083, 7085), (7142, 7142), (7144, 7145), (7149, 7149),
   (7151, 7153), (7212, 7219), (7222, 7223), (7376, 7378), (7380, 7392), (7394, 7400),
   (7405, 7405), (7412, 7412), (7416, 7417), (7616, 7679), (11503, 11505), (11647, 11647),
   (11744, 11775), (12330, 12333), (12441, 12442), (42607, 42607), (42612, 42621), (42654, 42655),
   (42736, 42737), (43010, 43010), (43014, 43014), (43019, 43019), (43045, 43046), (43052, 43052),
   (43204, 43205), (43232, 43249), (43263, 43263), (43302, 43309), (43335, 43345), (43392, 43394),
   (43443, 43443), (43446, 43449), (43452, 43453), (43493, 43493), (43561, 43566), (43569, 43570),
   (43573, 43574), (43587, 43587), (43596, 43596), (43644, 43644), (43696, 43696), (43698, 43700),
   (43703, 43704), (43710, 43711), (43713, 43713), (43756, 43757), (43766, 43766), (44005, 44005),
   (44008, 44008), (44013, 44013), (64286, 64286), (65056, 65071), (66045, 66045), (66272, 66272),
   (66422, 66426), (68097, 68099), (68101, 68102), (68108, 68111), (68152, 68154), (68159, 68159),
   (68325, 68326), (68900, 68903), (69291, 69292), (69446, 69456), (69506, 69509), (69633, 69633),
   (69688, 69702), (69744, 69744), (69747, 69748), (69759, 69761), (69811, 69814), (69817, 69818),
   (69826, 69826), (69888, 69890), (69927, 69931), (69933, 69940), (70003, 70003), (70016, 70017),
   (70070, 70078), (70089, 70092), (70095, 70095), (70191, 70193), (70196, 70196), (70198, 70199),
   (70206, 70206), (70367, 70367), (70371, 70378), (70400, 70401), (70459, 70460), (70464, 70464),
   (70502, 70508), (70512, 70516), (70712, 70719), (70722, 70724), (70726, 70726), (70750, 70750),
   (70835, 70840), (70842, 70842), (70847, 70848), (70850, 70851), (71090, 71093), (71100, 71101),
   (71103, 71104), (71132, 71133), (71219, 71226), (71229, 71229), (71231, 71232), (71339, 71339),
   (71341, 71341), (71344, 71349), (71351, 71351), (71453, 71455), (71458, 71461), (71463, 71467),
   (71727, 71735), (71737, 71738), (71995, 71996), (71998, 71998), (72003, 72003), (72148, 72151),
   (72154, 72155), (72160, 72160), (72193, 72198), (72201, 72202), (72243, 72248), (72251, 72254),
   (72263, 72263), (72273, 72278), (72281, 72283), (72330, 72342), (72344, 72345), (72752, 72758),
   (72760, 72765), (72850, 72871), (72874, 72880), (72882, 72883), (72885, 72886), (73009, 73014),
   (73018, 73018), (73020, 73021), (73023, 73029), (73031, 73031), (73104, 73105), (73109, 73109),
   (73111, 73111), (73459, 73460), (92912, 92916), (92976, 92982), (94031, 94031), (94095, 94098),
   (94180, 94180), (113821, 113822), (118528, 118573), (118576, 118598), (121344, 121398),
   (121403, 121452), (121461, 121461), (121476, 121476), (121499, 121503), (121505, 121519),
   (122880, 122886), (122888, 122904), (122907, 122913), (122915, 122916), (122918, 122922),
   (123184, 123190), (123566, 123566), (123628, 123631), (125136, 125142), (125252, 125258)]

/-- The other marks. -/
def spacingRanges : Ranges :=
  [(832, 833), (835, 837), (847, 847), (1160, 1161), (2307, 2307), (2363, 2363), (2366, 2368),
   (2377, 2380), (2382, 2383), (2434, 2435), (2494, 2496), (2503, 2504), (2507, 2508),
   (2519, 2519), (2563, 2563), (2622, 2624), (2691, 2691), (2750, 2752), (2761, 2761),
   (2763, 2764), (2818, 2819), (2878, 2878), (2880, 2880), (2887, 2888), (2891, 2892),
   (2903, 2903), (3006, 3007), (3009, 3010), (3014, 3016), (3018, 3020), (3031, 3031),
   (3073, 3075), (3137, 3140), (3202, 3203), (3262, 3268), (3270, 3272), (3274, 3275),
   (3285, 3286), (3330, 3331), (3390, 3392), (3398, 3400), (3402, 3404), (3415, 3415),
   (3458, 3459), (3535, 3537), (3544, 3551), (3570, 3571), (3902, 3903), (3955, 3955),
   (3957, 3961), (3967, 3967), (3969, 3969), (3987, 3987), (3997, 3997), (4002, 4002),
   (4007, 4007), (4012, 4012), (4025, 4025), (4139, 4140), (4145, 4145), (4152, 4152),
   (4155, 4156), (4182, 4183), (4194, 4196), (4199, 4205), (4227, 4228), (4231, 4236),
   (4239, 4239), (4250, 4252), (5909, 5909), (5940, 5940), (6068, 6070), (6078, 6085),
   (6087, 6088), (6155, 6157), (6159, 6159), (6435, 6438), (6441, 6443), (6448, 6449),
   (6451, 6456), (6681, 6682), (6741, 6741), (6743, 6743), (6753, 6753), (6755, 6756),
   (6765, 6770), (6846, 6846), (6916, 6916), (6965, 6965), (6971, 6971), (6973, 6977),
   (6979, 6980), (7042, 7042), (7073, 7073), (7078, 7079), (7082, 7082), (7143, 7143),
   (7146, 7148), (7150, 7150), (7154, 7155), (7204, 7211), (7220, 7221), (7393, 7393),
   (7415, 7415), (8400, 8432), (12334, 12335), (42608, 42610), (43043, 43044), (43047, 43047),
   (43136, 43137), (43188, 43203), (43346, 43347), (43395, 43395), (43444, 43445), (43450, 43451),
   (43454, 43456), (43567, 43568), (43571, 43572), (43597, 43597), (43643, 43643), (43645, 43645),
   (43755, 43755), (43758, 43759), (43765, 43765), (44003, 44004), (44006, 44007), (44009, 44010),
   (44012, 44012), (65024, 65039), (69632, 69632), (69634, 69634), (69762, 69762), (69808, 69810),
   (69815, 69816), (69932, 69932), (69957, 69958), (70018, 70018), (70067, 70069), (70079, 70080),
   (70094, 70094), (70188, 70190), (70194, 70195), (70197, 70197), (70368, 70370), (70402, 70403),
   (70462, 70463), (70465, 70468), (70471, 70472), (70475, 70477), (70487, 70487), (70498, 70499),
   (70709, 70711), (70720, 70721), (70725, 70725), (70832, 70834), (70841, 70841), (70843, 70846),
   (70849, 70849), (71087, 71089), (71096, 71099), (71102, 71102), (71216, 71218), (71227, 71228),
   (71230, 71230), (71340, 71340), (71342, 71343), (71350, 71350), (71456, 71457), (71462, 71462),
   (71724, 71726), (71736, 71736), (71984, 71989), (71991, 71992), (71997, 71997), (72000, 72000),
   (72002, 72002), (72145, 72147), (72156, 72159), (72164, 72164), (72199, 72200), (72249, 72249),
   (72279, 72280), (72343, 72343), (72751, 72751), (72766, 72767), (72873, 72873), (72881, 72881),
   (72884, 72884), (73098, 73102), (73107, 73108), (73110, 73110), (73461, 73462), (94033, 94087),
   (94192, 94193), (119141, 119145), (119149, 119154), (119163, 119170), (119173, 119179),
   (119210, 119213), (119362, 119364), (917760, 917999)]

def isAttached (n : Nat) : Bool := attachedRanges.covers n

def isMark (n : Nat) : Bool := isAttached n || spacingRanges.covers n

/-- Intervals of marks that combine with a letter, with their class: marks of one class interact. -/
def markClasses : List (Nat × Nat × Nat) :=
  [(768, 788, 230), (789, 789, 232), (790, 793, 220), (794, 794, 232), (795, 795, 216),
   (796, 800, 220), (801, 802, 202), (803, 806, 220), (807, 808, 202), (809, 819, 220),
   (820, 824, 1), (825, 828, 220), (829, 831, 230), (834, 834, 230), (838, 838, 230),
   (839, 841, 220), (842, 844, 230), (845, 846, 220), (848, 850, 230), (851, 854, 220),
   (855, 855, 230), (856, 856, 232), (857, 858, 220), (859, 859, 230), (860, 860, 233),
   (861, 862, 234), (863, 863, 233), (864, 865, 234), (866, 866, 233), (867, 879, 230),
   (1155, 1159, 230), (1425, 1425, 220), (1426, 1429, 230), (1430, 1430, 220), (1431, 1433, 230),
   (1434, 1434, 222), (1435, 1435, 220), (1436, 1441, 230), (1442, 1447, 220), (1448, 1449, 230),
   (1450, 1450, 220), (1451, 1452, 230), (1453, 1453, 222), (1454, 1454, 228), (1455, 1455, 230),
   (1456, 1456, 10), (1457, 1457, 11), (1458, 1458, 12), (1459, 1459, 13), (1460, 1460, 14),
   (1461, 1461, 15), (1462, 1462, 16), (1463, 1463, 17), (1464, 1464, 18), (1465, 1466, 19),
   (1467, 1467, 20), (1468, 1468, 21), (1469, 1469, 22), (1471, 1471, 23), (1473, 1473, 24),
   (1474, 1474, 25), (1476, 1476, 230), (1477, 1477, 220), (1479, 1479, 18), (1552, 1559, 230),
   (1560, 1560, 30), (1561, 1561, 31), (1562, 1562, 32), (1611, 1611, 27), (1612, 1612, 28),
   (1613, 1613, 29), (1614, 1614, 30), (1615, 1615, 31), (1616, 1616, 32), (1617, 1617, 33),
   (1618, 1618, 34), (1619, 1620, 230), (1621, 1622, 220), (1623, 1627, 230), (1628, 1628, 220),
   (1629, 1630, 230), (1631, 1631, 220), (1648, 1648, 35), (1750, 1756, 230), (1759, 1762, 230),
   (1763, 1763, 220), (1764, 1764, 230), (1767, 1768, 230), (1770, 1770, 220), (1771, 1772, 230),
   (1773, 1773, 220), (1809, 1809, 36), (1840, 1840, 230), (1841, 1841, 220), (1842, 1843, 230),
   (1844, 1844, 220), (1845, 1846, 230), (1847, 1849, 220), (1850, 1850, 230), (1851, 1852, 220),
   (1853, 1853, 230), (1854, 1854, 220), (1855, 1857, 230), (1858, 1858, 220), (1859, 1859, 230),
   (1860, 1860, 220), (1861, 1861, 230), (1862, 1862, 220), (1863, 1863, 230), (1864, 1864, 220),
   (1865, 1866, 230), (2027, 2033, 230), (2034, 2034, 220), (2035, 2035, 230), (2045, 2045, 220),
   (2070, 2073, 230), (2075, 2083, 230), (2085, 2087, 230), (2089, 2093, 230), (2137, 2139, 220),
   (2200, 2200, 230), (2201, 2203, 220), (2204, 2207, 230), (2250, 2254, 230), (2255, 2259, 220),
   (2260, 2273, 230), (2275, 2275, 220), (2276, 2277, 230), (2278, 2278, 220), (2279, 2280, 230),
   (2281, 2281, 220), (2282, 2284, 230), (2285, 2287, 220), (2288, 2288, 27), (2289, 2289, 28),
   (2290, 2290, 29), (2291, 2293, 230), (2294, 2294, 220), (2295, 2296, 230), (2297, 2298, 220),
   (2299, 2303, 230), (2364, 2364, 7), (2381, 2381, 9), (2385, 2385, 230), (2386, 2386, 220),
   (2387, 2388, 230), (2492, 2492, 7), (2509, 2509, 9), (2558, 2558, 230), (2620, 2620, 7),
   (2637, 2637, 9), (2748, 2748, 7), (2765, 2765, 9), (2876, 2876, 7), (2893, 2893, 9),
   (3021, 3021, 9), (3132, 3132, 7), (3149, 3149, 9), (3157, 3157, 84), (3158, 3158, 91),
   (3260, 3260, 7), (3277, 3277, 9), (3387, 3388, 9), (3405, 3405, 9), (3530, 3530, 9),
   (3640, 3641, 103), (3642, 3642, 9), (3656, 3659, 107), (3768, 3769, 118), (3770, 3770, 9),
   (3784, 3787, 122), (3864, 3865, 220), (3893, 3893, 220), (3895, 3895, 220), (3897, 3897, 216),
   (3953, 3953, 129), (3954, 3954, 130), (3956, 3956, 132), (3962, 3965, 130), (3968, 3968, 130),
   (3970, 3971, 230), (3972, 3972, 9), (3974, 3975, 230), (4038, 4038, 220), (4151, 4151, 7),
   (4153, 4154, 9), (4237, 4237, 220), (4957, 4959, 230), (5908, 5909, 9), (5940, 5940, 9),
   (6098, 6098, 9), (6109, 6109, 230), (6313, 6313, 228), (6457, 6457, 222), (6458, 6458, 230),
   (6459, 6459, 220), (6679, 6679, 230), (6680, 6680, 220), (6752, 6752, 9), (6773, 6780, 230),
   (6783, 6783, 220), (6832, 6836, 230), (6837, 6842, 220), (6843, 6844, 230), (6845, 6845, 220),
   (6847, 6848, 220), (6849, 6850, 230), (6851, 6852, 220), (6853, 6857, 230), (6858, 6858, 220),
   (6859, 6862, 230), (6964, 6964, 7), (6980, 6980, 9), (7019, 7019, 230), (7020, 7020, 220),
   (7021, 7027, 230), (7082, 7083, 9), (7142, 7142, 7), (7154, 7155, 9), (7223, 7223, 7),
   (7376, 7378, 230), (7380, 7380, 1), (7381, 7385, 220), (7386, 7387, 230), (7388, 7391, 220),
   (7392, 7392, 230), (7394, 7400, 1), (7405, 7405, 220), (7412, 7412, 230), (7416, 7417, 230),
   (7616, 7617, 230), (7618, 7618, 220), (7619, 7625, 230), (7626, 7626, 220), (7627, 7628, 230),
   (7629, 7629, 234), (7630, 7630, 214), (7631, 7631, 220), (7632, 7632, 202), (7633, 7669, 230),
   (7670, 7670, 232), (7671, 7672, 228), (7673, 7673, 220), (7674, 7674, 218), (7675, 7675, 230),
   (7676, 7676, 233), (7677, 7677, 220), (7678, 7678, 230), (7679, 7679, 220),
   (11503, 11505, 230), (11647, 11647, 9), (11744, 11775, 230), (12330, 12330, 218),
   (12331, 12331, 228), (12332, 12332, 232), (12333, 12333, 222), (12441, 12442, 8),
   (42607, 42607, 230), (42612, 42621, 230), (42654, 42655, 230), (42736, 42737, 230),
   (43014, 43014, 9), (43052, 43052, 9), (43204, 43204, 9), (43232, 43249, 230),
   (43307, 43309, 220), (43347, 43347, 9), (43443, 43443, 7), (43456, 43456, 9),
   (43696, 43696, 230), (43698, 43699, 230), (43700, 43700, 220), (43703, 43704, 230),
   (43710, 43711, 230), (43713, 43713, 230), (43766, 43766, 9), (44013, 44013, 9),
   (64286, 64286, 26), (65056, 65062, 230), (65063, 65069, 220), (65070, 65071, 230),
   (66045, 66045, 220), (66272, 66272, 220), (66422, 66426, 230), (68109, 68109, 220),
   (68111, 68111, 230), (68152, 68152, 230), (68153, 68153, 1), (68154, 68154, 220),
   (68159, 68159, 9), (68325, 68325, 230), (68326, 68326, 220), (68900, 68903, 230),
   (69291, 69292, 230), (69446, 69447, 220), (69448, 69450, 230), (69451, 69451, 220),
   (69452, 69452, 230), (69453, 69456, 220), (69506, 69506, 230), (69507, 69507, 220),
   (69508, 69508, 230), (69509, 69509, 220), (69702, 69702, 9), (69744, 69744, 9),
   (69759, 69759, 9), (69817, 69817, 9), (69818, 69818, 7), (69888, 69890, 230),
   (69939, 69940, 9), (70003, 70003, 7), (70080, 70080, 9), (70090, 70090, 7), (70197, 70197, 9),
   (70198, 70198, 7), (70377, 70377, 7), (70378, 70378, 9), (70459, 70460, 7), (70477, 70477, 9),
   (70502, 70508, 230), (70512, 70516, 230), (70722, 70722, 9), (70726, 70726, 7),
   (70750, 70750, 230), (70850, 70850, 9), (70851, 70851, 7), (71103, 71103, 9),
   (71104, 71104, 7), (71231, 71231, 9), (71350, 71350, 9), (71351, 71351, 7), (71467, 71467, 9),
   (71737, 71737, 9), (71738, 71738, 7), (71997, 71998, 9), (72003, 72003, 7), (72160, 72160, 9),
   (72244, 72244, 9), (72263, 72263, 9), (72345, 72345, 9), (72767, 72767, 9), (73026, 73026, 7),
   (73028, 73029, 9), (73111, 73111, 9), (92912, 92916, 1), (92976, 92982, 230),
   (94192, 94193, 6), (113822, 113822, 1), (122880, 122886, 230), (122888, 122904, 230),
   (122907, 122913, 230), (122915, 122916, 230), (122918, 122922, 230), (123184, 123190, 230),
   (123566, 123566, 230), (123628, 123631, 230), (125136, 125142, 220), (125252, 125257, 230),
   (125258, 125258, 7)]

/-- The class in a list of intervals in ascending order; zero outside of them. -/
def classIn : List (Nat × Nat × Nat) → Nat → Nat
  | [], _ => 0
  | (first, last, c) :: rest, n => if n < first then 0 else if n ≤ last then c else classIn rest n

/-- The class of a mark; zero for what is no combining mark. -/
def markClass (n : Nat) : Nat := classIn markClasses n

/-- The marks that suppress the vowel of a consonant. -/
def isVirama (n : Nat) : Bool := markClass n == 9

end FlowTalk.Host
