/-
# Simple case folding

Two characters are the same but for case when simple case folding (Unicode 16.0) takes them to the
same character.  The table lists the characters that differ from their representative, in runs: a
first character, how many follow, the step between them, and how far the representative is.
-/
import PathQuery.Unicode.CharSet

namespace PathQuery.Unicode

/-- Runs of characters with their representatives: the first code point, the number of code points,
the step between them and the distance to the representative. -/
def foldingRuns : List (Nat × Nat × Nat × Int) := [
  (65, 26, 1, 32), (181, 1, 1, 775), (192, 23, 1, 32), (216, 7, 1, 32), (256, 24, 2, 1), (306, 3,
  2, 1), (313, 8, 2, 1), (330, 23, 2, 1), (376, 1, 1, -121), (377, 3, 2, 1), (383, 1, 1, -268),
  (385, 1, 1, 210), (386, 2, 2, 1), (390, 1, 1, 206), (391, 1, 1, 1), (393, 2, 1, 205), (395, 1,
  1, 1), (398, 1, 1, 79), (399, 1, 1, 202), (400, 1, 1, 203), (401, 1, 1, 1), (403, 1, 1, 205),
  (404, 1, 1, 207), (406, 1, 1, 211), (407, 1, 1, 209), (408, 1, 1, 1), (412, 1, 1, 211), (413, 1,
  1, 213), (415, 1, 1, 214), (416, 3, 2, 1), (422, 1, 1, 218), (423, 1, 1, 1), (425, 1, 1, 218),
  (428, 1, 1, 1), (430, 1, 1, 218), (431, 1, 1, 1), (433, 2, 1, 217), (435, 2, 2, 1), (439, 1, 1,
  219), (440, 1, 1, 1), (444, 1, 1, 1), (452, 1, 1, 2), (453, 1, 1, 1), (455, 1, 1, 2), (456, 1,
  1, 1), (458, 1, 1, 2), (459, 9, 2, 1), (478, 9, 2, 1), (497, 1, 1, 2), (498, 2, 2, 1), (502, 1,
  1, -97), (503, 1, 1, -56), (504, 20, 2, 1), (544, 1, 1, -130), (546, 9, 2, 1), (570, 1, 1,
  10795), (571, 1, 1, 1), (573, 1, 1, -163), (574, 1, 1, 10792), (577, 1, 1, 1), (579, 1, 1,
  -195), (580, 1, 1, 69), (581, 1, 1, 71), (582, 5, 2, 1), (837, 1, 1, 116), (880, 2, 2, 1), (886,
  1, 1, 1), (895, 1, 1, 116), (902, 1, 1, 38), (904, 3, 1, 37), (908, 1, 1, 64), (910, 2, 1, 63),
  (913, 17, 1, 32), (931, 9, 1, 32), (962, 1, 1, 1), (975, 1, 1, 8), (976, 1, 1, -30), (977, 1, 1,
  -25), (981, 1, 1, -15), (982, 1, 1, -22), (984, 12, 2, 1), (1008, 1, 1, -54), (1009, 1, 1, -48),
  (1012, 1, 1, -60), (1013, 1, 1, -64), (1015, 1, 1, 1), (1017, 1, 1, -7), (1018, 1, 1, 1), (1021,
  3, 1, -130), (1024, 16, 1, 80), (1040, 32, 1, 32), (1120, 17, 2, 1), (1162, 27, 2, 1), (1216, 1,
  1, 15), (1217, 7, 2, 1), (1232, 48, 2, 1), (1329, 38, 1, 48), (4256, 38, 1, 7264), (4295, 1, 1,
  7264), (4301, 1, 1, 7264), (5024, 80, 1, 38864), (5104, 6, 1, 8), (7296, 1, 1, -6222), (7297, 1,
  1, -6221), (7298, 1, 1, -6212), (7299, 2, 1, -6210), (7301, 1, 1, -6211), (7302, 1, 1, -6204),
  (7303, 1, 1, -6180), (7304, 1, 1, 35267), (7306, 1, 1, -1), (7312, 43, 1, -3008), (7357, 3, 1,
  -3008), (7680, 75, 2, 1), (7835, 1, 1, -58), (7838, 1, 1, -7615), (7840, 48, 2, 1), (7944, 8, 1,
  -8), (7960, 6, 1, -8), (7976, 8, 1, -8), (7992, 8, 1, -8), (8008, 6, 1, -8), (8025, 4, 2, -8),
  (8040, 8, 1, -8), (8072, 8, 1, -8), (8088, 8, 1, -8), (8104, 8, 1, -8), (8120, 2, 1, -8), (8122,
  2, 1, -74), (8124, 1, 1, -9), (8126, 1, 1, -7173), (8136, 4, 1, -86), (8140, 1, 1, -9), (8147,
  1, 1, -7235), (8152, 2, 1, -8), (8154, 2, 1, -100), (8163, 1, 1, -7219), (8168, 2, 1, -8),
  (8170, 2, 1, -112), (8172, 1, 1, -7), (8184, 2, 1, -128), (8186, 2, 1, -126), (8188, 1, 1, -9),
  (8486, 1, 1, -7517), (8490, 1, 1, -8383), (8491, 1, 1, -8262), (8498, 1, 1, 28), (8544, 16, 1,
  16), (8579, 1, 1, 1), (9398, 26, 1, 26), (11264, 48, 1, 48), (11360, 1, 1, 1), (11362, 1, 1,
  -10743), (11363, 1, 1, -3814), (11364, 1, 1, -10727), (11367, 3, 2, 1), (11373, 1, 1, -10780),
  (11374, 1, 1, -10749), (11375, 1, 1, -10783), (11376, 1, 1, -10782), (11378, 1, 1, 1), (11381,
  1, 1, 1), (11390, 2, 1, -10815), (11392, 50, 2, 1), (11499, 2, 2, 1), (11506, 1, 1, 1), (42560,
  23, 2, 1), (42624, 14, 2, 1), (42786, 7, 2, 1), (42802, 31, 2, 1), (42873, 2, 2, 1), (42877, 1,
  1, -35332), (42878, 5, 2, 1), (42891, 1, 1, 1), (42893, 1, 1, -42280), (42896, 2, 2, 1), (42902,
  10, 2, 1), (42922, 1, 1, -42308), (42923, 1, 1, -42319), (42924, 1, 1, -42315), (42925, 1, 1,
  -42305), (42926, 1, 1, -42308), (42928, 1, 1, -42258), (42929, 1, 1, -42282), (42930, 1, 1,
  -42261), (42931, 1, 1, 928), (42932, 8, 2, 1), (42948, 1, 1, -48), (42949, 1, 1, -42307),
  (42950, 1, 1, -35384), (42951, 2, 2, 1), (42955, 1, 1, -42343), (42957, 1, 1, -1), (42960, 1, 1,
  1), (42966, 2, 2, 1), (42971, 1, 1, -1), (42972, 1, 1, -42561), (42997, 1, 1, 1), (64262, 1, 1,
  -1), (65313, 26, 1, 32), (66560, 40, 1, 40), (66736, 36, 1, 40), (66928, 11, 1, 39), (66940, 15,
  1, 39), (66956, 7, 1, 39), (66964, 2, 1, 39), (68736, 51, 1, 64), (68976, 22, 1, -32), (71840,
  32, 1, 32), (93760, 32, 1, 32), (125184, 34, 1, 34)]

/-- Code points that differ from their representative, each with it. -/
def foldingPairs : List (Nat × Nat) :=
  foldingRuns.flatMap fun (first, count, step, distance) =>
    (List.range count).map fun i =>
      let code := first + i * step
      (code, ((code : Int) + distance).toNat)

/-- Is the code point in the set? -/
def holds (set : CharSet) (code : Nat) : Bool :=
  CharSet.search set.ranges code 0 set.ranges.size

/-- The set with every character added that differs from one of its members only by case. -/
def closeUnderCase (set : CharSet) : CharSet :=
  let touched := foldingPairs.filter fun pair => holds set pair.1 || holds set pair.2
  let folded := CharSet.ofRanges (touched.map fun pair => (pair.2, pair.2))
  let added := foldingPairs.filter fun pair => holds folded pair.2
  set.union (.ofRanges (added.flatMap fun pair => [(pair.1, pair.1), (pair.2, pair.2)]))

end PathQuery.Unicode
