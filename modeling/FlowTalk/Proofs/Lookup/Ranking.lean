import FlowTalk.Proofs.Lookup.Resolve
import FlowTalk.Proofs.Utterance.Numerals
import Mathlib.Data.Prod.Lex

/-! A text is looked up in several passes over the listing, one for each way in which a node can
answer it. They find what one pass finds that ranks the nodes: the first of those that answer in the
best way. -/
namespace FlowTalk.Lookup

/-- The node of the least rank, and of several the first; none if no node has a rank. -/
def FirstOfRank (rank : Entry → Option Nat) (nodes : Listing) : Option Entry → Prop
  | some node => ∃ i r : Nat, nodes[i]? = some node ∧ rank node = some r ∧
      ∀ (j : Nat) (other : Entry) (r' : Nat), nodes[j]? = some other → rank other = some r' →
        toLex (r, i) ≤ toLex (r', j)
  | none => ∀ node ∈ nodes, rank node = none

/-- The best way in which a node answers. -/
def bestWay (ways : List (Entry → Bool)) (node : Entry) : Option Nat :=
  ways.findIdx? fun way => way node

/-- What is found by a pass for each way until one of them finds a node. -/
def inPasses (ways : List (Entry → Bool)) (nodes : Listing) : Option Entry :=
  ways.findSome? fun way => nodes.find? way

section passes

variable {rank : Entry → Option Nat} {nodes : Listing} {node : Entry} {found found' : Option Entry}
  {way : Entry → Bool} {ways : List (Entry → Bool)}

theorem FirstOfRank.unique (h : FirstOfRank rank nodes found)
    (h' : FirstOfRank rank nodes found') : found = found' := by
  cases found with
  | none =>
    cases found' with
    | none => rfl
    | some node' =>
      obtain ⟨i, r, hi, hr, _⟩ := h'
      rw [h node' (List.mem_of_getElem? hi)] at hr
      cases hr
  | some node =>
    obtain ⟨i, r, hi, hr, hleast⟩ := h
    cases found' with
    | none =>
      rw [h' node (List.mem_of_getElem? hi)] at hr
      cases hr
    | some node' =>
      obtain ⟨j, r', hj, hr', hleast'⟩ := h'
      have hle : toLex (r, i) ≤ toLex (r', j) := hleast j node' r' hj hr'
      have hge : toLex (r', j) ≤ toLex (r, i) := hleast' i node r hi hr
      obtain ⟨_, rfl⟩ := Prod.mk.inj (toLex.injective (le_antisymm hle hge))
      exact hi.symm.trans hj

theorem bestWay_of_not (h : way node = false) :
    bestWay (way :: ways) node = (bestWay ways node).map (· + 1) := by
  simp [bestWay, List.findIdx?_cons, h]

theorem firstOfRank_of_find? (h : nodes.find? way = some node) :
    FirstOfRank (bestWay (way :: ways)) nodes (some node) := by
  obtain ⟨hway, i, hi, rfl, hbefore⟩ := List.find?_eq_some_iff_getElem.1 h
  refine ⟨i, 0, List.getElem?_eq_getElem hi, by simp [bestWay, List.findIdx?_cons, hway], ?_⟩
  intro j other r' hj hr'
  refine Prod.Lex.toLex_le_toLex'.2 ⟨Nat.zero_le r', fun hzero => ?_⟩
  obtain rfl : 0 = r' := hzero
  obtain ⟨hjlt, rfl⟩ := List.getElem?_eq_some_iff.1 hj
  have hanswers : way nodes[j] = true := by
    obtain ⟨_, hzero, _⟩ := List.findIdx?_eq_some_iff_getElem.1 hr'
    exact hzero
  by_contra hlt
  simpa [hanswers] using hbefore j (Nat.lt_of_not_le hlt)

/-- A way in which no node answers moves all ranks by one. -/
theorem FirstOfRank.cons (hnone : nodes.find? way = none)
    (h : FirstOfRank (bestWay ways) nodes found) :
    FirstOfRank (bestWay (way :: ways)) nodes found := by
  have hrank : ∀ node ∈ nodes,
      bestWay (way :: ways) node = (bestWay ways node).map (· + 1) := fun node hnode =>
    bestWay_of_not (by simpa using List.find?_eq_none.1 hnone node hnode)
  cases found with
  | none =>
    intro node hnode
    rw [hrank node hnode, h node hnode]
    rfl
  | some node =>
    obtain ⟨i, r, hi, hr, hleast⟩ := h
    refine ⟨i, r + 1, hi, by rw [hrank node (List.mem_of_getElem? hi), hr]; rfl, ?_⟩
    intro j other r' hj hr'
    rw [hrank other (List.mem_of_getElem? hj)] at hr'
    obtain ⟨r'', hr'', rfl⟩ := Option.map_eq_some_iff.1 hr'
    have hle := Prod.Lex.toLex_le_toLex'.1 (hleast j other r'' hj hr'')
    exact Prod.Lex.toLex_le_toLex'.2 ⟨by simpa using hle.1, fun he => hle.2 (by simpa using he)⟩

theorem inPasses_cons :
    inPasses (way :: ways) nodes = (nodes.find? way).or (inPasses ways nodes) := by
  rw [inPasses, List.findSome?_cons]
  cases nodes.find? way with
  | some node => rfl
  | none => rfl

theorem firstOfRank_inPasses (ways : List (Entry → Bool)) (nodes : Listing) :
    FirstOfRank (bestWay ways) nodes (inPasses ways nodes) := by
  induction ways with
  | nil => exact fun _ _ => rfl
  | cons way ways ih =>
    rw [inPasses_cons]
    cases h : nodes.find? way with
    | some node => exact firstOfRank_of_find? h
    | none => exact ih.cons h

theorem inPasses_eq_iff : inPasses ways nodes = found ↔ FirstOfRank (bestWay ways) nodes found := by
  constructor
  · rintro rfl
    exact firstOfRank_inPasses ways nodes
  · exact fun h => (firstOfRank_inPasses ways nodes).unique h

end passes

/-- The ways in which a node can answer a text, the surest first: its id is the text, its label is
the text up to case and outer white space, its label contains all keywords of the text, or one of
more than two characters. -/
def ways (t : Text) : List (Entry → Bool) :=
  [fun node => node.id == t,
    fun node => folded node.label == folded t,
    fun node => !(keywords t).isEmpty && (keywords t).all (mentions node),
    fun node => (keywords t).any fun w => decide (2 < w.length) && mentions node w]

/-- How well a node answers a text, from zero for the best to three; none if it does not. -/
def rank (t : Text) (node : Entry) : Option Nat := bestWay (ways t) node

variable {t : Text} {nodes : Listing} {node : Entry} {ordinals : Bool}

theorem rank_lt_two_iff :
    (∃ r ∈ rank t node, r < 2) ↔ node.id = t ∨ folded node.label = folded t := by
  by_cases hid : node.id = t <;> by_cases hlabel : folded node.label = folded t <;>
    simp [rank, bestWay, ways, List.findIdx?_cons, hid, hlabel]

theorem byId_eq_find? (hblank : Text.trim t ≠ []) (nodes : Listing) :
    byId t nodes = nodes.find? fun node => node.id == t := by
  simp [byId, Text.ne_nil_of_trim hblank]

theorem byLabel_eq_find? (hblank : Text.trim t ≠ []) (nodes : Listing) :
    byLabel t nodes = nodes.find? fun node => folded node.label == folded t := by
  simp [byLabel, hblank]

theorem byKeywords_eq (t : Text) (nodes : Listing) : byKeywords t nodes =
    (nodes.find? fun node => !(keywords t).isEmpty && (keywords t).all (mentions node)).or
      (nodes.find? fun node =>
        (keywords t).any fun w => decide (2 < w.length) && mentions node w) := by
  by_cases hwords : keywords t = []
  · have hnone : (nodes.find? fun _ => false) = none := List.find?_eq_none.2 (by simp)
    simp [byKeywords, hwords, hnone]
  · simp only [byKeywords, List.isEmpty_eq_false_iff.2 hwords, Bool.false_eq_true, if_false,
      Bool.not_false, Bool.true_and, List.any_filter]
    cases nodes.find? fun node => (keywords t).all (mentions node) with
    | some node => rfl
    | none => rfl

/-- The lookups that do not read numbers are passes over the listing. -/
theorem inPasses_ways (hblank : Text.trim t ≠ []) (nodes : Listing) :
    inPasses (ways t) nodes = ((byId t nodes).or (byLabel t nodes)).or (byKeywords t nodes) := by
  have hnone : inPasses [] nodes = none := rfl
  rw [byKeywords_eq, byId_eq_find? hblank, byLabel_eq_find? hblank]
  simp only [ways, inPasses_cons, hnone, Option.or_none, Option.or_assoc]

/-- A node is named by its id or its label exactly if it has one of the first two ranks. -/
theorem named_eq_none_iff (hblank : Text.trim t ≠ []) :
    (byId t nodes).or (byLabel t nodes) = none ↔
      ¬ ∃ node ∈ nodes, ∃ r ∈ rank t node, r < 2 := by
  rw [byId_eq_find? hblank, byLabel_eq_find? hblank]
  simp only [rank_lt_two_iff, Option.or_eq_none_iff, List.find?_eq_none, beq_iff_eq]
  constructor
  · rintro ⟨hid, hlabel⟩ ⟨node, hnode, h | h⟩
    · exact hid node hnode h
    · exact hlabel node hnode h
  · intro h
    exact ⟨fun node hnode hid => h ⟨node, hnode, Or.inl hid⟩,
      fun node hnode hlabel => h ⟨node, hnode, Or.inr hlabel⟩⟩

theorem resolveText_of_named (hblank : Text.trim t ≠ [])
    (h : (byId (Text.trim t) nodes).or (byLabel (Text.trim t) nodes) = some node) :
    resolveText ordinals t nodes = .ok (some node) := by
  cases hid : byId (Text.trim t) nodes with
  | some named =>
    obtain rfl : named = node := by simpa [hid] using h
    simp [resolveText, hblank, hid]
  | none =>
    have hlabel : byLabel (Text.trim t) nodes = some node := by simpa [hid] using h
    simp [resolveText, hblank, hid, hlabel]

/-- A number is read only where no id and no label is the text, and then it decides. -/
theorem resolveText_of_number (hblank : Text.trim t ≠ [])
    (h : (byId (Text.trim t) nodes).or (byLabel (Text.trim t) nodes) = none) {n : Nat}
    (hnumber : ordinal? t = .ok (some n)) : resolveText true t nodes = .ok (byOrdinal n nodes) := by
  obtain ⟨hid, hlabel⟩ := Option.or_eq_none_iff.1 h
  have hread : ordinal? (Text.trim t) = .ok (some n) := (ordinal?_trim t).trans hnumber
  simp [resolveText, hblank, hid, hlabel, hread, Except.map]

theorem resolveText_of_words (hblank : Text.trim t ≠ [])
    (h : (byId (Text.trim t) nodes).or (byLabel (Text.trim t) nodes) = none)
    (hnumber : ordinals = true → ordinal? t = .ok none) :
    resolveText ordinals t nodes = .ok (byKeywords (Text.trim t) nodes) := by
  obtain ⟨hid, hlabel⟩ := Option.or_eq_none_iff.1 h
  cases ordinals with
  | false => simp [resolveText, hblank, hid, hlabel]
  | true =>
    have hread : ordinal? (Text.trim t) = .ok none := (ordinal?_trim t).trans (hnumber rfl)
    simp [resolveText, hblank, hid, hlabel, hread, Except.map]

theorem byOrdinal_eq (n : Int) (nodes : Listing) :
    byOrdinal n nodes =
      if 1 ≤ n ∧ n ≤ nodes.length then nodes[(n - 1).toNat]? else none := by
  by_cases hn : n < 1
  · rw [byOrdinal, if_pos hn, if_neg (by omega)]
  · rw [byOrdinal, if_neg hn]
    by_cases hlength : n ≤ nodes.length
    · rw [if_pos ⟨by omega, hlength⟩]
    · rw [if_neg (by omega), List.getElem?_eq_none (by omega)]

/-- A text that is not blank stands for the node of the least rank, and of several for the first,
unless it is a node number that is no id and no label. Then it stands for the place with that
number, whatever the labels there are. A mention by number always stands for a place. Nothing but a
number of more than `maxDigits` digits is in the way of this. -/
theorem resolveText_by_rank {t : Text} (hblank : Text.trim t ≠ []) (nodes : Listing)
    (ordinals : Bool) :
    (∀ n : Nat, ordinals = true → ordinal? t = .ok (some n) →
        (¬ ∃ node ∈ nodes, ∃ r ∈ rank (Text.trim t) node, r < 2) →
        resolveText ordinals t nodes =
          .ok (if 1 ≤ n ∧ n ≤ nodes.length then nodes[n - 1]? else none)) ∧
      (ordinals = false ∨ ordinal? t = .ok none ∨
          (∃ node ∈ nodes, ∃ r ∈ rank (Text.trim t) node, r < 2) →
        ∃ found, resolveText ordinals t nodes = .ok found ∧
          ∀ answer, FirstOfRank (rank (Text.trim t)) nodes answer ↔ answer = found) ∧
      ((∃ number, ordinal? t = .ok number) ↔ ∀ ds ∈ ordinalDigits t, ds.length ≤ maxDigits) ∧
      ∀ (k : Int) (said : Text), resolve (.ordinal k said) nodes =
        .ok (if 1 ≤ k ∧ k ≤ nodes.length then nodes[(k - 1).toNat]? else none) := by
  have htrim : Text.trim (Text.trim t) ≠ [] := by rwa [Text.trim_trim]
  refine ⟨fun n hordinals hnumber hunnamed => ?_, fun hcase => ?_, reads_ordinal? t,
    fun k said => congrArg Except.ok (byOrdinal_eq k nodes)⟩
  · subst hordinals
    rw [resolveText_of_number hblank ((named_eq_none_iff htrim).2 hunnamed) hnumber, byOrdinal_eq]
    have hplace : ((n : Int) - 1).toNat = n - 1 := by omega
    rw [hplace]
    norm_cast
  · have hpasses : ∀ answer, FirstOfRank (rank (Text.trim t)) nodes answer ↔
        answer = inPasses (ways (Text.trim t)) nodes := fun answer =>
      inPasses_eq_iff.symm.trans eq_comm
    rw [inPasses_ways htrim] at hpasses
    cases hnamed : (byId (Text.trim t) nodes).or (byLabel (Text.trim t) nodes) with
    | some node =>
      rw [hnamed] at hpasses
      exact ⟨some node, resolveText_of_named hblank hnamed, hpasses⟩
    | none =>
      rw [hnamed] at hpasses
      have hnumber : ordinals = true → ordinal? t = .ok none := by
        rintro rfl
        rcases hcase with h | h | h
        · cases h
        · exact h
        · exact absurd h ((named_eq_none_iff htrim).1 hnamed)
      exact ⟨_, resolveText_of_words hblank hnamed hnumber, hpasses⟩

/-- Nodes with one id twice, a label within a label, and a number as a label. -/
def crowd : Listing :=
  .ofPairs [("a".toList, "Node 1 menu".toList), ("b".toList, "End Call Now".toList),
    ("a".toList, " end call ".toList), ("c".toList, "2".toList)]

theorem resolveText_by_rank_crowd :
    Text.trim " End CALL ".toList ≠ [] ∧
      FirstOfRank (rank "End CALL".toList) crowd crowd[2]? ∧
      resolveText true "node 9".toList crowd = .ok none ∧
      resolve (.ordinal 2 "2".toList) crowd = .ok crowd[1]? := by
  have hblank : Text.trim " End CALL ".toList ≠ [] := by decide
  obtain ⟨_, hranked, _, hnumber⟩ := resolveText_by_rank hblank crowd true
  obtain ⟨found, hfound, hanswer⟩ := hranked (Or.inr (Or.inl (by decide +kernel)))
  have hthird : resolveText true " End CALL ".toList crowd = .ok crowd[2]? := by decide +kernel
  obtain ⟨hplace, _⟩ := resolveText_by_rank (t := "node 9".toList) (by decide) crowd true
  refine ⟨hblank, (hanswer _).2 (Except.ok.inj (hthird.symm.trans hfound)), ?_, hnumber 2 _⟩
  exact hplace 9 rfl (by decide +kernel) (by decide +kernel)

end FlowTalk.Lookup
