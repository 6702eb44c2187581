import FlowTalk.Proofs.Interpret.Build
import FlowTalk.Proofs.Lookup.Ranking
import FlowTalk.Proofs.Number.Digits
import FlowTalk.Proofs.Utterance.ByNumber

/-! Requests about nodes by their numbers. They act by position, whatever the ids and labels. -/
namespace FlowTalk
open Pattern

variable {t : Text} {v : String} {group : List String} {nodes : Listing} {a b : Nat}

namespace Utterance
open Vocabulary

/-- The ways to ask for the deletion of a node by its number. -/
def deletionPhrasings (a : Nat) : List Text :=
  ["delete", "remove", "get rid of"].map fun verb => verb.toList ++ ' ' :: nodeText a

/-- The request for an edge with a verb that can also be about nodes. -/
def addEdge (a b : Nat) : Text := "add an edge from".toList ++ ' ' :: pairText a "to" b

def breakConnection (a b : Nat) : Text :=
  "break the connection between".toList ++ ' ' :: pairText a "and" b

def removeConnection (a b : Nat) : Text :=
  "remove the connection between".toList ++ ' ' :: pairText a "and" b

/-- The ways to ask for an edge between two nodes by their numbers. -/
def connectionPhrasings (a b : Nat) : List Text :=
  ["connect".toList ++ ' ' :: pairText a "to" b, "link".toList ++ ' ' :: pairText a "and" b,
    addEdge a b]

/-- The ways to ask that the edge between two nodes be taken away. -/
def disconnectionPhrasings (a b : Nat) : List Text :=
  ["disconnect".toList ++ ' ' :: pairText a "from" b, "unlink".toList ++ ' ' :: pairText a "and" b,
    breakConnection a b, removeConnection a b]

theorem understand_deletion (hv : v ∈ ["delete", "remove", "get rid of"])
    (ha : (Text.ofNat a).length ≤ maxDigits) (nodes : Listing) :
    understand (v.toList ++ ' ' :: nodeText a) nodes =
      .ok (.delete (.ofOrdinal a (nodeText a))) := by
  have hne := ofNat_ne_nil a
  have hds := mem_decimals_of_mem_ofNat a
  have hspoken : Spoken (v.toList ++ ' ' :: nodeText a) := spoken_deletion hv hne hds
  have haccepts : asksToDelete (head (v.toList ++ ' ' :: nodeText a)) = true :=
    asksToDelete_deletion hv hne hds
  have hdetector : ⟨.delete, asksToDelete, draftDelete⟩ ∈ detectors := by simp [detectors]
  obtain ⟨m, hm, hbody, hpiece⟩ := nodeNumber_deletion hv hne hds
  have hm : nodeNumber.search (v.toList ++ ' ' :: nodeText a) = some m := hm
  rw [understand_of_accepts hdetector hspoken.trim_eq haccepts, draftDelete,
    givenLabel?_unmarked hspoken.unmarked, hm]
  simp only [hpiece, Numeral.read_ofNat ha, hbody]
  rfl

/-- The ends of an edge as they are read from two node numbers. -/
theorem ends_pairText (ha : (Text.ofNat a).length ≤ maxDigits)
    (hb : (Text.ofNat b).length ≤ maxDigits) {word : String} (hword : word ∈ ["to", "and", "from"]) :
    ends (pairText a word b) =
      .ok (some (.ofOrdinal a (nodeText a), .ofOrdinal b (nodeText b))) := by
  have hends : ends (pairText a word b) = _ := ends_numberThen (ofNat_ne_nil a)
    (mem_decimals_of_mem_ofNat a) (ofNat_ne_nil b) (mem_decimals_of_mem_ofNat b) hword
  rw [hends, Numeral.read_ofNat ha, Numeral.read_ofNat hb]
  rfl

theorem leadingBetween_pairText (word : String) :
    leadingBetween.erase (pairText a word b) = pairText a word b :=
  erase_eq_self ((atStart_leadingBetween.search_eq_matchFront _).trans rfl)

/-- A word before the two node numbers is cut off. -/
theorem leadingBetween_front {front : String} (hfront : front ∈ ["between", "from"]) (word : String) :
    leadingBetween.erase (front.toList ++ ' ' :: pairText a word b) = pairText a word b := by
  have hsearch : ∃ body, body ≠ [] ∧ leadingBetween.search (front.toList ++ ' ' :: pairText a word b) =
      some ⟨[], body, pairText a word b, []⟩ := by
    simp only [List.mem_cons, List.not_mem_nil, or_false] at hfront
    rcases hfront with rfl | rfl
    · exact ⟨"between ".toList, by simp, (atStart_leadingBetween.search_eq_matchFront _).trans rfl⟩
    · exact ⟨"from ".toList, by simp, (atStart_leadingBetween.search_eq_matchFront _).trans rfl⟩
  obtain ⟨body, hbody, hsearch⟩ := hsearch
  exact atStart_leadingBetween.erase_eq_tail hsearch hbody

theorem edgeBody_pairText (hlead : (leadsWith group).occursIn (head t) = true) {word : String}
    (hafter : after group t = pairText a word b) : edgeBody group t = pairText a word b := by
  have hedge : leadingEdgeWord.search (pairText a word b) = none :=
    (atStart_leadingEdgeWord.search_eq_matchFront _).trans rfl
  rw [edgeBody, if_pos hlead, hafter, erase_eq_self hedge, leadingBetween_pairText]

theorem edgeBody_break (hlead : (leadsWith group).occursIn (head t) = true) {word : String}
    (hafter : after group t = "the connection between".toList ++ ' ' :: pairText a word b) :
    edgeBody group t = pairText a word b := by
  have hsearch : leadingEdgeWord.search
      ("the connection between".toList ++ ' ' :: pairText a word b) =
        some ⟨[], "the connection ".toList, "between".toList ++ ' ' :: pairText a word b, []⟩ :=
    (atStart_leadingEdgeWord.search_eq_matchFront _).trans rfl
  rw [edgeBody, if_pos hlead, hafter,
    atStart_leadingEdgeWord.erase_eq_tail hsearch (List.cons_ne_nil _ _),
    leadingBetween_front (by decide)]

/-- Without a verb for edges the ends stand behind the edge word. -/
theorem edgeBody_of_edgeWord {m : Match} (hlead : (leadsWith group).occursIn (head t) = false)
    (hm : edgeWord.search (head t) = some m) : edgeBody group t =
      leadingBetween.erase (Text.trim (t.drop (m.head.length + m.body.length))) := by
  rw [edgeBody, if_neg (by simp [hlead]), hm]

section edges

variable (ha : (Text.ofNat a).length ≤ maxDigits) (hb : (Text.ofNat b).length ≤ maxDigits)
  (ht : Spoken t) (hverb : FirstWord verbs v t) {word : String}
  (hword : word ∈ ["to", "and", "from"])
include ha hb ht hverb hword

theorem understand_connection (hasks : Asks v t .connect)
    (hbody : edgeBody connectVerbs t = pairText a word b) (nodes : Listing) :
    understand t nodes =
      .ok (.connect (.ofOrdinal a (nodeText a)) (.ofOrdinal b (nodeText b))) := by
  have hdetector : ⟨.connect, asksToConnect, draftConnect⟩ ∈ detectors := by simp [detectors]
  rw [← ht.head_eq] at hverb hasks
  rw [understand_of_asks hdetector ht.trim_eq hverb hasks, draftConnect_eq_connect_iff, hbody]
  exact ends_pairText ha hb hword

theorem understand_disconnection (hasks : Asks v t .disconnect)
    (hbody : edgeBody disconnectVerbs t = pairText a word b) (nodes : Listing) :
    understand t nodes =
      .ok (.disconnect (.ofOrdinal a (nodeText a)) (.ofOrdinal b (nodeText b))) := by
  have hdetector : ⟨.disconnect, asksToDisconnect, draftDisconnect⟩ ∈ detectors := by
    simp [detectors]
  rw [← ht.head_eq] at hverb hasks
  rw [understand_of_asks hdetector ht.trim_eq hverb hasks, draftDisconnect_eq_disconnect_iff, hbody]
  exact ends_pairText ha hb hword

end edges

section verb

variable (hfront : Spoken v.toList) {word : String} (hword : word ∈ ["to", "and", "from"])
include hfront hword

/-- Behind a verb for edges stand their ends. -/
theorem edgeBody_verb (hgroup : ∀ v ∈ group, v ∈ verbs) (hv : v ∈ group)
    (hmatch : (wholeWord group).matchAfter none (v.toList ++ ' ' :: pairText a word b) =
      some ⟨[], v.toList, ' ' :: pairText a word b, []⟩) :
    edgeBody group (v.toList ++ ' ' :: pairText a word b) = pairText a word b := by
  have hlead : (leadsWith group).occursIn (head (v.toList ++ ' ' :: pairText a word b)) = true := by
    rw [(hfront.append (spoken_pairText hword)).head_eq]
    exact (leadsWith_occursIn_iff_mem hgroup (firstWord_front (hgroup v hv) _)).2 hv
  refine edgeBody_pairText hlead ((after_of_match hmatch).trans ?_)
  exact (Text.trimWhere_cons (by decide)).trans (spoken_pairText hword).trim_eq

variable (ha : (Text.ofNat a).length ≤ maxDigits) (hb : (Text.ofNat b).length ≤ maxDigits)
include ha hb

theorem understand_connectVerb (hv : v ∈ connectVerbs)
    (hmatch : (wholeWord connectVerbs).matchAfter none (v.toList ++ ' ' :: pairText a word b) =
      some ⟨[], v.toList, ' ' :: pairText a word b, []⟩) (nodes : Listing) :
    understand (v.toList ++ ' ' :: pairText a word b) nodes =
      .ok (.connect (.ofOrdinal a (nodeText a)) (.ofOrdinal b (nodeText b))) := by
  have hgroup : ∀ v ∈ connectVerbs, v ∈ verbs := by decide
  exact understand_connection ha hb (hfront.append (spoken_pairText hword))
    (firstWord_front (hgroup v hv) _) hword (Or.inl hv)
    (edgeBody_verb hfront hword hgroup hv hmatch) nodes

theorem understand_disconnectVerb (hv : v ∈ disconnectVerbs)
    (hmatch : (wholeWord disconnectVerbs).matchAfter none (v.toList ++ ' ' :: pairText a word b) =
      some ⟨[], v.toList, ' ' :: pairText a word b, []⟩) (nodes : Listing) :
    understand (v.toList ++ ' ' :: pairText a word b) nodes =
      .ok (.disconnect (.ofOrdinal a (nodeText a)) (.ofOrdinal b (nodeText b))) := by
  have hgroup : ∀ v ∈ disconnectVerbs, v ∈ verbs := by decide
  exact understand_disconnection ha hb (hfront.append (spoken_pairText hword))
    (firstWord_front (hgroup v hv) _) hword (Or.inl hv)
    (edgeBody_verb hfront hword hgroup hv hmatch) nodes

end verb

theorem spoken_addEdge (a b : Nat) : Spoken (addEdge a b) := by
  have hfront : Spoken "add an edge from".toList := by decide
  exact hfront.append (spoken_pairText (by decide))

theorem spoken_breakConnection (a b : Nat) : Spoken (breakConnection a b) := by
  have hfront : Spoken "break the connection between".toList := by decide
  exact hfront.append (spoken_pairText (by decide))

theorem spoken_removeConnection (a b : Nat) : Spoken (removeConnection a b) := by
  have hfront : Spoken "remove the connection between".toList := by decide
  exact hfront.append (spoken_pairText (by decide))

theorem edgeWord_addEdge (a b : Nat) : edgeWord.search (addEdge a b) =
    some ⟨"add an ".toList, "edge".toList, " from ".toList ++ pairText a "to" b, []⟩ := rfl

theorem edgeWord_removeConnection (a b : Nat) : edgeWord.search (removeConnection a b) =
    some ⟨"remove the ".toList, "connection".toList,
      " between ".toList ++ pairText a "and" b, []⟩ := rfl

theorem hasWord_addEdge (a b : Nat) : HasWord edgeWords (addEdge a b) := by
  have hfront : HasWord edgeWords "add an edge from".toList := by decide
  exact hfront.append_left (by decide)

theorem hasWord_removeConnection (a b : Nat) : HasWord edgeWords (removeConnection a b) := by
  have hfront : HasWord edgeWords "remove the connection between".toList := by decide
  exact hfront.append_left (by decide)

theorem firstWord_addEdge (a b : Nat) : FirstWord verbs "add" (addEdge a b) :=
  firstWord_front (v := "add") (by decide) ("an edge from".toList ++ ' ' :: pairText a "to" b)

theorem firstWord_breakConnection (a b : Nat) : FirstWord verbs "break" (breakConnection a b) :=
  firstWord_front (v := "break") (by decide)
    ("the connection between".toList ++ ' ' :: pairText a "and" b)

theorem firstWord_removeConnection (a b : Nat) : FirstWord verbs "remove" (removeConnection a b) :=
  firstWord_front (v := "remove") (by decide)
    ("the connection between".toList ++ ' ' :: pairText a "and" b)

/-- The ends stand behind the edge word and the word after it. -/
theorem edgeBody_behindEdgeWord {m : Match} (hv : v ∉ group) (hgroup : ∀ v ∈ group, v ∈ verbs)
    (ht : Spoken t) (hverb : FirstWord verbs v t) (hm : edgeWord.search t = some m)
    (front : String) {word : String} (hfront : front ∈ ["between", "from"])
    (hword : word ∈ ["to", "and", "from"])
    (hback : t.drop (m.head.length + m.body.length) =
      ' ' :: (front.toList ++ ' ' :: pairText a word b)) :
    edgeBody group t = pairText a word b := by
  have hall : ∀ w ∈ ["between", "from"], Spoken w.toList := by decide
  have hspoken := (hall front hfront).append (spoken_pairText (a := a) (b := b) hword)
  have hlead : (leadsWith group).occursIn (head t) = false := by
    rw [ht.head_eq, ← Bool.not_eq_true, leadsWith_occursIn_iff_mem hgroup hverb]
    exact hv
  rw [← ht.head_eq] at hm
  rw [edgeBody_of_edgeWord hlead hm, hback, hspoken.trim_space,
    leadingBetween_front hfront]

theorem edgeBody_addEdge (a b : Nat) : edgeBody connectVerbs (addEdge a b) = pairText a "to" b :=
  edgeBody_behindEdgeWord (by decide) (by decide) (spoken_addEdge a b) (firstWord_addEdge a b)
    (edgeWord_addEdge a b) "from" (by decide) (by decide) rfl

theorem edgeBody_removeConnection (a b : Nat) :
    edgeBody disconnectVerbs (removeConnection a b) = pairText a "and" b :=
  edgeBody_behindEdgeWord (by decide) (by decide) (spoken_removeConnection a b)
    (firstWord_removeConnection a b) (edgeWord_removeConnection a b) "between" (by decide)
    (by decide) rfl

/-- A verb for edges may have an edge word behind it. -/
theorem edgeBody_breakConnection (a b : Nat) : edgeBody disconnectVerbs (breakConnection a b) =
    pairText a "and" b := by
  have hback : Spoken "the connection between".toList := by decide
  have hmatch : (wholeWord disconnectVerbs).matchAfter none (breakConnection a b) =
      some ⟨[], "break".toList, ' ' :: ("the connection between".toList ++ ' ' :: pairText a "and" b),
        []⟩ := rfl
  have hlead : (leadsWith disconnectVerbs).occursIn (head (breakConnection a b)) = true := by
    rw [(spoken_breakConnection a b).head_eq]
    exact (leadsWith_occursIn_iff_mem (by decide) (firstWord_breakConnection a b)).2 (by decide)
  have hrest : Spoken ("the connection between".toList ++ ' ' :: pairText a "and" b) :=
    hback.append (spoken_pairText (by decide))
  have hafter := (after_of_match hmatch).trans hrest.trim_space
  exact edgeBody_break hlead hafter

section read

variable (ha : (Text.ofNat a).length ≤ maxDigits) (hb : (Text.ofNat b).length ≤ maxDigits)
include ha hb

theorem understand_of_connectionPhrasings (ht : t ∈ connectionPhrasings a b) (nodes : Listing) :
    understand t nodes =
      .ok (.connect (.ofOrdinal a (nodeText a)) (.ofOrdinal b (nodeText b))) := by
  simp only [connectionPhrasings, List.mem_cons, List.not_mem_nil, or_false] at ht
  rcases ht with rfl | rfl | rfl
  · exact understand_connectVerb (by decide) (by decide) ha hb (by decide) rfl nodes
  · exact understand_connectVerb (by decide) (by decide) ha hb (by decide) rfl nodes
  · have hasks : Asks "add" (addEdge a b) .connect := Or.inr ⟨by decide, hasWord_addEdge a b⟩
    exact understand_connection ha hb (spoken_addEdge a b) (firstWord_addEdge a b) (by decide) hasks
      (edgeBody_addEdge a b) nodes

theorem understand_of_disconnectionPhrasings (ht : t ∈ disconnectionPhrasings a b)
    (nodes : Listing) :
    understand t nodes =
      .ok (.disconnect (.ofOrdinal a (nodeText a)) (.ofOrdinal b (nodeText b))) := by
  simp only [disconnectionPhrasings, List.mem_cons, List.not_mem_nil, or_false] at ht
  rcases ht with rfl | rfl | rfl | rfl
  · exact understand_disconnectVerb (by decide) (by decide) ha hb (by decide) rfl nodes
  · exact understand_disconnectVerb (by decide) (by decide) ha hb (by decide) rfl nodes
  · exact understand_disconnection ha hb (spoken_breakConnection a b)
      (firstWord_breakConnection a b) (by decide) (Or.inl (by decide))
      (edgeBody_breakConnection a b) nodes
  · have hasks : Asks "remove" (removeConnection a b) .disconnect :=
      Or.inr ⟨by decide, hasWord_removeConnection a b⟩
    exact understand_disconnection ha hb (spoken_removeConnection a b)
      (firstWord_removeConnection a b) (by decide) hasks (edgeBody_removeConnection a b) nodes

end read

end Utterance

/-- The node at a place, counted from one. -/
def Listing.atPlace? (nodes : Listing) (n : Nat) : Option Entry :=
  if 1 ≤ n ∧ n ≤ nodes.length then nodes[n - 1]? else none

theorem Lookup.byOrdinal_natCast (n : Nat) (nodes : Listing) :
    byOrdinal n nodes = nodes.atPlace? n := by
  rw [byOrdinal_eq, Listing.atPlace?]
  have hiff : (1 ≤ (n : Int) ∧ (n : Int) ≤ nodes.length) ↔ 1 ≤ n ∧ n ≤ nodes.length := by omega
  have hplace : ((n : Int) - 1).toNat = n - 1 := by omega
  simp only [hiff, hplace]

namespace Utterance

/-- The command about the node at a place, or the report that there is none. -/
def deletionAt (nodes : Listing) (a : Nat) : Command :=
  match nodes.atPlace? a with
  | some e => .delete e.id
  | none => .unknown (nodes.notFoundMessage (nodeText a))

/-- The command about the nodes at two places, or the report that there are not both of them. -/
def edgeAt (command : Text → Text → Command) (nodes : Listing) (a b : Nat) : Command :=
  match nodes.atPlace? a, nodes.atPlace? b with
  | some e, some e' => command e.id e'.id
  | _, _ => .unknown edgeNotFoundMessage

theorem resolve_number (n : Nat) (nodes : Listing) :
    Lookup.resolve (.ofOrdinal n (nodeText n)) nodes = .ok (nodes.atPlace? n) :=
  congrArg Except.ok (Lookup.byOrdinal_natCast n nodes)

theorem withNode_number (n : Nat) (nodes : Listing) (command : Text → Command) :
    withNode (.ofOrdinal n (nodeText n)) nodes command = .ok (match nodes.atPlace? n with
      | some e => command e.id
      | none => .unknown (nodes.notFoundMessage (nodeText n))) := by
  rw [withNode, resolve_number]
  rfl

theorem withNode_atPlace {n : Nat} {e : Entry} (he : nodes.atPlace? n = some e)
    (command : Text → Command) :
    withNode (.ofOrdinal n (nodeText n)) nodes command = .ok (command e.id) := by
  rw [withNode_number, he]

theorem withEnds_number (a b : Nat) (nodes : Listing) (command : Text → Text → Command) :
    withEnds (some (.ofOrdinal a (nodeText a))) (some (.ofOrdinal b (nodeText b))) nodes command =
      .ok (edgeAt command nodes a b) := by
  rw [withEnds, resolve_number, resolve_number, edgeAt]
  cases nodes.atPlace? a with
  | none => rfl
  | some e =>
    cases nodes.atPlace? b with
    | none => rfl
    | some e' => rfl

end Utterance

open Utterance

/-- Every way to ask for a command by node numbers means the command about the nodes at these
places, or the report that they are not there. Ids and labels make no difference to it. -/
theorem interpret_byPosition {a b : Nat} (ha : (Text.ofNat a).length ≤ maxDigits)
    (hb : (Text.ofNat b).length ≤ maxDigits) (nodes : Listing) :
    (∀ t ∈ deletionPhrasings a, interpret t nodes = .ok (deletionAt nodes a)) ∧
    (∀ t ∈ connectionPhrasings a b, interpret t nodes = .ok (edgeAt .connect nodes a b)) ∧
    (∀ t ∈ disconnectionPhrasings a b, interpret t nodes = .ok (edgeAt .disconnect nodes a b)) := by
  refine ⟨fun t ht => ?_, fun t ht => ?_, fun t ht => ?_⟩
  · obtain ⟨v, hv, rfl⟩ := List.mem_map.1 ht
    rw [interpret, understand_deletion hv ha]
    exact withNode_number a nodes .delete
  · rw [interpret, understand_of_connectionPhrasings ha hb ht]
    exact withEnds_number a b nodes .connect
  · rw [interpret, understand_of_disconnectionPhrasings ha hb ht]
    exact withEnds_number a b nodes .disconnect

/-- The node at each place has the number of the other one in its id and its label. -/
def swapped : Listing :=
  .ofPairs [("2".toList, "node 2".toList), ("1".toList, "node 1".toList)]

theorem interpret_byPosition_swapped :
    (Text.ofNat 1).length ≤ maxDigits ∧ (Text.ofNat 2).length ≤ maxDigits ∧
      interpret "get rid of node 1".toList swapped = .ok (.delete "2".toList) ∧
      interpret "add an edge from node 1 to node 2".toList swapped =
        .ok (.connect "2".toList "1".toList) ∧
      interpret "break the connection between node 1 and node 2".toList swapped =
        .ok (.disconnect "2".toList "1".toList) := by
  obtain ⟨hdelete, hconnect, hdisconnect⟩ := interpret_byPosition (a := 1) (b := 2)
    (by decide) (by decide) swapped
  exact ⟨by decide, by decide, hdelete _ (by decide), hconnect _ (by decide),
    hdisconnect _ (by decide)⟩

end FlowTalk
