import FlowTalk.Proofs.Interpret.ByPosition

/-! New labels behind "to say". -/
namespace FlowTalk
open Pattern

variable {l t : Text} {n : Nat} {v : String} {e : Entry} {nodes : Listing}

namespace Utterance
open Vocabulary

/-- The request for a new label of a node by its number. -/
def relabel (n : Nat) (l : Text) : Text :=
  "Update node ".toList ++ (Text.ofNat n ++ (" to say ".toList ++ l))

/-- What the request says before the label, in lower case. -/
def relabelFront (n : Nat) : Text :=
  "update".toList ++ ' ' :: (nodeText n ++ ' ' :: "to say".toList)

theorem relabel_eq (n : Nat) (l : Text) :
    relabel n l = "Update".toList ++ ' ' :: numberThen (Text.ofNat n) "to say".toList l := by
  rw [numberThen, List.append_assoc]
  rfl

theorem relabelFront_eq (n : Nat) :
    relabelFront n = "update".toList ++ ' ' :: (nodeText n ++ ' ' :: "to say".toList) := rfl

theorem spoken_relabelFront (n : Nat) : Spoken (relabelFront n) := by
  have hverb : Spoken "update".toList := by decide
  have hsay : Spoken "to say".toList := by decide
  exact hverb.append ((spoken_nodeText n).append hsay)

theorem not_edge_relabelFront (n : Nat) : ¬ HasWord edgeWords (relabelFront n) := by
  have hverb : ¬ HasWord edgeWords "update".toList := by decide
  have hsay : ¬ HasWord edgeWords "to say".toList := by decide
  have hnode := not_edge_node (mem_decimals_of_mem_ofNat n)
  intro h
  rcases (hasWord_append_cons_iff (by decide) (by decide)).1 h with h | h
  · exact hverb h
  · exact ((hasWord_append_cons_iff (by decide) (by decide)).1 h).elim hnode hsay

theorem head_relabel (n : Nat) (l : Text) :
    head (relabel n l) = Text.trim (relabelFront n ++ ' ' :: lower (beforeLabel l)) := by
  have hverb : Unmarked "Update".toList := by decide
  have hlower : lower "Update".toList = "update".toList := by decide
  have hsay : Spoken "to say".toList := by decide
  have hnode := spoken_nodeText n
  have hsplit : numberThen (Text.ofNat n) "to say".toList l =
      nodeText n ++ ' ' :: ("to say".toList ++ ' ' :: l) := rfl
  rw [head_eq, relabel_eq, hsplit, beforeLabel_append hverb (by decide) (by decide),
    beforeLabel_append hnode.unmarked (by decide) (by decide),
    beforeLabel_append hsay.unmarked (by decide) (by decide), lower_append_cons (by decide), hlower,
    lower_append_cons (by decide), lower_eq_self hnode.keeps, lower_append_cons (by decide),
    lower_eq_self hsay.keeps, relabelFront_eq]
  simp only [List.append_assoc, List.cons_append]

theorem firstWord_relabel (n : Nat) (l : Text) : FirstWord verbs "update" (head (relabel n l)) := by
  have hfront := spoken_relabelFront n
  have htrim := Text.trim_around hfront.ne (fun c hc => by simpa [Option.mem_def.1 hc] using hfront.first)
    (fun c hc => by simpa [Option.mem_def.1 hc] using hfront.last) [] (' ' :: lower (beforeLabel l))
  rw [List.nil_append] at htrim
  rw [head_relabel, htrim, relabelFront_eq, List.append_assoc]
  exact firstWord_front (v := "update") (by decide) (nodeText n ++ ' ' :: "to say".toList ++ _)

/-- An edge word of the label counts unless a naming word stands before it. -/
theorem hasEdgeWord_relabel_iff (n : Nat) (l : Text) :
    HasWord edgeWords (head (relabel n l)) ↔ HasWord edgeWords (head l) := by
  rw [head_relabel, head_eq, hasWord_trim_iff (by decide), hasWord_trim_iff (by decide),
    hasWord_append_cons_iff (by decide) (by decide), or_iff_right (not_edge_relabelFront n)]

/-- A verb for updates asks for nothing in a text with edge words. -/
theorem detect_eq_none_of_edge (hverb : FirstWord verbs v t) (hv : v ∈ updateVerbs)
    (hedge : HasWord edgeWords t) : detect t = none := by
  have hall : ∀ v ∈ updateVerbs, v ∉ addVerbs ∧ v ∉ deleteVerbs ∧ v ∉ connectVerbs ∧
      v ∉ disconnectVerbs ∧ v ∉ explainVerbs := by decide
  obtain ⟨hadd, hdelete, hconnect, hdisconnect, hexplain⟩ := hall v hv
  refine List.find?_eq_none.2 fun d hd haccepts => ?_
  have hasks := (accepts_iff_asks hverb hd).1 haccepts
  simp only [detectors, List.mem_cons, List.not_mem_nil, or_false] at hd
  rcases hd with rfl | rfl | rfl | rfl | rfl | rfl
  · exact hadd hasks.1
  · exact hdelete hasks.1
  · exact hasks.2 hedge
  · exact hasks.elim hconnect fun h => hadd h.1
  · exact hasks.elim hdisconnect fun h => hdelete h.1
  · exact hexplain hasks

section label

variable (hl : UnquotedLabel l)
include hl

theorem trim_relabel (n : Nat) : Text.trim (relabel n l) = relabel n l := by
  rw [relabel_eq]
  refine Text.trim_append_cons_eq_self (by simp) (numberThen_ne_nil _ _ _) ?_ ?_ ' '
  · rintro c ⟨⟩
    decide
  · rw [getLast?_numberThen hl.ne]
    exact hl.ends.2

theorem after_relabel (n : Nat) :
    after updateVerbs (relabel n l) = numberThen (Text.ofNat n) "to say".toList l := by
  have hmatch : (wholeWord updateVerbs).matchAfter none (relabel n l) =
      some ⟨[], "Update".toList, ' ' :: numberThen (Text.ofNat n) "to say".toList l, []⟩ := by
    rw [relabel_eq]
    rfl
  exact (after_of_match hmatch).trans
    ((Text.trimWhere_cons (by decide)).trans (trim_numberThen hl.ne hl.ends.2))

/-- Without edge words before its naming words the label is taken as it stands. -/
theorem interpret_relabel_of_not_edge (hedge : ¬ HasWord edgeWords (head l)) (n : Nat)
    (nodes : Listing) :
    interpret (relabel n l) nodes = (Numeral.read (Text.ofNat n)).bind fun m =>
      withNode (.ofOrdinal m (nodeText n)) nodes fun id => .update id l := by
  have hdetector : ⟨.update, asksToUpdate, draftUpdate⟩ ∈ detectors := by simp [detectors]
  have hasks : Asks "update" (head (relabel n l)) .update :=
    ⟨by decide, mt (hasEdgeWord_relabel_iff n l).1 hedge⟩
  have hslots := updateSlots_numberThen (ofNat_ne_nil n) (mem_decimals_of_mem_ofNat n) hl.ne hl.line
    hl.ends.1
  rw [interpret, understand_of_asks hdetector (trim_relabel hl n) (firstWord_relabel n l) hasks,
    draftUpdate, after_relabel hl, hslots, hl.clean]
  cases Numeral.read (Text.ofNat n) with
  | error e => rfl
  | ok m =>
    have hempty : l.isEmpty = false := by simpa using hl.ne
    have hbuild : (Draft.update (.ofOrdinal m (nodeText n)) l).build nodes =
        withNode (.ofOrdinal m (nodeText n)) nodes fun id => .update id l := by
      simp [Draft.build, Draft.update, Draft.trimmedLabel, hl.trim_eq, hl.ne]
    refine Eq.trans ?_ hbuild
    simp only [Except.map, hempty]
    rfl

theorem interpret_relabel_of_edge (hedge : HasWord edgeWords (head l)) (n : Nat)
    (nodes : Listing) : interpret (relabel n l) nodes = .ok (.unknown Usage.anything) := by
  have hdetect := detect_eq_none_of_edge (firstWord_relabel n l) (by decide)
    ((hasEdgeWord_relabel_iff n l).2 hedge)
  have hunderstand : understand (relabel n l) nodes = .ok (.unknown Usage.anything) := by
    rw [understand, trim_relabel hl]
    simp only [hdetect]
  exact bind_eq_ok.2 ⟨_, hunderstand, Draft.build_unknown usage_ne_nil.2 nodes⟩

end label

end Utterance

open Utterance

/-- The new label of the node at a place is taken as it stands unless it has an edge word before its
naming words. With one, the request is not understood, since the words before a label count as
words of the request and only naming words and quotes begin a label. -/
theorem interpret_newLabel (hl : UnquotedLabel l) (he : nodes.atPlace? n = some e) :
    (interpret (relabel n l) nodes = .ok (.update e.id l) ↔
      ¬ HasWord Vocabulary.edgeWords (head l) ∧ (Text.ofNat n).length ≤ maxDigits) ∧
    (HasWord Vocabulary.edgeWords (head l) →
      interpret (relabel n l) nodes = .ok (.unknown Usage.anything)) := by
  refine ⟨?_, fun hedge => interpret_relabel_of_edge hl hedge n nodes⟩
  by_cases hedge : HasWord Vocabulary.edgeWords (head l)
  · rw [interpret_relabel_of_edge hl hedge]
    exact iff_of_false (by rintro ⟨⟩) fun h => h.1 hedge
  · rw [interpret_relabel_of_not_edge hl hedge, and_iff_right hedge]
    by_cases hdigits : (Text.ofNat n).length ≤ maxDigits
    · rw [Numeral.read_ofNat hdigits]
      exact iff_of_true (withNode_atPlace he fun id => .update id l) hdigits
    · rw [Numeral.read, if_neg hdigits]
      exact iff_of_false (by rintro ⟨⟩) hdigits

/-- Words that divide a request do not divide its label. -/
theorem interpret_newLabel_goToMenu :
    UnquotedLabel "Go to menu".toList ∧
      swapped.atPlace? 1 = some ⟨"2".toList, "node 2".toList, 0⟩ ∧
      interpret "Update node 1 to say Go to menu".toList swapped =
        .ok (.update "2".toList "Go to menu".toList) := by
  have hl : UnquotedLabel "Go to menu".toList := by decide
  have he : swapped.atPlace? 1 = some ⟨"2".toList, "node 2".toList, 0⟩ := by decide
  exact ⟨hl, he, (interpret_newLabel hl he).1.2 ⟨by decide, by decide⟩⟩

/-- An edge word in the label stands in the way of the request. -/
theorem interpret_newLabel_theLink :
    UnquotedLabel "the link".toList ∧ (swapped.atPlace? 1).isSome = true ∧
      interpret "Update node 1 to say the link".toList swapped =
        .ok (.unknown Usage.anything) := by
  have hl : UnquotedLabel "the link".toList := by decide
  exact ⟨hl, by decide, interpret_relabel_of_edge hl (by decide) 1 swapped⟩

end FlowTalk
