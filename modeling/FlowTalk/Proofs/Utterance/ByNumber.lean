import FlowTalk.Proofs.Utterance.NumberedSlots
import FlowTalk.Proofs.Utterance.Numerals

/-! Utterances that delete a node by its number. -/
namespace FlowTalk
open Pattern

namespace Utterance
open Vocabulary

/-- "delete node " and a number. -/
def deleteNode (ds : Text) : Text := "delete node ".toList ++ ds

variable {ds : Text} {v : String}

section deletion

variable (hv : v ∈ ["delete", "remove", "get rid of"]) (hne : ds ≠ []) (hds : ∀ c ∈ ds, c ∈ decimals)
include hv hne hds

theorem spoken_deletion : Spoken (v.toList ++ ' ' :: ("node ".toList ++ ds)) := by
  have hall : ∀ v ∈ ["delete", "remove", "get rid of"], Spoken v.toList := by decide
  exact (hall v hv).append (spoken_node hne hds)

theorem asksToDelete_deletion :
    asksToDelete (head (v.toList ++ ' ' :: ("node ".toList ++ ds))) = true := by
  have hall : ∀ v ∈ ["delete", "remove", "get rid of"],
      v ∈ deleteVerbs ∧ v ∈ verbs ∧ ¬ HasWord edgeWords v.toList := by decide
  obtain ⟨hdelete, hverb, hedge⟩ := hall v hv
  have hdetector : ⟨.delete, asksToDelete, draftDelete⟩ ∈ detectors := by simp [detectors]
  have hasks : Asks v (v.toList ++ ' ' :: ("node ".toList ++ ds)) .delete := by
    refine ⟨hdelete, ?_⟩
    rw [hasWord_append_cons_iff (by decide) (by decide)]
    exact not_or.2 ⟨hedge, not_edge_node hds⟩
  rw [(spoken_deletion hv hne hds).head_eq]
  exact accepts_of_asks hdetector (firstWord_front hverb _) hasks

theorem nodeNumber_deletion :
    ∃ m, nodeNumber.search (v.toList ++ ' ' :: ("node ".toList ++ ds)) = some m ∧
      m.body = "node ".toList ++ ds ∧ m.piece 1 = ds := by
  have hall : ∀ v ∈ ["delete", "remove", "get rid of"],
      (v.toList ++ [' ']).all (fun c => !opensNumber c) = true := by decide
  have hfront : ∀ c ∈ v.toList ++ [' '], opensNumber c = false := fun c hc => by
    simpa using List.all_eq_true.1 (hall v hv) c hc
  obtain ⟨m, hm, hfound⟩ := nodeNumber_search hne hds hfront (by simp)
  rw [List.append_assoc] at hm
  exact ⟨m, hm, hfound⟩

end deletion

theorem deleteNode_eq (ds : Text) :
    deleteNode ds = "delete".toList ++ ' ' :: ("node ".toList ++ ds) := rfl

theorem numerals_deleteNode (hne : ds ≠ []) (hds : ∀ c ∈ ds, c ∈ decimals) :
    numerals (deleteNode ds) = [ds] := by
  have hverb : "delete" ∈ ["delete", "remove", "get rid of"] := by decide
  have hspoken := spoken_deletion hverb hne hds
  have haccepts := asksToDelete_deletion hverb hne hds
  have hdetector : ⟨.delete, asksToDelete, draftDelete⟩ ∈ detectors := by simp [detectors]
  obtain ⟨m, hm, _, hpiece⟩ := nodeNumber_deletion hverb hne hds
  rw [← deleteNode_eq] at hspoken haccepts hm
  have hdetect := detect_eq_of_accepts hdetector haccepts
  have hdigits : deleteDigits (deleteNode ds) = [ds] := by
    rw [deleteDigits, givenLabel?_unmarked hspoken.unmarked, hm, ← hpiece]
  simp only [numerals, hspoken.trim_eq, hdetect, Option.map_some, hdigits]

end Utterance

end FlowTalk
