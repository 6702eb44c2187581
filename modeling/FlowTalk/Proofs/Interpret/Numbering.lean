import FlowTalk.Proofs.Lookup.Ranking
import FlowTalk.Proofs.Utterance.Drafts

/-! What an utterance is taken for depends on the ids and labels of the nodes in their order, not on
the numbers that the nodes carry. To number the nodes again changes nothing. -/
namespace FlowTalk

/-- A node without its place. -/
def Entry.pair (node : Entry) : Text × Text := (node.id, node.label)

namespace Listing

def pairs (nodes : Listing) : List (Text × Text) := nodes.map Entry.pair

/-- The nodes, each with the number of its place. -/
def renumbered (nodes : Listing) : Listing := .ofPairs nodes.pairs

end Listing

variable {nodes nodes' : Listing} {t : Text}

namespace Listing

theorem pairs_ofPairs (ps : List (Text × Text)) : (ofPairs ps).pairs = ps := by
  refine List.ext_getElem (by simp [pairs, ofPairs]) fun i _ _ => ?_
  simp [pairs, ofPairs, Entry.pair]

theorem pairs_renumbered (nodes : Listing) : nodes.renumbered.pairs = nodes.pairs :=
  pairs_ofPairs nodes.pairs

theorem length_congr (h : nodes.pairs = nodes'.pairs) : nodes.length = nodes'.length := by
  simpa [pairs] using congrArg List.length h

theorem nextLabel_congr (h : nodes.pairs = nodes'.pairs) : nodes.nextLabel = nodes'.nextLabel := by
  rw [nextLabel, nextLabel, length_congr h]

theorem summaryLines_eq (nodes : Listing) : nodes.summaryLines = nodes.pairs.mapIdx fun i pair =>
    Text.ofNat (i + 1) ++ ". \"".toList ++ pair.2 ++ "\"".toList := by
  refine List.ext_getElem (by simp [summaryLines, pairs]) fun i _ _ => ?_
  simp [summaryLines, pairs, Entry.pair]

theorem isEmpty_eq (nodes : Listing) : nodes.isEmpty = nodes.pairs.isEmpty := by
  rw [pairs, List.isEmpty_map]

theorem summary_congr (h : nodes.pairs = nodes'.pairs) : nodes.summary = nodes'.summary := by
  rw [summary, summary, summaryLines_eq, summaryLines_eq, isEmpty_eq, isEmpty_eq, length_congr h, h]

theorem notFoundMessage_congr (h : nodes.pairs = nodes'.pairs) (mention : Text) :
    nodes.notFoundMessage mention = nodes'.notFoundMessage mention := by
  have hlabels : (nodes.map fun node => "\"".toList ++ node.label ++ "\"".toList) =
      nodes'.map fun node => "\"".toList ++ node.label ++ "\"".toList := by
    have hmap := congrArg (List.map fun pair => "\"".toList ++ pair.2 ++ "\"".toList) h
    rw [pairs, pairs, List.map_map, List.map_map] at hmap
    exact hmap
  unfold notFoundMessage
  rw [hlabels]

end Listing

namespace Lookup

/-- A search that looks at ids and labels finds the same node in listings that agree in them. -/
theorem find?_congr (h : nodes.pairs = nodes'.pairs) (p : Text × Text → Bool) :
    (nodes.find? fun node => p node.pair).map Entry.pair =
      (nodes'.find? fun node => p node.pair).map Entry.pair := by
  have hpairs : ∀ nodes : Listing,
      nodes.pairs.find? p = (nodes.find? fun node => p node.pair).map Entry.pair := fun _ =>
    List.find?_map
  rw [← hpairs, ← hpairs, h]

theorem byId_congr (h : nodes.pairs = nodes'.pairs) (id : Text) :
    (byId id nodes).map Entry.pair = (byId id nodes').map Entry.pair := by
  by_cases hid : id.isEmpty = true
  · rw [byId, byId, if_pos hid, if_pos hid]
  · rw [byId, byId, if_neg hid, if_neg hid]
    exact find?_congr h fun pair => pair.1 == id

theorem byLabel_congr (h : nodes.pairs = nodes'.pairs) (label : Text) :
    (byLabel label nodes).map Entry.pair = (byLabel label nodes').map Entry.pair := by
  by_cases hlabel : (Text.trim label).isEmpty = true
  · rw [byLabel, byLabel, if_pos hlabel, if_pos hlabel]
  · rw [byLabel, byLabel, if_neg hlabel, if_neg hlabel]
    exact find?_congr h fun pair => folded pair.2 == folded label

theorem byOrdinal_congr (h : nodes.pairs = nodes'.pairs) (n : Int) :
    (byOrdinal n nodes).map Entry.pair = (byOrdinal n nodes').map Entry.pair := by
  by_cases hn : n < 1
  · rw [byOrdinal, byOrdinal, if_pos hn, if_pos hn]
  · have hplace : nodes.pairs[(n - 1).toNat]? = nodes'.pairs[(n - 1).toNat]? := by rw [h]
    rw [byOrdinal, byOrdinal, if_neg hn, if_neg hn]
    simpa only [Listing.pairs, List.getElem?_map] using hplace

theorem byKeywords_congr (h : nodes.pairs = nodes'.pairs) (t : Text) :
    (byKeywords t nodes).map Entry.pair = (byKeywords t nodes').map Entry.pair := by
  have hall := find?_congr h fun pair => !(keywords t).isEmpty &&
    (keywords t).all fun w => Text.occursIn w (lower pair.2)
  have hany := find?_congr h fun pair => (keywords t).any fun w =>
    decide (2 < w.length) && Text.occursIn w (lower pair.2)
  rw [byKeywords_eq, byKeywords_eq, Option.map_or, Option.map_or]
  exact congrArg₂ Option.or hall hany

/-- The id and the label of the node that a text stands for, from those that each lookup finds. -/
theorem map_resolveText (ordinals : Bool) (t : Text) (nodes : Listing) :
    (resolveText ordinals t nodes).map (Option.map Entry.pair) =
      if (Text.trim t).isEmpty then .ok none
      else
        match ((byId (Text.trim t) nodes).map Entry.pair).or
            ((byLabel (Text.trim t) nodes).map Entry.pair) with
        | some pair => .ok (some pair)
        | none =>
          if ordinals then
            (ordinal? (Text.trim t)).map fun
              | some n => (byOrdinal n nodes).map Entry.pair
              | none => (byKeywords (Text.trim t) nodes).map Entry.pair
          else .ok ((byKeywords (Text.trim t) nodes).map Entry.pair) := by
  by_cases hblank : (Text.trim t).isEmpty = true
  · rw [resolveText, if_pos hblank, if_pos hblank]
    rfl
  · rw [resolveText, if_neg hblank, if_neg hblank]
    cases byId (Text.trim t) nodes with
    | some node => rfl
    | none =>
      cases byLabel (Text.trim t) nodes with
      | some node => rfl
      | none =>
        cases ordinals with
        | false => rfl
        | true =>
          rcases ordinal? (Text.trim t) with e | _ | n
          · rfl
          · rfl
          · rfl

theorem resolve_congr (h : nodes.pairs = nodes'.pairs) (m : Mention) :
    (resolve m nodes).map (Option.map Entry.pair) =
      (resolve m nodes').map (Option.map Entry.pair) := by
  have htext : ∀ ordinals t, (resolveText ordinals t nodes).map (Option.map Entry.pair) =
      (resolveText ordinals t nodes').map (Option.map Entry.pair) := by
    intro ordinals t
    simp only [map_resolveText, byId_congr h, byLabel_congr h, byOrdinal_congr h,
      byKeywords_congr h]
  cases m with
  | ordinal n said => exact congrArg Except.ok (byOrdinal_congr h n)
  | label said => exact htext false said
  | phrase said => exact htext true said

end Lookup

/-- A command is made from the id of the node that was found. -/
theorem withNode_eq (m : Mention) (nodes : Listing) (command : Text → Command) :
    withNode m nodes command =
      ((Lookup.resolve m nodes).map (Option.map Entry.pair)).map fun
        | some pair => command pair.1
        | none => .unknown (nodes.notFoundMessage m.text) := by
  rw [withNode]
  rcases Lookup.resolve m nodes with e | _ | node
  · rfl
  · rfl
  · rfl

theorem withEnds_eq (source target : Mention) (nodes : Listing) (command : Text → Text → Command) :
    withEnds (some source) (some target) nodes command = do
      let s ← (Lookup.resolve source nodes).map (Option.map Entry.pair)
      let t ← (Lookup.resolve target nodes).map (Option.map Entry.pair)
      match s, t with
      | some s, some t => return command s.1 t.1
      | _, _ => return .unknown edgeNotFoundMessage := by
  rw [withEnds]
  rcases Lookup.resolve source nodes with e | _ | s
  · rfl
  · rcases Lookup.resolve target nodes with e | _ | t
    · rfl
    · rfl
    · rfl
  · rcases Lookup.resolve target nodes with e | _ | t
    · rfl
    · rfl
    · rfl

theorem withNode_congr (h : nodes.pairs = nodes'.pairs) (m : Mention) (command : Text → Command) :
    withNode m nodes command = withNode m nodes' command := by
  rw [withNode_eq, withNode_eq, Lookup.resolve_congr h, Listing.notFoundMessage_congr h]

theorem withEnds_congr (h : nodes.pairs = nodes'.pairs) (source target : Option Mention)
    (command : Text → Text → Command) :
    withEnds source target nodes command = withEnds source target nodes' command := by
  cases source with
  | none => rfl
  | some source =>
    cases target with
    | none => rfl
    | some target =>
      rw [withEnds_eq, withEnds_eq, Lookup.resolve_congr h source, Lookup.resolve_congr h target]

theorem Draft.build_congr (h : nodes.pairs = nodes'.pairs) (d : Draft) :
    d.build nodes = d.build nodes' := by
  simp only [build, withNode_congr h, withEnds_congr h, Listing.nextLabel_congr h,
    Listing.notFoundMessage_congr h]

namespace Utterance

/-- Of the detectors only those that write a label or a summary look at the nodes. -/
theorem draft_congr (h : nodes.pairs = nodes'.pairs) :
    ∀ found ∈ detectors, found.draft t nodes = found.draft t nodes' := by
  intro found hfound
  simp only [detectors, List.mem_cons, List.not_mem_nil, or_false] at hfound
  rcases hfound with rfl | rfl | rfl | rfl | rfl | rfl
  · simp only [draftAdd, Listing.nextLabel_congr h]
  · rfl
  · rfl
  · rfl
  · rfl
  · simp only [draftExplain, Listing.summary_congr h]

theorem understand_congr (h : nodes.pairs = nodes'.pairs) (t : Text) :
    understand t nodes = understand t nodes' := by
  rw [understand, understand]
  cases hfound : detect (head (Text.trim t)) with
  | none => rfl
  | some found => exact draft_congr h found (List.mem_of_find?_eq_some hfound)

end Utterance

theorem interpret_congr (h : nodes.pairs = nodes'.pairs) (t : Text) :
    interpret t nodes = interpret t nodes' := by
  rw [interpret, interpret, Utterance.understand_congr h]
  exact congrArg _ (funext fun d => d.build_congr h)

theorem interpret_renumbered (t : Text) (nodes : Listing) :
    interpret t nodes.renumbered = interpret t nodes :=
  interpret_congr nodes.pairs_renumbered t

end FlowTalk
