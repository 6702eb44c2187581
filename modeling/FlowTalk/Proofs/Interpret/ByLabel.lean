import FlowTalk.Proofs.Interpret.Build
import FlowTalk.Proofs.Lookup.Ranking
import FlowTalk.Proofs.Utterance.Framing
import FlowTalk.Proofs.Utterance.Unmarked

/-! An utterance that deletes a node by a label of plain words, without quotes. -/
namespace FlowTalk
open Pattern

variable {t : Text} {ws : List Text} {group : List String} {nodes : Listing} {e : Entry}

namespace Utterance
open Vocabulary

/-- The request to delete the node with a label. -/
def deleteLabel (ws : List Text) : Text := "delete ".toList ++ sentence ws

/-- The words of a label that is neither named nor an edge. -/
structure IsLabel (ws : List Text) : Prop where
  ne : ws ≠ []
  plain : ∀ w ∈ ws, IsPlain w
  naming : ∀ w ∈ ws, ¬ Among namingWords w
  edge : ∀ w ∈ ws, ¬ Among edgeWords w

theorem IsLabel.small (h : IsLabel ws) : IsLabel (ws.map small) := by
  have hsame : ∀ {group : List String}, (∀ w ∈ ws, ¬ Among group w) →
      ∀ w ∈ ws.map FlowTalk.small, ¬ Among group w := by
    rintro group hnone _ hmem
    obtain ⟨w, hw, rfl⟩ := List.mem_map.1 hmem
    rw [Among, small_small]
    exact hnone w hw
  refine ⟨by simpa using h.ne, fun _ hmem => ?_, hsame h.naming, hsame h.edge⟩
  obtain ⟨w, hw, rfl⟩ := List.mem_map.1 hmem
  exact (h.plain w hw).small

theorem ordinal?_sentence (hne : ws ≠ []) (hws : ∀ w ∈ ws, IsPlain w) :
    ordinal? (sentence ws) = .ok none := by
  have hnone := demands_ordinalPhrase.matchFront_eq_none
    (sentence_avoids hws (by decide) fun c hc => hc.digit)
  rw [ordinal?, trim_sentence hne hws, hnone]

theorem deleteLabel_eq (hne : ws ≠ []) : deleteLabel ws = sentence ("delete".toList :: ws) := by
  rw [sentence_cons hne]
  rfl

theorem firstWord_deleteLabel (ws : List Text) : FirstWord verbs "delete" (deleteLabel ws) :=
  firstWord_front (v := "delete") (by decide) (sentence ws)

section label

variable (h : IsLabel ws)
include h

theorem plain_deleteLabel : ∀ w ∈ "delete".toList :: ws, IsPlain w := by
  intro w hw
  rcases List.mem_cons.1 hw with rfl | hw
  · decide
  · exact h.plain w hw

theorem not_hasWord_deleteLabel (hgroup : SmallWords group)
    (hverb : ¬ Among group "delete".toList) (hws : ∀ w ∈ ws, ¬ Among group w) :
    ¬ HasWord group (deleteLabel ws) := by
  rw [deleteLabel_eq h.ne]
  intro hword
  obtain ⟨w, hw, hamong⟩ := hword.exists_among hgroup (plain_deleteLabel h)
  rcases List.mem_cons.1 hw with rfl | hw
  · exact hverb hamong
  · exact hws w hw hamong

theorem unmarked_deleteLabel : Unmarked (deleteLabel ws) := by
  refine ⟨?_, not_hasWord_deleteLabel h (by decide) (by decide) h.naming⟩
  rw [deleteLabel_eq h.ne]
  exact sentence_avoids (plain_deleteLabel h) (by decide) fun c hc => hc.quoteMark

theorem trim_deleteLabel : Text.trim (deleteLabel ws) = deleteLabel ws := by
  rw [deleteLabel_eq h.ne]
  exact trim_sentence (by simp) (plain_deleteLabel h)

theorem head_deleteLabel : head (deleteLabel ws) = deleteLabel (ws.map small) := by
  have hlower : lower (deleteLabel ws) = deleteLabel (ws.map small) := by
    rw [deleteLabel_eq h.ne, lower_sentence (plain_deleteLabel h), deleteLabel_eq h.small.ne]
    rfl
  rw [head_eq, beforeLabel_unmarked (unmarked_deleteLabel h), hlower]
  exact trim_deleteLabel h.small

theorem asksToDelete_deleteLabel : asksToDelete (head (deleteLabel ws)) = true := by
  have hdetector : ⟨.delete, asksToDelete, draftDelete⟩ ∈ detectors := by simp [detectors]
  rw [head_deleteLabel h]
  refine accepts_of_asks hdetector (firstWord_deleteLabel _) ⟨by decide, ?_⟩
  exact not_hasWord_deleteLabel h.small (by decide) (by decide) h.small.edge

theorem mention?_sentence :
    mention? false (sentence ws) = .ok (some (.phrase (sentence (bare ws)))) := by
  obtain ⟨hne, hplain⟩ := bare_plain h.ne h.plain
  have hquote : quotations (sentence ws) = [] :=
    quotations_eq_nil (sentence_avoids h.plain (by decide) fun c hc => hc.quoteMark)
  rw [mention?, hquote]
  simp [cleanFragment_sentence h.ne h.plain, sentence_ne_nil hne hplain,
    ordinal?_sentence hne hplain, Except.map]

theorem after_deleteLabel : after deleteVerbs (deleteLabel ws) = sentence ws := by
  have hmatch : (wholeWord deleteVerbs).matchAfter none (deleteLabel ws) =
      some ⟨[], "delete".toList, ' ' :: sentence ws, []⟩ := rfl
  exact (after_of_match hmatch).trans
    ((Text.trimWhere_cons rfl).trans (trim_sentence h.ne h.plain))

theorem understand_deleteLabel (nodes : Listing) :
    understand (deleteLabel ws) nodes = .ok (.delete (.phrase (sentence (bare ws)))) := by
  have hnumber : nodeNumber.search (deleteLabel ws) = none := by
    rw [deleteLabel_eq h.ne]
    exact demands_nodeNumber.search_eq_none
      (sentence_avoids (plain_deleteLabel h) (by decide) fun c hc => hc.digit)
  have hdetector : ⟨.delete, asksToDelete, draftDelete⟩ ∈ detectors := by simp [detectors]
  rw [understand_of_accepts hdetector (trim_deleteLabel h) (asksToDelete_deleteLabel h),
    draftDelete, givenLabel?_unmarked (unmarked_deleteLabel h), hnumber, after_deleteLabel h, mention?_sentence h]
  rfl

end label

end Utterance

namespace Lookup

/-- The node that a text names: the first with that id, or else the first with that label up to
case and outer white space. -/
def Names (t : Text) (nodes : Listing) (e : Entry) : Prop :=
  nodes.find? (fun node => node.id == t) = some e ∨
    (∀ node ∈ nodes, node.id ≠ t) ∧ nodes.find? (fun node => folded node.label == folded t) = some e

theorem names_iff (hblank : Text.trim t ≠ []) :
    Names t nodes e ↔ (byId t nodes).or (byLabel t nodes) = some e := by
  have hnone : (∀ node ∈ nodes, node.id ≠ t) ↔ nodes.find? (fun node => node.id == t) = none := by
    simp
  rw [Names, hnone, byId_eq_find? hblank, byLabel_eq_find? hblank, Option.or_eq_some_iff]

/-- A label of the listing names a node. -/
theorem exists_names (hblank : Text.trim t ≠ []) (h : ∃ node ∈ nodes, node.label = t) :
    ∃ e, Names t nodes e := by
  cases hnamed : (byId t nodes).or (byLabel t nodes) with
  | some e => exact ⟨e, (names_iff hblank).2 hnamed⟩
  | none =>
    obtain ⟨node, hnode, hlabel⟩ := h
    have hrank : ∃ r ∈ rank t node, r < 2 := rank_lt_two_iff.2 (Or.inr (by rw [hlabel]))
    exact absurd ⟨node, hnode, hrank⟩ ((named_eq_none_iff hblank).1 hnamed)

end Lookup

section label

open Utterance Lookup

theorem interpret_deleteLabel_eq (h : IsLabel ws) (nodes : Listing) :
    interpret (deleteLabel ws) nodes =
      (resolveText true (sentence (bare ws)) nodes).map fun found =>
        found.elim (.unknown (nodes.notFoundMessage (sentence (bare ws)))) fun e => .delete e.id := by
  have hbuild : (Draft.delete (.phrase (sentence (bare ws)))).build nodes =
      withNode (.phrase (sentence (bare ws))) nodes .delete := rfl
  rw [interpret, understand_deleteLabel h]
  refine hbuild.trans (congrFun (congrArg Except.map (funext fun found => ?_)) _)
  cases found with
  | none => rfl
  | some e => rfl

/-- A label of plain words, given without quotes, names the node that its words name once an
article in front and a word like "node" or "please" behind are gone. With no such words the label
is looked up as it is: a likeness of another label does not matter, and it is found if it is a
label of the listing. -/
theorem interpret_deleteLabel (h : IsLabel ws) (nodes : Listing) :
    (∀ e, Names (sentence (bare ws)) nodes e →
        interpret (deleteLabel ws) nodes = .ok (.delete e.id)) ∧
      ((∀ e, ¬ Names (sentence (bare ws)) nodes e) → interpret (deleteLabel ws) nodes =
        .ok ((byKeywords (sentence (bare ws)) nodes).elim
          (.unknown (nodes.notFoundMessage (sentence (bare ws)))) fun e => .delete e.id)) ∧
      (Unframed ws → sentence (bare ws) = sentence ws ∧
        ((∃ node ∈ nodes, node.label = sentence ws) → ∃ e, Names (sentence ws) nodes e ∧
          interpret (deleteLabel ws) nodes = .ok (.delete e.id))) := by
  obtain ⟨hne, hplain⟩ := bare_plain h.ne h.plain
  have htrim := trim_sentence hne hplain
  have hblank : Text.trim (sentence (bare ws)) ≠ [] := by
    rw [htrim]
    exact sentence_ne_nil hne hplain
  have hnamed : ∀ e, Names (sentence (bare ws)) nodes e →
      interpret (deleteLabel ws) nodes = .ok (.delete e.id) := by
    intro e he
    have hfound := (names_iff hblank).1 he
    rw [← htrim] at hfound
    rw [interpret_deleteLabel_eq h, resolveText_of_named hblank hfound]
    rfl
  refine ⟨hnamed, fun hnone => ?_, fun hunframed => ?_⟩
  · have hunnamed : (byId (sentence (bare ws)) nodes).or (byLabel (sentence (bare ws)) nodes) =
        none := Option.eq_none_iff_forall_ne_some.2 fun e he => hnone e ((names_iff hblank).2 he)
    rw [← htrim] at hunnamed
    have hordinal : ordinal? (sentence (bare ws)) = .ok none :=
      ordinal?_sentence hne hplain
    rw [interpret_deleteLabel_eq h, resolveText_of_words hblank hunnamed fun _ => hordinal, htrim]
    rfl
  · have hsame := congrArg sentence (bare_eq_self hunframed)
    refine ⟨hsame, fun hlabel => ?_⟩
    rw [hsame] at hblank hnamed
    obtain ⟨e, he⟩ := exists_names hblank hlabel
    exact ⟨e, he, hnamed e he⟩

/-- A label, and one that begins with it. -/
def calls : Listing :=
  .ofPairs [("a".toList, "End Call Now".toList), ("b".toList, "End Call".toList)]

theorem interpret_deleteLabel_calls :
    IsLabel ["end".toList, "call".toList] ∧
      interpret "delete end call".toList calls = .ok (.delete "b".toList) := by
  have hlabel : IsLabel ["end".toList, "call".toList] :=
    ⟨by decide, by decide, by decide, by decide⟩
  have hnames : Names (sentence (bare ["end".toList, "call".toList])) calls
      ⟨"b".toList, "End Call".toList, 1⟩ := Or.inr ⟨by decide, by decide⟩
  exact ⟨hlabel, (interpret_deleteLabel hlabel calls).1 _ hnames⟩

/-- Two labels of which one is the other behind an article. -/
def menus : Listing := .ofPairs [("a".toList, "Menu".toList), ("b".toList, "The Menu".toList)]

/-- A label that begins with an article is passed over for what is left of it without. -/
theorem interpret_deleteLabel_article :
    IsLabel ["The".toList, "Menu".toList] ∧
      (∃ node ∈ menus, node.label = sentence ["The".toList, "Menu".toList]) ∧
      Names (sentence ["The".toList, "Menu".toList]) menus ⟨"b".toList, "The Menu".toList, 1⟩ ∧
      interpret "delete The Menu".toList menus = .ok (.delete "a".toList) := by
  refine ⟨⟨by decide, by decide, by decide, by decide⟩, by decide,
    Or.inr ⟨by decide, by decide⟩, ?_⟩
  decide +kernel

end label

end FlowTalk
