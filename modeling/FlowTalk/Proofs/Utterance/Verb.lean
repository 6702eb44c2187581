import FlowTalk.Proofs.Pattern.WholeWord
import FlowTalk.Proofs.Text.Trim
import FlowTalk.Utterance.Detector
import Mathlib.Data.List.Find
import Mathlib.Data.List.Nodup

/-! The first verb of a head decides which detector accepts it. -/
namespace FlowTalk
open Pattern

variable {t head front rest : Text} {group ws : List String} {v v' : String}

namespace Vocabulary

theorem lettered_verbs : ∀ w ∈ verbs, Lettered w := by decide

instance (t : Text) : Decidable (HasWord verbs t) :=
  decidable_of_iff _ (wholeWord_occursIn_iff lettered_verbs)

theorem lettered_edgeWords : ∀ w ∈ edgeWords, Lettered w := by decide

theorem lettered_nodeWords : ∀ w ∈ nodeWords, Lettered w := by decide

theorem progressive_leadsWith (group : List String) : (leadsWith group).Progressive := by
  refine ⟨⟨trivial, ⟨trivial, trivial⟩, ?_⟩, progressive_wholeWord group⟩
  rintro s m ⟨_, ⟨_, rfl⟩, hchar⟩
  exact takes_char_shortens _ _ _ hchar

/-- No word begins at a place in a front exactly if no whole word of the text stands there. -/
theorem run_eq_none_in_front_iff (hws : ∀ w ∈ ws, Lettered w) (front rest : Text) :
    (∀ i < front.length, (wholeWord ws).run (Place.past ⟨none, front ++ rest, 0, []⟩
        (front.take i)) some = none) ↔
      ∀ w ∈ ws, ∀ front' body back, front ++ rest = front' ++ (body ++ back) →
        WordAt w front' body back → front.length ≤ front'.length := by
  have hnone : ∀ i < front.length, ((wholeWord ws).run (Place.past ⟨none, front ++ rest, 0, []⟩
      (front.take i)) some = none ↔ ¬ ∃ w ∈ ws, ∃ body back,
        (front ++ rest).drop i = body ++ back ∧ WordAt w (front.take i) body back) := by
    intro i hi
    have hrest : (Place.past ⟨none, front ++ rest, 0, []⟩ (front.take i)).rest =
        (front ++ rest).drop i := by simp [Place.past, Nat.min_eq_left (Nat.le_of_lt hi)]
    rw [← hrest, ← takes_wholeWord_iff hws (front.take i) (by simp [Place.past]),
      ← run_isSome_iff (progressive_wholeWord ws), Option.not_isSome_iff_eq_none]
  constructor
  · intro h w hw front' body back ht hat
    by_contra hless
    have hless : front'.length < front.length := Nat.not_le.1 hless
    have hfront : front' = front.take front'.length := by
      have htake := congrArg (List.take front'.length) ht
      simpa [List.take_append_of_le_length (Nat.le_of_lt hless)] using htake.symm
    refine (hnone _ hless).1 (h _ hless) ⟨w, hw, body, back, ?_, hfront ▸ hat⟩
    rw [ht, List.drop_left]
  · intro h i hi
    rw [hnone i hi]
    rintro ⟨w, hw, body, back, hdrop, hat⟩
    have hsplit : front ++ rest = front.take i ++ (body ++ back) := by
      rw [← hdrop, ← List.take_append_of_le_length (Nat.le_of_lt hi), List.take_append_drop]
    have hle := h w hw (front.take i) body back hsplit hat
    rw [List.length_take] at hle
    omega

/-- The pattern for a first verb finds it: the characters before it begin no other. -/
theorem leadsWith_occursIn_iff (hgroup : ∀ v ∈ group, v ∈ verbs) :
    (leadsWith group).occursIn t = true ↔ ∃ v ∈ group, FirstWord verbs v t := by
  have hlettered : ∀ w ∈ group, Lettered w := fun w hw => lettered_verbs w (hgroup w hw)
  rw [occursIn_iff (progressive_leadsWith group)]
  constructor
  · rintro ⟨front, rest, rfl, _, _, ⟨_, ⟨hstart, rfl⟩, hmany⟩, hword⟩
    obtain rfl : front = [] := List.getLast?_eq_none_iff.1 hstart
    obtain ⟨u, ⟨rest', rfl⟩, rfl, hguard⟩ := takes_many_notAhead_iff.1 hmany
    obtain ⟨v, hv, body, back, hrest, hat⟩ :=
      (takes_wholeWord_iff hlettered u (by simp [Place.past])).1 ⟨_, hword⟩
    obtain rfl : rest' = body ++ back := by simpa [Place.past] using hrest
    exact ⟨v, hv, hgroup v hv, u, body, back, rfl, hat,
      (run_eq_none_in_front_iff lettered_verbs u _).1 hguard⟩
  · rintro ⟨v, hv, _, front, body, back, rfl, hat, hfirst⟩
    obtain ⟨m, hword⟩ :=
      (takes_wholeWord_iff (s := Place.past ⟨none, front ++ (body ++ back), 0, []⟩ front)
        hlettered front (by simp [Place.past])).2 ⟨v, hv, body, back, by simp [Place.past], hat⟩
    refine ⟨[], _, rfl, m, _, ⟨_, ⟨rfl, rfl⟩, ?_⟩, hword⟩
    exact takes_many_notAhead_iff.2 ⟨front, ⟨body ++ back, rfl⟩, rfl,
      (run_eq_none_in_front_iff lettered_verbs front _).2 hfirst⟩

/-- The letters up to the first space tell the verbs apart. -/
theorem verb_eq_of_firstLetters (hv : v ∈ verbs) (hv' : v' ∈ verbs)
    (h : v.toList.takeWhile (· != ' ') = v'.toList.takeWhile (· != ' ')) : v = v' := by
  have hnodup : (verbs.map fun v => v.toList.takeWhile (· != ' ')).Nodup := by decide
  exact List.inj_on_of_nodup_map hnodup hv hv' h

theorem firstVerb_unique (h : FirstWord verbs v t) (h' : FirstWord verbs v' t) : v = v' := by
  obtain ⟨hv, front, body, back, ht, hat, hfirst⟩ := h
  obtain ⟨hv', front', body', back', ht', hat', hfirst'⟩ := h'
  have hle := hfirst v' hv' front' body' back' ht' hat'
  have hge := hfirst' v hv front body back ht hat
  obtain ⟨rfl, hrest⟩ := List.append_inj (ht.symm.trans ht') (Nat.le_antisymm hle hge)
  have hletters := hat.takeWhile_isWord (lettered_verbs v hv)
  rw [hrest, hat'.takeWhile_isWord (lettered_verbs v' hv')] at hletters
  exact verb_eq_of_firstLetters hv hv' hletters.symm

theorem edgeWord_occursIn_iff : edgeWord.occursIn t = true ↔ HasWord edgeWords t :=
  wholeWord_occursIn_iff lettered_edgeWords

instance (t : Text) : Decidable (HasWord edgeWords t) :=
  decidable_of_iff _ edgeWord_occursIn_iff

theorem nodeWord_occursIn_iff : nodeWord.occursIn t = true ↔ HasWord nodeWords t :=
  wholeWord_occursIn_iff lettered_nodeWords

theorem leadsWith_occursIn_iff_mem (hgroup : ∀ v ∈ group, v ∈ verbs) (h : FirstWord verbs v t) :
    (leadsWith group).occursIn t = true ↔ v ∈ group := by
  rw [leadsWith_occursIn_iff hgroup]
  constructor
  · rintro ⟨v', hv', h'⟩
    obtain rfl := firstVerb_unique h h'
    exact hv'
  · intro hv
    exact ⟨v, hv, h⟩

/-- The verbs in their groups, each under what it asks for if no edge is meant. -/
def verbGroups : List (Intent × List String) :=
  [(.add, addVerbs), (.delete, deleteVerbs), (.update, updateVerbs), (.connect, connectVerbs),
    (.disconnect, disconnectVerbs), (.explain, explainVerbs)]

theorem mem_verbs_of_mem_group : ∀ g ∈ verbGroups, ∀ v ∈ g.2, v ∈ verbs := by decide

def verbKind (v : String) : Intent :=
  ((verbGroups.find? fun g => g.2.contains v).map (·.1)).getD .unknown

/-- No verb is in two groups. -/
theorem verbKind_of_mem : ∀ g ∈ verbGroups, ∀ v ∈ g.2, verbKind v = g.1 := by decide

end Vocabulary

namespace Utterance
open Vocabulary

/-- What a head with the first verb `v` asks for. -/
def Asks (v : String) (head : Text) : Intent → Prop
  | .add => v ∈ addVerbs ∧ ¬ HasWord edgeWords head ∧ HasWord nodeWords head
  | .delete => v ∈ deleteVerbs ∧ ¬ HasWord edgeWords head
  | .update => v ∈ updateVerbs ∧ ¬ HasWord edgeWords head
  | .connect => v ∈ connectVerbs ∨ v ∈ addVerbs ∧ HasWord edgeWords head
  | .disconnect => v ∈ disconnectVerbs ∨ v ∈ deleteVerbs ∧ HasWord edgeWords head
  | .explain => v ∈ explainVerbs
  | .unknown => False

/-- What a verb asks for when an edge is meant. -/
def aboutEdges : Intent → Intent
  | .add => .connect
  | .delete => .disconnect
  | i => i

/-- What a head asks for depends on the group of its verb and on whether it has an edge word. -/
theorem Asks.exists_group {i : Intent} (h : Asks v head i) : ∃ g ∈ verbGroups, v ∈ g.2 ∧
    i = if edgeWord.occursIn head then aboutEdges g.1 else g.1 := by
  have hplain : ∀ j, ¬ HasWord edgeWords head →
      j = if edgeWord.occursIn head then aboutEdges j else j := fun j he =>
    (if_neg (mt edgeWord_occursIn_iff.1 he)).symm
  have hedge : ∀ j, HasWord edgeWords head →
      aboutEdges j = if edgeWord.occursIn head then aboutEdges j else j := fun j he =>
    (if_pos (edgeWord_occursIn_iff.2 he)).symm
  have hsame : ∀ j, aboutEdges j = j → j = if edgeWord.occursIn head then aboutEdges j else j :=
    fun j hj => by rw [hj, ite_self]
  cases i with
  | add => exact ⟨(.add, addVerbs), by simp [verbGroups], h.1, hplain .add h.2.1⟩
  | delete => exact ⟨(.delete, deleteVerbs), by simp [verbGroups], h.1, hplain .delete h.2⟩
  | update => exact ⟨(.update, updateVerbs), by simp [verbGroups], h.1, hplain .update h.2⟩
  | connect =>
    rcases h with hverb | ⟨hverb, he⟩
    · exact ⟨(.connect, connectVerbs), by simp [verbGroups], hverb, hsame .connect rfl⟩
    · exact ⟨(.add, addVerbs), by simp [verbGroups], hverb, hedge .add he⟩
  | disconnect =>
    rcases h with hverb | ⟨hverb, he⟩
    · exact ⟨(.disconnect, disconnectVerbs), by simp [verbGroups], hverb, hsame .disconnect rfl⟩
    · exact ⟨(.delete, deleteVerbs), by simp [verbGroups], hverb, hedge .delete he⟩
  | explain => exact ⟨(.explain, explainVerbs), by simp [verbGroups], h, hsame .explain rfl⟩
  | unknown => exact h.elim

theorem Asks.eq {i : Intent} (h : Asks v head i) :
    i = if edgeWord.occursIn head then aboutEdges (verbKind v) else verbKind v := by
  obtain ⟨g, hg, hv, hi⟩ := h.exists_group
  rw [verbKind_of_mem g hg v hv, hi]

theorem accepts_iff_asks (h : FirstWord verbs v head) {d : Detector} (hd : d ∈ detectors) :
    d.accepts head = true ↔ Asks v head d.intent := by
  have hleads : ∀ g ∈ verbGroups, ((leadsWith g.2).occursIn head = true ↔ v ∈ g.2) :=
    fun g hg => leadsWith_occursIn_iff_mem (mem_verbs_of_mem_group g hg) h
  have hadd := hleads (.add, addVerbs) (by decide)
  have hdelete := hleads (.delete, deleteVerbs) (by decide)
  have hedge := @edgeWord_occursIn_iff head
  simp only [detectors, List.mem_cons, List.not_mem_nil, or_false] at hd
  rcases hd with rfl | rfl | rfl | rfl | rfl | rfl
  · simp [asksToAdd, Asks, hadd, ← hedge, ← nodeWord_occursIn_iff, and_assoc]
  · simp [asksToDelete, Asks, hdelete, ← hedge]
  · simp [asksToUpdate, Asks, hleads (.update, updateVerbs) (by decide), ← hedge]
  · simp [asksToConnect, Asks, hleads (.connect, connectVerbs) (by decide), hadd, ← hedge]
  · simp [asksToDisconnect, Asks, hleads (.disconnect, disconnectVerbs) (by decide), hdelete,
      ← hedge]
  · simp [asksToExplain, Asks, hleads (.explain, explainVerbs) (by decide)]

theorem accepts_eq_false (h : ¬ HasWord verbs head) {d : Detector} (hd : d ∈ detectors) :
    d.accepts head = false := by
  have hleads : ∀ g ∈ verbGroups, (leadsWith g.2).occursIn head = false := by
    intro g hg
    rw [← Bool.not_eq_true, leadsWith_occursIn_iff (mem_verbs_of_mem_group g hg)]
    rintro ⟨v, _, hv⟩
    exact h hv.hasWord
  have hadd := hleads (.add, addVerbs) (by decide)
  have hdelete := hleads (.delete, deleteVerbs) (by decide)
  simp only [detectors, List.mem_cons, List.not_mem_nil, or_false] at hd
  rcases hd with rfl | rfl | rfl | rfl | rfl | rfl
  · simp [asksToAdd, hadd]
  · simp [asksToDelete, hdelete]
  · simp [asksToUpdate, hleads (.update, updateVerbs) (by decide)]
  · simp [asksToConnect, hleads (.connect, connectVerbs) (by decide), hadd]
  · simp [asksToDisconnect, hleads (.disconnect, disconnectVerbs) (by decide), hdelete]
  · simp [asksToExplain, hleads (.explain, explainVerbs) (by decide)]

theorem detector_eq_of_intent {d d' : Detector} (hd : d ∈ detectors) (hd' : d' ∈ detectors)
    (h : d.intent = d'.intent) : d = d' := by
  have hnodup : (detectors.map (·.intent)).Nodup := by decide
  exact List.inj_on_of_nodup_map hnodup hd hd' h

/-- No head is for two detectors. -/
theorem accepts_unique {d d' : Detector} (hd : d ∈ detectors) (hd' : d' ∈ detectors)
    (h : d.accepts head = true) (h' : d'.accepts head = true) : d = d' := by
  by_cases hverb : HasWord verbs head
  · obtain ⟨v, hv⟩ := hverb.exists_firstWord
    have hasks := (accepts_iff_asks hv hd).1 h
    have hasks' := (accepts_iff_asks hv hd').1 h'
    exact detector_eq_of_intent hd hd' (hasks.eq.trans hasks'.eq.symm)
  · rw [accepts_eq_false hverb hd] at h
    cases h

section accepts

variable {i : Intent} {accepts : Text → Bool} {draft : Text → Listing → Drafting}
  (hd : ⟨i, accepts, draft⟩ ∈ detectors)
include hd

theorem detect_eq_of_accepts (h : accepts head = true) :
    detect head = some ⟨i, accepts, draft⟩ := by
  have hsome : (detectors.find? fun d => d.accepts head).isSome = true :=
    List.find?_isSome.2 ⟨_, hd, h⟩
  obtain ⟨d', hd'⟩ := Option.isSome_iff_exists.1 hsome
  have haccepts : d'.accepts head = true := by simpa using List.find?_some hd'
  obtain rfl := accepts_unique (List.mem_of_find?_eq_some hd') hd haccepts h
  exact hd'

theorem understand_of_accepts (htrim : Text.trim t = t) (h : accepts (Utterance.head t) = true)
    (nodes : Listing) : understand t nodes = draft t nodes := by
  rw [understand, htrim]
  simp only [detect_eq_of_accepts hd h]

theorem accepts_of_asks (hverb : FirstWord verbs v head) (hasks : Asks v head i) :
    accepts head = true :=
  (accepts_iff_asks hverb hd).2 hasks

/-- The first verb of the head, with its other words, decides which detector makes the draft. -/
theorem understand_of_asks (htrim : Text.trim t = t) (hverb : FirstWord verbs v (Utterance.head t))
    (hasks : Asks v (Utterance.head t) i) (nodes : Listing) : understand t nodes = draft t nodes :=
  understand_of_accepts hd htrim (accepts_of_asks hd hverb hasks) nodes

end accepts

theorem understand_trim (t : Text) (nodes : Listing) :
    understand (Text.trim t) nodes = understand t nodes := by
  rw [understand, understand, Text.trim_trim]

theorem find?_accepts_of_perm {ds : List Detector} (h : ds.Perm detectors) :
    (ds.find? fun d => d.accepts head) = detect head := by
  refine List.find?_eq_find?_of_perm h ?_
  rintro d ⟨hd, haccepts⟩ d' ⟨hd', haccepts'⟩
  exact accepts_unique (h.mem_iff.1 hd) (h.mem_iff.1 hd') haccepts haccepts'

theorem wordAt_front (hv : v ∈ verbs) (rest : Text) : WordAt v [] v.toList (' ' :: rest) := by
  have hspace : isWord ' ' = false := by decide
  exact ⟨(lettered_verbs v hv).wording, rfl, by simp [hspace]⟩

/-- A verb at the front of a text is its first one. -/
theorem firstWord_front (hv : v ∈ verbs) (rest : Text) :
    FirstWord verbs v (v.toList ++ ' ' :: rest) :=
  ⟨hv, [], v.toList, ' ' :: rest, rfl, wordAt_front hv rest, by simp⟩

/-- A head that has verbs has one first verb, and this verb, with the edge and node words of the
head, decides which detector accepts it. So no two do, and their order does not matter. -/
theorem detectors_by_first_verb (head : Text) :
    (HasWord verbs head → ∃! v, FirstWord verbs v head) ∧
    (∀ v, FirstWord verbs v head →
      ∀ d ∈ detectors, d.accepts head = true ↔ Asks v head d.intent) ∧
    (¬ HasWord verbs head → ∀ d ∈ detectors, d.accepts head = false) ∧
    (∀ d ∈ detectors, ∀ d' ∈ detectors,
      d.accepts head = true → d'.accepts head = true → d = d') ∧
    (∀ ds : List Detector, ds.Perm detectors →
      (ds.find? fun d => d.accepts head) = detect head) := by
  refine ⟨?_, ?_, ?_, ?_, ?_⟩
  · intro h
    obtain ⟨v, hv⟩ := h.exists_firstWord
    exact ⟨v, hv, fun v' hv' => firstVerb_unique hv' hv⟩
  · intro v hv d hd
    exact accepts_iff_asks hv hd
  · intro h d hd
    exact accepts_eq_false h hd
  · intro d hd d' hd' h h'
    exact accepts_unique hd hd' h h'
  · intro ds hds
    exact find?_accepts_of_perm hds

end Utterance

end FlowTalk
