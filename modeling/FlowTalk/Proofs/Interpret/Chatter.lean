import FlowTalk.Proofs.Interpret.ByPosition
import FlowTalk.Proofs.Pattern.Lowered

/-! Requests for edges behind other words. -/
namespace FlowTalk
open Pattern

variable {w s : Text} {v : String} {group : List String} {m : Match} {nodes : Listing}
  {a b k : Nat}

namespace Utterance
open Vocabulary

/-- A text with something to see, in which no label opens and nothing asks for a command. -/
structure Chatter (w : Text) : Prop where
  visible : Text.trim w ≠ []
  unmarked : Unmarked w
  verbs : ¬ HasWord verbs w
  edges : ¬ HasWord edgeWords w

/-- Nothing in the text asks for a command once it is in lower case. -/
structure Quiet (w : Text) : Prop where
  verbs : ¬ HasWord verbs (lower w)
  edges : ¬ HasWord edgeWords (lower w)

/-- Lower-casing a dotted capital I may set a word free, as in "İlink". -/
theorem Chatter.quiet (h : Chatter w) (hdotted : 'İ' ∉ w) : Quiet w :=
  ⟨fun hword => h.verbs (.of_lower lettered_verbs hdotted hword),
    fun hword => h.edges (.of_lower lettered_edgeWords hdotted hword)⟩

/-- The text begins with something to see, and requests may follow it. -/
structure Lead (w : Text) : Prop where
  first : w.head?.any (fun c => !isBlank c) = true
  unmarked : Unmarked w
  quiet : Quiet w

namespace Lead

variable (hw : Lead w) (hs : Spoken s)
include hw

theorem ne_nil : w ≠ [] := by
  rintro rfl
  simpa using hw.first

include hs

theorem trim_behind : Text.trim (w ++ ' ' :: s) = w ++ ' ' :: s := by
  refine Text.trim_append_cons_eq_self hw.ne_nil hs.ne (fun c hc => ?_) (fun c hc => ?_) ' '
  · simpa [Option.mem_def.1 hc] using hw.first
  · simpa [Option.mem_def.1 hc] using hs.last

theorem head_behind : head (w ++ ' ' :: s) = lower w ++ ' ' :: s := by
  have hfirst := head?_lower_any hw.first
  have hne : lower w ≠ [] := by
    intro hnil
    simp [hnil] at hfirst
  rw [head_eq, beforeLabel_append hw.unmarked (by decide) (by decide),
    beforeLabel_unmarked hs.unmarked, lower_append_cons (by decide), lower_eq_self hs.keeps]
  refine Text.trim_append_cons_eq_self hne hs.ne (fun c hc => ?_) (fun c hc => ?_) ' '
  · simpa [Option.mem_def.1 hc] using hfirst
  · simpa [Option.mem_def.1 hc] using hs.last

theorem hasEdgeWord_behind (hedge : HasWord edgeWords s) :
    HasWord edgeWords (head (w ++ ' ' :: s)) := by
  rw [hw.head_behind hs]
  exact hedge.append_right (by decide)

omit hs in
/-- The first verb behind the text is the first verb of all. -/
theorem firstWord_head_behind (hv : v ∈ verbs) {rest : Text}
    (hs : Spoken (v.toList ++ ' ' :: rest)) :
    FirstWord verbs v (head (w ++ ' ' :: (v.toList ++ ' ' :: rest))) := by
  rw [hw.head_behind hs]
  exact firstWord_behind hw.quiet.verbs hv rest

omit hs in
theorem edgeWord_behind (hm : edgeWord.searchAfter (some ' ') s = some m) :
    edgeWord.search (lower w ++ ' ' :: s) = some { m with head := lower w ++ ' ' :: m.head } := by
  have hsearch := searchAfter_append (matchAfter_wholeWord_eq_none (c := ' ') (y := s)
    (by decide) lettered_edgeWords (by decide) hw.quiet.edges)
  rw [List.append_assoc, List.singleton_append, List.getLast?_concat] at hsearch
  refine hsearch.trans ?_
  change (edgeWord.searchAfter (some ' ') s).map _ = _
  rw [hm, Option.map_some, List.append_assoc, List.singleton_append]

/-- The place of the edge word is counted in the text in lower case, where a dotted capital I takes
two characters. So many characters behind the edge word are lost. -/
theorem edgeBody_behind (hverb : FirstWord verbs v (head (w ++ ' ' :: s))) (hv : v ∉ group)
    (hgroup : ∀ v ∈ group, v ∈ verbs) (hm : edgeWord.searchAfter (some ' ') s = some m) :
    edgeBody group (w ++ ' ' :: s) =
      leadingBetween.erase (Text.trim (m.tail.drop (w.count 'İ'))) := by
  have hlead : (leadsWith group).occursIn (head (w ++ ' ' :: s)) = false := by
    rw [← Bool.not_eq_true, leadsWith_occursIn_iff_mem hgroup hverb]
    exact hv
  have hsearch := hw.edgeWord_behind hm
  rw [← hw.head_behind hs] at hsearch
  have htext : w ++ ' ' :: s = (w ++ ' ' :: (m.head ++ m.body)) ++ m.tail := by
    simp [(searchAfter_sound hm).text]
  have hlength : (lower w ++ ' ' :: m.head).length + m.body.length =
      (w ++ ' ' :: (m.head ++ m.body)).length + w.count 'İ' := by
    simp only [List.length_append, List.length_cons, length_lower]
    omega
  rw [edgeBody_of_edgeWord hlead hsearch, hlength, htext, List.drop_length_add_append]

end Lead

/-- The ends behind an edge word when so many characters after the word are lost. -/
def endsText (front word : String) (a b lost : Nat) : Text :=
  leadingBetween.erase (Text.trim ((' ' :: (front.toList ++ ' ' :: pairText a word b)).drop lost))

/-- The first character after the edge word is a space, which means nothing. -/
theorem endsText_of_le_one {front word : String} (hfront : front ∈ ["between", "from"])
    (hword : word ∈ ["to", "and", "from"]) (hk : k ≤ 1) :
    endsText front word a b k = pairText a word b := by
  have hall : ∀ w ∈ ["between", "from"], Spoken w.toList := by decide
  have hspoken := (hall front hfront).append (spoken_pairText (a := a) (b := b) hword)
  obtain rfl | rfl : k = 0 ∨ k = 1 := by omega
  · rw [endsText, List.drop_zero, hspoken.trim_space, leadingBetween_front hfront]
  · rw [endsText, List.drop_one, List.tail_cons, hspoken.trim_eq, leadingBetween_front hfront]

/-- The command about an edge between the ends that a text names. -/
def edgeFrom (draft : Mention → Mention → Draft) (usage body : Text) (nodes : Listing) :
    Except NumeralError Command := do
  let draft ← (ends body).map fun
    | some (source, target) => draft source target
    | none => .unknown usage
  draft.build nodes

section request

variable (htrim : Text.trim s = s) (hedge : HasWord edgeWords (head s))
include htrim hedge

theorem interpret_of_add (hverb : FirstWord verbs "add" (head s)) (nodes : Listing) :
    interpret s nodes = edgeFrom .connect Usage.connect (edgeBody connectVerbs s) nodes := by
  have hdetector : ⟨.connect, asksToConnect, draftConnect⟩ ∈ detectors := by simp [detectors]
  rw [interpret, understand_of_asks hdetector htrim hverb (Or.inr ⟨by decide, hedge⟩)]
  rfl

theorem interpret_of_remove (hverb : FirstWord verbs "remove" (head s)) (nodes : Listing) :
    interpret s nodes =
      edgeFrom .disconnect Usage.disconnect (edgeBody disconnectVerbs s) nodes := by
  have hdetector : ⟨.disconnect, asksToDisconnect, draftDisconnect⟩ ∈ detectors := by
    simp [detectors]
  rw [interpret, understand_of_asks hdetector htrim hverb (Or.inr ⟨by decide, hedge⟩)]
  rfl

end request

theorem interpret_addEdge (a b : Nat) (nodes : Listing) : interpret (addEdge a b) nodes =
    edgeFrom .connect Usage.connect (pairText a "to" b) nodes := by
  have hs := spoken_addEdge a b
  have hhead := hs.head_eq
  rw [interpret_of_add hs.trim_eq (by rw [hhead]; exact hasWord_addEdge a b)
    (by rw [hhead]; exact firstWord_addEdge a b), edgeBody_addEdge]

theorem interpret_removeConnection (a b : Nat) (nodes : Listing) :
    interpret (removeConnection a b) nodes =
      edgeFrom .disconnect Usage.disconnect (pairText a "and" b) nodes := by
  have hs := spoken_removeConnection a b
  have hhead := hs.head_eq
  rw [interpret_of_remove hs.trim_eq (by rw [hhead]; exact hasWord_removeConnection a b)
    (by rw [hhead]; exact firstWord_removeConnection a b), edgeBody_removeConnection]

namespace Lead

variable (hw : Lead w)
include hw

theorem addEdge_behind (a b : Nat) (nodes : Listing) :
    interpret (w ++ ' ' :: addEdge a b) nodes =
      edgeFrom .connect Usage.connect (endsText "from" "to" a b (w.count 'İ')) nodes := by
  have hs := spoken_addEdge a b
  have hedge := hw.hasEdgeWord_behind hs (hasWord_addEdge a b)
  have hverb : FirstWord verbs "add" (head (w ++ ' ' :: addEdge a b)) :=
    hw.firstWord_head_behind (v := "add") (by decide) hs
  have hm : edgeWord.searchAfter (some ' ') (addEdge a b) =
    some ⟨"add an ".toList, "edge".toList, " from ".toList ++ pairText a "to" b, []⟩ := rfl
  rw [interpret_of_add (hw.trim_behind hs) hedge hverb,
    hw.edgeBody_behind hs hverb (by decide) (by decide) hm]
  rfl

theorem removeConnection_behind (a b : Nat) (nodes : Listing) :
    interpret (w ++ ' ' :: removeConnection a b) nodes =
      edgeFrom .disconnect Usage.disconnect (endsText "between" "and" a b (w.count 'İ'))
        nodes := by
  have hs := spoken_removeConnection a b
  have hedge := hw.hasEdgeWord_behind hs (hasWord_removeConnection a b)
  have hverb : FirstWord verbs "remove" (head (w ++ ' ' :: removeConnection a b)) :=
    hw.firstWord_head_behind (v := "remove") (by decide) hs
  have hm : edgeWord.searchAfter (some ' ') (removeConnection a b) =
    some ⟨"remove the ".toList, "connection".toList,
      " between ".toList ++ pairText a "and" b, []⟩ := rfl
  rw [interpret_of_remove (hw.trim_behind hs) hedge hverb,
    hw.edgeBody_behind hs hverb (by decide) (by decide) hm]
  rfl

end Lead

/-- A flow of one node. -/
def single : Listing := .ofPairs [("a".toList, "A".toList)]

theorem endsText_of_long (hk : 26 ≤ k) :
    endsText "from" "to" 1 1 k = endsText "from" "to" 1 1 26 ∧
      endsText "between" "and" 1 1 k = endsText "between" "and" 1 1 26 := by
  constructor
  · rw [endsText, endsText, List.drop_eq_nil_of_le (Nat.le_trans (by decide) hk),
      List.drop_eq_nil_of_le (by decide)]
  · rw [endsText, endsText, List.drop_eq_nil_of_le (Nat.le_trans (by decide) hk),
      List.drop_eq_nil_of_le (by decide)]

/-- With two characters lost or more, one of the two requests names other ends. -/
theorem lost_le_one
    (hadd : edgeFrom .connect Usage.connect (endsText "from" "to" 1 1 k) single =
      edgeFrom .connect Usage.connect (pairText 1 "to" 1) single)
    (hremove : edgeFrom .disconnect Usage.disconnect (endsText "between" "and" 1 1 k) single =
      edgeFrom .disconnect Usage.disconnect (pairText 1 "and" 1) single) : k ≤ 1 := by
  have hall : ∀ k ∈ List.range 27,
      edgeFrom .connect Usage.connect (endsText "from" "to" 1 1 k) single =
        edgeFrom .connect Usage.connect (pairText 1 "to" 1) single →
      edgeFrom .disconnect Usage.disconnect (endsText "between" "and" 1 1 k) single =
        edgeFrom .disconnect Usage.disconnect (pairText 1 "and" 1) single → k ≤ 1 := by
    decide +kernel
  by_cases hk : k < 27
  · exact hall k (List.mem_range.2 hk) hadd hremove
  · obtain ⟨hfrom, hbetween⟩ := endsText_of_long (k := k) (by omega)
    rw [hfrom] at hadd
    rw [hbetween] at hremove
    exact absurd (hall 26 (by decide) hadd hremove) (by decide)

/-- Both requests for an edge mean the same behind the text as alone. -/
def Undisturbed (w : Text) : Prop :=
  ∀ (nodes : Listing) (a b : Nat),
    (Text.ofNat a).length ≤ maxDigits → (Text.ofNat b).length ≤ maxDigits →
      interpret (w ++ ' ' :: addEdge a b) nodes = interpret (addEdge a b) nodes ∧
        interpret (w ++ ' ' :: removeConnection a b) nodes = interpret (removeConnection a b) nodes

theorem Lead.undisturbed_iff (hw : Lead w) : Undisturbed w ↔ w.count 'İ' ≤ 1 := by
  constructor
  · intro h
    obtain ⟨hadd, hremove⟩ := h single 1 1 (by decide) (by decide)
    rw [hw.addEdge_behind, interpret_addEdge] at hadd
    rw [hw.removeConnection_behind, interpret_removeConnection] at hremove
    exact lost_le_one hadd hremove
  · intro hcount nodes a b _ _
    rw [hw.addEdge_behind, interpret_addEdge, hw.removeConnection_behind,
      interpret_removeConnection, endsText_of_le_one (by decide) (by decide) hcount,
      endsText_of_le_one (by decide) (by decide) hcount]
    exact ⟨rfl, rfl⟩

section dropWhile

theorem interpret_dropWhile_append (w s : Text) (nodes : Listing) :
    interpret (w.dropWhile isBlank ++ s) nodes = interpret (w ++ s) nodes := by
  rw [interpret, interpret, ← understand_trim, Text.trim_dropWhile_append, understand_trim]

theorem undisturbed_dropWhile_iff (w : Text) :
    Undisturbed (w.dropWhile isBlank) ↔ Undisturbed w := by
  simp only [Undisturbed, interpret_dropWhile_append]

theorem count_dropWhile (w : Text) : (w.dropWhile isBlank).count 'İ' = w.count 'İ' := by
  have hblank : (w.takeWhile isBlank).count 'İ' = 0 :=
    List.count_eq_zero.2 fun h => absurd (List.mem_takeWhile_imp h) (by decide)
  have hsplit := congrArg (List.count 'İ') (List.takeWhile_append_dropWhile (p := isBlank) (l := w))
  rwa [List.count_append, hblank, Nat.zero_add] at hsplit

end dropWhile

theorem Chatter.lead (h : Chatter w) (hquiet : Quiet w) : Lead (w.dropWhile isBlank) := by
  refine ⟨?_, ⟨fun c hc => ?_, ?_⟩, ⟨?_, ?_⟩⟩
  · obtain ⟨c, hc, hseen⟩ := Text.trim_ne_nil_iff.1 h.visible
    have hfirst := List.head?_dropWhile_not isBlank w
    cases hrest : w.dropWhile isBlank with
    | nil => simp [List.dropWhile_eq_nil_iff.1 hrest c hc] at hseen
    | cons d rest =>
      rw [hrest] at hfirst
      simpa using hfirst
  · exact h.unmarked.marks c ((List.dropWhile_suffix _).subset hc)
  · exact fun hword => h.unmarked.naming hword.of_dropWhile
  · rw [lower_dropWhile]
    exact fun hword => hquiet.verbs hword.of_dropWhile
  · rw [lower_dropWhile]
    exact fun hword => hquiet.edges hword.of_dropWhile

end Utterance

open Utterance

/-- Chatter in front of a request for an edge makes no difference to it unless it has dotted capital
letters I. These are longer in lower case, so the ends are looked for too far behind, and from the
second one on this is noticed. -/
theorem interpret_behindChatter (h : Chatter w) :
    ('İ' ∉ w → Undisturbed w) ∧ (Quiet w → (Undisturbed w ↔ w.count 'İ' ≤ 1)) := by
  have hiff : Quiet w → (Undisturbed w ↔ w.count 'İ' ≤ 1) := by
    intro hquiet
    rw [← undisturbed_dropWhile_iff, ← count_dropWhile]
    exact (h.lead hquiet).undisturbed_iff
  refine ⟨fun hdotted => (hiff (h.quiet hdotted)).2 ?_, hiff⟩
  rw [List.count_eq_zero.2 hdotted]
  exact Nat.zero_le 1

/-- One dotted capital I does no harm: only the space after the edge word is lost. -/
theorem interpret_behindChatter_istanbul :
    Chatter "İstanbul:".toList ∧ Quiet "İstanbul:".toList ∧ Undisturbed "İstanbul:".toList := by
  have hchatter : Chatter "İstanbul:".toList := ⟨by decide, by decide, by decide, by decide⟩
  have hquiet : Quiet "İstanbul:".toList := ⟨by decide, by decide⟩
  exact ⟨hchatter, hquiet, ((interpret_behindChatter hchatter).2 hquiet).2 (by decide)⟩

/-- Two of them take the first letter of "from" with them. -/
theorem interpret_behindChatter_dotted :
    Chatter "İİ".toList ∧
      interpret "İİ add an edge from node 1 to node 2".toList swapped =
        .ok (.unknown edgeNotFoundMessage) ∧
      interpret "add an edge from node 1 to node 2".toList swapped =
        .ok (.connect "2".toList "1".toList) := by
  have hlead : Lead "İİ".toList := ⟨by decide, by decide, ⟨by decide, by decide⟩⟩
  refine ⟨⟨by decide, by decide, by decide, by decide⟩, ?_, ?_⟩
  · exact (hlead.addEdge_behind 1 2 swapped).trans (by decide +kernel)
  · exact (interpret_addEdge 1 2 swapped).trans (by decide +kernel)

end FlowTalk
