import FlowTalk.Proofs.Pattern.LetterCase
import FlowTalk.Proofs.Except
import FlowTalk.Utterance.Detector

/-! Letter case does not change what is understood. -/
namespace FlowTalk
open Pattern

namespace Vocabulary

@[simp]
theorem ignoresCase_edgeWord : edgeWord.IgnoresCase := ignoresCase_wholeWord edgeWords

@[simp]
theorem ignoresCase_nodeWord : nodeWord.IgnoresCase := ignoresCase_wholeWord nodeWords

@[simp]
theorem ignoresCase_labelMarker : labelMarker.IgnoresCase := by simp [labelMarker]

theorem ignoresCase_between {opening closing : Char} (h : FlowTalk.IgnoresCase (· != closing)) :
    (between opening closing).IgnoresCase := by
  simpa [between] using h

@[simp]
theorem ignoresCase_quotation : quotation.IgnoresCase := by
  have hplain : (between '"' '"').IgnoresCase :=
    ignoresCase_between (ignoresCase_of_capitals (by decide))
  have hdouble : (between '“' '”').IgnoresCase :=
    ignoresCase_between (ignoresCase_of_capitals (by decide))
  have hstraight : (between '\'' '\'').IgnoresCase :=
    ignoresCase_between (ignoresCase_of_capitals (by decide))
  have hsingle : (between '‘' '’').IgnoresCase :=
    ignoresCase_between (ignoresCase_of_capitals (by decide))
  simp [quotation, hplain, hdouble, hstraight, hsingle, ignoresCase_isWord]

@[simp]
theorem ignoresCase_restOfText (slot : Nat) : (restOfText slot).IgnoresCase := by
  simp [restOfText]

@[simp]
theorem ignoresCase_namedLabel : namedLabel.IgnoresCase := by simp [namedLabel]

theorem ignoresCase_newLabels : ∀ p ∈ newLabels, p.IgnoresCase := by simp [newLabels]

@[simp]
theorem ignoresCase_nodeNumber : nodeNumber.IgnoresCase := by simp [nodeNumber]

@[simp]
theorem ignoresCase_twoNumbers : twoNumbers.IgnoresCase := by
  have hgap : FlowTalk.IgnoresCase fun c => !isDigit c :=
    fun c => congrArg Bool.not (ignoresCase_isDigit c)
  simp [twoNumbers, hgap]

@[simp]
theorem ignoresCase_shortest (slot : Nat) : (shortest slot).IgnoresCase := by simp [shortest]

@[simp]
theorem ignoresCase_updateSplit : updateSplit.IgnoresCase := by simp [updateSplit]

@[simp]
theorem ignoresCase_pairSplit : pairSplit.IgnoresCase := by simp [pairSplit]

@[simp]
theorem ignoresCase_leadingArticles : leadingArticles.IgnoresCase := by simp [leadingArticles]

@[simp]
theorem ignoresCase_trailingNodeWord : trailingNodeWord.IgnoresCase := by simp [trailingNodeWord]

@[simp]
theorem ignoresCase_leadingLabelOf : leadingLabelOf.IgnoresCase := by simp [leadingLabelOf]

@[simp]
theorem ignoresCase_trailingLabelWord : trailingLabelWord.IgnoresCase := by
  simp [trailingLabelWord]

@[simp]
theorem ignoresCase_leadingBetween : leadingBetween.IgnoresCase := by simp [leadingBetween]

@[simp]
theorem ignoresCase_leadingEdgeWord : leadingEdgeWord.IgnoresCase := by simp [leadingEdgeWord]

@[simp]
theorem ignoresCase_trailingFiller : trailingFiller.IgnoresCase := by simp [trailingFiller]

@[simp]
theorem ignoresCase_ordinalPhrase : ordinalPhrase.IgnoresCase := by simp [ordinalPhrase]

end Vocabulary

open Vocabulary

variable {t t' : Text} {nodes : Listing} {labelWords : Bool} {group : List String}

@[simp]
theorem ordinal?_small (t : Text) : ordinal? (small t) = ordinal? t := by
  rw [ordinal?, ordinal?, Text.trim_small, matchFront_small ignoresCase_ordinalPhrase]
  cases ordinalPhrase.matchFront (Text.trim t) with
  | none => rfl
  | some m => simp [Match.piece_small]

namespace Mention

def small : Mention → Mention
  | .ordinal n text => .ordinal n (FlowTalk.small text)
  | .label text => .label (FlowTalk.small text)
  | .phrase text => .phrase (FlowTalk.small text)

theorem ofOrdinal_small (n : Nat) (text : Text) :
    ofOrdinal n (FlowTalk.small text) = (ofOrdinal n text).small := by
  by_cases htext : text = []
  · have hnumber : FlowTalk.small (Text.ofInt n) = Text.ofInt n := Text.small_ofNat n
    simp [ofOrdinal, small, htext, hnumber]
  · simp [ofOrdinal, small, htext]

/-- The same mention in texts that differ in the case of letters. -/
structure Alike (m m' : Mention) : Prop where
  number : m.ordinal? = m'.ordinal?
  isLabel : m.isLabel = m'.isLabel
  text : FlowTalk.small m.text = FlowTalk.small m'.text

theorem ordinal?_small (m : Mention) : m.small.ordinal? = m.ordinal? := by cases m <;> rfl

theorem isLabel_small (m : Mention) : m.small.isLabel = m.isLabel := by cases m <;> rfl

theorem text_small (m : Mention) : m.small.text = FlowTalk.small m.text := by cases m <;> rfl

theorem alike_of_small {m m' : Mention} (h : m.small = m'.small) : m.Alike m' := by
  refine ⟨?_, ?_, ?_⟩
  · rw [← ordinal?_small m, h, ordinal?_small]
  · rw [← isLabel_small m, h, isLabel_small]
  · rw [← text_small m, h, text_small]

theorem small_small (m : Mention) : m.small.small = m.small := by
  cases m <;> simp [small]

end Mention

namespace Draft

def small (d : Draft) : Draft :=
  { d with
    label := d.label.map FlowTalk.small
    node := d.node.map Mention.small
    source := d.source.map Mention.small
    target := d.target.map Mention.small }

/-- The same draft from texts that differ in the case of letters. -/
structure Alike (d d' : Draft) : Prop where
  intent : d.intent = d'.intent
  message : d.message = d'.message
  label : Option.Rel (fun l l' => FlowTalk.small l = FlowTalk.small l') d.label d'.label
  node : Option.Rel Mention.Alike d.node d'.node
  source : Option.Rel Mention.Alike d.source d'.source
  target : Option.Rel Mention.Alike d.target d'.target

/-- A slot is filled in both drafts or in neither. -/
theorem rel_of_map {α β : Type} {f : α → β} {R : α → α → Prop} (h : ∀ {a b}, f a = f b → R a b)
    {x y : Option α} (hxy : x.map f = y.map f) : Option.Rel R x y := by
  cases x with
  | none =>
    cases y with
    | none => exact .none
    | some b => cases hxy
  | some a =>
    cases y with
    | none => cases hxy
    | some b => exact .some (h (Option.some.inj hxy))

theorem alike_of_small {d d' : Draft} (h : d.small = d'.small) : d.Alike d' where
  intent := (congrArg intent h : d.small.intent = d'.small.intent)
  message := (congrArg message h : d.small.message = d'.small.message)
  label := rel_of_map id (congrArg label h)
  node := rel_of_map Mention.alike_of_small (congrArg node h)
  source := rel_of_map Mention.alike_of_small (congrArg source h)
  target := rel_of_map Mention.alike_of_small (congrArg target h)

theorem small_small (d : Draft) : d.small.small = d.small := by
  have hmention : Mention.small ∘ Mention.small = Mention.small := funext Mention.small_small
  have htext : FlowTalk.small ∘ FlowTalk.small = FlowTalk.small := funext FlowTalk.small_small
  simp [small, hmention, htext]

end Draft

namespace Utterance

@[simp]
theorem head_small (t : Text) : head (small t) = head t := by
  rw [head, head, search_small ignoresCase_labelMarker]
  cases labelMarker.search t with
  | none => exact congrArg Text.trim (lower_small t)
  | some m => exact congrArg Text.trim (lower_small m.head)

@[simp]
theorem quotations_small (t : Text) : quotations (small t) = (quotations t).map small := by
  rw [quotations, quotations, allMatches_small ignoresCase_quotation, List.map_map, List.map_map]
  refine List.map_congr_left fun m _ => ?_
  simp [Match.piece_small]

@[simp]
theorem cleanLabel_small (t : Text) : cleanLabel (small t) = small (cleanLabel t) := by
  have hquote : IgnoresCase isQuoteMark := ignoresCase_of_capitals (by decide)
  have hend : IgnoresCase isEndMark := ignoresCase_of_capitals (by decide)
  simp only [cleanLabel, Text.trim_small, Text.trimEndWhere_small hend,
    Text.trimWhere_small hquote]

theorem withoutLabelWords_small (t : Text) :
    withoutLabelWords (small t) = small (withoutLabelWords t) := by
  simp only [withoutLabelWords, erase_small ignoresCase_leadingLabelOf,
    erase_small ignoresCase_trailingLabelWord]

@[simp]
theorem cleanFragment_small (labelWords : Bool) (t : Text) :
    cleanFragment labelWords (small t) = small (cleanFragment labelWords t) := by
  cases labelWords <;>
    simp only [cleanFragment, cleanLabel_small, withoutLabelWords_small, if_true, if_false,
      Bool.false_eq_true, erase_small ignoresCase_trailingFiller,
      erase_small ignoresCase_leadingArticles, erase_small ignoresCase_trailingNodeWord]

@[simp]
theorem mention?_small (labelWords : Bool) (t : Text) :
    mention? labelWords (small t) = (mention? labelWords t).map (Option.map Mention.small) := by
  rw [mention?, mention?, quotations_small]
  cases quotations t with
  | cons quoted rest =>
    by_cases hempty : quoted = []
    · simp [hempty, Except.map]
    · simp [hempty, Except.map, Mention.small]
  | nil =>
    by_cases hempty : cleanFragment labelWords t = []
    · simp [hempty, Except.map]
    · cases hnumber : ordinal? (cleanFragment labelWords t) with
      | error e => simp [hempty, hnumber, Except.map]
      | ok number =>
        cases number with
        | none => simp [hempty, hnumber, Except.map, Mention.small]
        | some n => simp [hempty, hnumber, Except.map, Mention.ofOrdinal_small]

@[simp]
theorem after_small (group : List String) (t : Text) :
    after group (small t) = small (after group t) := by
  rw [after, after, search_small (ignoresCase_wholeWord group)]
  cases (wholeWord group).search t with
  | none => rfl
  | some m => exact Text.trim_small m.tail

theorem firstLabel_small {places : List Pattern} (h : ∀ p ∈ places, p.IgnoresCase) (t : Text) :
    firstLabel (small t) places = small (firstLabel t places) := by
  induction places with
  | nil => rfl
  | cons p rest ih =>
    obtain ⟨hp, hrest⟩ := List.forall_mem_cons.1 h
    rw [firstLabel, firstLabel, search_small hp]
    cases p.search t with
    | none => exact ih hrest
    | some m =>
      by_cases hempty : cleanLabel (m.piece 1) = []
      · simpa [Match.piece_small, hempty] using ih hrest
      · simp [Match.piece_small, hempty]

@[simp]
theorem newLabel_small (t : Text) : newLabel (small t) = small (newLabel t) := by
  have hplaces := firstLabel_small ignoresCase_newLabels t
  rw [newLabel, newLabel, quotations_small]
  cases quotations t with
  | nil => exact hplaces
  | cons quoted rest =>
    by_cases hempty : quoted = []
    · simpa [hempty] using hplaces
    · simp [hempty]

@[simp]
theorem givenLabel?_small (t : Text) : givenLabel? (small t) = (givenLabel? t).map small := by
  have hnamed : ((namedLabel.search (small t)).bind fun m =>
      let label := cleanLabel (m.piece 1)
      if label.isEmpty then none else some label) =
      ((namedLabel.search t).bind fun m =>
        let label := cleanLabel (m.piece 1)
        if label.isEmpty then none else some label).map small := by
    rw [search_small ignoresCase_namedLabel]
    cases namedLabel.search t with
    | none => rfl
    | some m =>
      by_cases hempty : cleanLabel (m.piece 1) = []
      · simp [Match.piece_small, hempty]
      · simp [Match.piece_small, hempty]
  rw [givenLabel?, givenLabel?, hnamed, quotations_small]
  cases quotations t with
  | nil => rfl
  | cons quoted rest =>
    by_cases hempty : quoted = []
    · simp [hempty]
    · simp [hempty]

theorem updateSlots_small (body : Text) : updateSlots (small body) =
    (updateSlots body).map fun slots => (slots.1.map Mention.small, small slots.2) := by
  have hsame : small " ".toList = " ".toList := by decide
  have hmention := mention?_small true (quotation.replace " ".toList body)
  rw [← replace_small ignoresCase_quotation, hsame] at hmention
  rw [updateSlots, updateSlots, matchFront_small ignoresCase_updateSplit]
  cases updateSplit.matchFront body with
  | some m =>
    cases hnode : mention? true (m.piece 1) <;>
      simp [Match.piece_small, hnode, Except.map]
  | none =>
    rw [Option.map_none, quotations_small, List.getLast?_map]
    cases (quotations body).getLast? with
    | none => rfl
    | some quoted =>
      change (mention? true (quotation.replace " ".toList (small body))).map _ = Except.map _ _
      rw [hmention]
      cases mention? true (quotation.replace " ".toList body) <;> rfl

@[simp]
theorem edgeBody_small (group : List String) (t : Text) :
    edgeBody group (small t) = small (edgeBody group t) := by
  simp only [edgeBody, head_small]
  split
  · rw [after_small, erase_small ignoresCase_leadingEdgeWord,
      erase_small ignoresCase_leadingBetween]
  · cases edgeWord.search (head t) with
    | none => exact erase_small ignoresCase_leadingBetween []
    | some m =>
      simp only [← small_drop, Text.trim_small, erase_small ignoresCase_leadingBetween]

theorem ends_small (body : Text) : ends (small body) =
    (ends body).map (Option.map fun pair => (pair.1.small, pair.2.small)) := by
  rw [ends, ends, matchFront_small ignoresCase_pairSplit]
  cases pairSplit.matchFront body with
  | some m =>
    have hpiece (slot : Nat) := mention?_small false (m.piece slot)
    simp only [← Match.piece_small] at hpiece
    refine bind_eq_map_bind (hpiece 1) fun source => bind_eq_map_bind (hpiece 2) fun target => ?_
    cases source <;> cases target <;> rfl
  | none =>
    rw [Option.map_none, search_small ignoresCase_twoNumbers]
    cases twoNumbers.search body with
    | none => rfl
    | some m =>
      have hnumber (n : Nat) : (Mention.ofOrdinal n []).small = Mention.ofOrdinal n [] :=
        (Mention.ofOrdinal_small n []).symm
      have hread (slot : Nat) : Numeral.read (m.small.piece slot) =
          (Numeral.read (m.piece slot)).map id := by
        rw [Match.piece_small, Numeral.read_small]
        cases Numeral.read (m.piece slot) <;> rfl
      refine bind_eq_map_bind (hread 1) fun source => bind_eq_map_bind (hread 2) fun target => ?_
      simp [pure, Except.pure, Except.map, hnumber]

theorem draftDelete_small (t : Text) (nodes : Listing) :
    draftDelete (small t) nodes = (draftDelete t nodes).map Draft.small := by
  rw [draftDelete, draftDelete, givenLabel?_small]
  cases givenLabel? t with
  | some label => rfl
  | none =>
    rw [Option.map_none, search_small ignoresCase_nodeNumber]
    cases nodeNumber.search t with
    | some m =>
      simp only [Option.map_some, Match.piece_small, Numeral.read_small]
      cases Numeral.read (m.piece 1) with
      | error e => rfl
      | ok n =>
        have hmention : Mention.ofOrdinal n m.small.body = (Mention.ofOrdinal n m.body).small :=
          Mention.ofOrdinal_small n m.body
        exact congrArg (fun node => Except.ok (Draft.delete node)) hmention
    | none =>
      simp only [Option.map_none, after_small, mention?_small]
      rcases mention? false (after deleteVerbs t) with e | _ | node <;> rfl

theorem draftUpdate_small (t : Text) (nodes : Listing) :
    draftUpdate (small t) nodes = (draftUpdate t nodes).map Draft.small := by
  rw [draftUpdate, draftUpdate, after_small, updateSlots_small]
  cases updateSlots (after updateVerbs t) with
  | error e => rfl
  | ok slots =>
    obtain ⟨node, label⟩ := slots
    cases node with
    | none => rfl
    | some m =>
      by_cases hempty : label = []
      · simp [Except.map, hempty, Draft.small, Draft.unknown]
      · simp [Except.map, hempty, Draft.small, Draft.update]

theorem draftConnect_small (t : Text) (nodes : Listing) :
    draftConnect (small t) nodes = (draftConnect t nodes).map Draft.small := by
  rw [draftConnect, draftConnect, edgeBody_small, ends_small]
  rcases ends (edgeBody connectVerbs t) with e | _ | pair <;> rfl

theorem draftDisconnect_small (t : Text) (nodes : Listing) :
    draftDisconnect (small t) nodes = (draftDisconnect t nodes).map Draft.small := by
  rw [draftDisconnect, draftDisconnect, edgeBody_small, ends_small]
  rcases ends (edgeBody disconnectVerbs t) with e | _ | pair <;> rfl

/-- The label of a new node that is given none keeps its capital. -/
theorem draftAdd_small (t : Text) (nodes : Listing) :
    (draftAdd (small t) nodes).map Draft.small = (draftAdd t nodes).map Draft.small := by
  rw [draftAdd, draftAdd, newLabel_small]
  by_cases hempty : newLabel t = []
  · simp [hempty]
  · simp [hempty, Except.map, Draft.small, Draft.add]

theorem understand_small (t : Text) (nodes : Listing) :
    (understand (small t) nodes).map Draft.small = (understand t nodes).map Draft.small := by
  have hsmall : ∀ x : Drafting, (x.map Draft.small).map Draft.small = x.map Draft.small := by
    rintro (e | d)
    · rfl
    · exact congrArg Except.ok d.small_small
  have hdraft : ∀ found ∈ detectors, ∀ s : Text,
      (found.draft (small s) nodes).map Draft.small = (found.draft s nodes).map Draft.small := by
    intro found hmem s
    simp only [detectors, List.mem_cons, List.not_mem_nil, or_false] at hmem
    rcases hmem with rfl | rfl | rfl | rfl | rfl | rfl
    · exact draftAdd_small s nodes
    · exact (congrArg _ (draftDelete_small s nodes)).trans (hsmall _)
    · exact (congrArg _ (draftUpdate_small s nodes)).trans (hsmall _)
    · exact (congrArg _ (draftConnect_small s nodes)).trans (hsmall _)
    · exact (congrArg _ (draftDisconnect_small s nodes)).trans (hsmall _)
    · rfl
  simp only [understand, Text.trim_small, head_small]
  cases hd : detect (head (Text.trim t)) with
  | none => rfl
  | some found => exact hdraft found (List.mem_of_find?_eq_some hd) (Text.trim t)

/-- Texts that differ in the case of ASCII letters have the same draft, up to the case of its labels
and of the words for its nodes, or they have none for the same reason. -/
theorem understand_alike (h : small t = small t') (nodes : Listing) :
    (∀ d, understand t nodes = .ok d → ∃ d', understand t' nodes = .ok d' ∧ d.Alike d') ∧
      ∀ e, understand t nodes = .error e → understand t' nodes = .error e := by
  have hsame : (understand t nodes).map Draft.small = (understand t' nodes).map Draft.small := by
    rw [← understand_small t, h, understand_small]
  constructor
  · intro d hd
    rw [hd] at hsame
    obtain ⟨d', hd', hsmall⟩ := map_eq_ok.1 hsame.symm
    exact ⟨d', hd', Draft.alike_of_small hsmall.symm⟩
  · intro e he
    rw [he] at hsame
    cases hd : understand t' nodes with
    | error e' => exact congrArg _ (Except.error.inj (hsame.trans (congrArg _ hd))).symm
    | ok d => cases hsame.trans (congrArg _ hd)

theorem understand_alike_logIn :
    small "add a node called Log In".toList = small "ADD A Node CALLED log in".toList ∧
      ∃ d', understand "ADD A Node CALLED log in".toList [] = .ok d' ∧
        (Draft.add "Log In".toList).Alike d' := by
  have hsame : small "add a node called Log In".toList =
      small "ADD A Node CALLED log in".toList := by decide
  have hread : understand "add a node called Log In".toList [] = .ok (.add "Log In".toList) := by
    rfl
  exact ⟨hsame, (understand_alike hsame []).1 _ hread⟩

end Utterance

end FlowTalk
