import FlowTalk.Proofs.Pattern.Forward
import FlowTalk.Proofs.Utterance.InQuotes
import FlowTalk.Proofs.Utterance.Marker
import FlowTalk.Proofs.Utterance.Pieces
import FlowTalk.Proofs.Utterance.Verb
import Mathlib.Tactic.IntervalCases

/-! Commands with two labels in quotes: when the slots of the draft are the labels. -/
namespace FlowTalk
open Pattern Vocabulary

variable {t a b w l : Text} {labelWords : Bool} {c : Char}

namespace Utterance

/-- The match of a quotation that opens a text. -/
def quotedMatch (a rest : Text) : Match :=
  ⟨[], inQuotes a, rest, [⟨1, a ++ '"' :: rest, a.length⟩]⟩

theorem piece_quotedMatch (a rest : Text) : (quotedMatch a rest).piece 1 = a := by
  simp [quotedMatch, Match.piece, Match.piece?, Captured.piece]

theorem inQuotes_append (a rest : Text) : inQuotes a ++ rest = '"' :: (a ++ '"' :: rest) := by
  simp [inQuotes]

theorem getLast?_inQuotes (a : Text) : (inQuotes a).getLast? = some '"' := by
  simp [inQuotes, List.getLast?_cons]

theorem searchAfter_quote_nil : quotation.searchAfter (some '"') [] = none := rfl

section quoted

variable (hne : a ≠ []) (hquote : '"' ∉ a)
include hne hquote

theorem matchAfter_inQuotes (before : Option Char) (rest : Text) :
    quotation.matchAfter before (inQuotes a ++ rest) = some (quotedMatch a rest) := by
  have hinside : ∀ c ∈ a, (c != '"') = true := by
    intro c hc
    have hne : c ≠ '"' := by
      rintro rfl
      exact hquote hc
    simpa using hne
  have hclose : (letter '"').run (Place.record 1 ⟨some '"', a ++ '"' :: rest, 1, []⟩
      ⟨a.getLast?.or (some '"'), '"' :: rest, 1 + a.length, []⟩) some =
        some ⟨some '"', rest, a.length + 2, [⟨1, a ++ '"' :: rest, a.length⟩]⟩ := by
    simp [letter, run, Place.record, Place.step, baseLetter, Nat.add_comm 1, Nat.add_assoc]
  have hinner : (some1 (char fun c => c != '"')).run ⟨some '"', a ++ '"' :: rest, 1, []⟩
      (fun s => (letter '"').run (Place.record 1 ⟨some '"', a ++ '"' :: rest, 1, []⟩ s) some) =
        some ⟨some '"', rest, a.length + 2, [⟨1, a ++ '"' :: rest, a.length⟩]⟩ :=
    run_some1_char hinside hne (by simp) hclose
  have hbetween : (between '"' '"').run ⟨before, '"' :: (a ++ '"' :: rest), 0, []⟩ some =
      some ⟨some '"', rest, a.length + 2, [⟨1, a ++ '"' :: rest, a.length⟩]⟩ := hinner
  have hquotation : quotation.run ⟨before, '"' :: (a ++ '"' :: rest), 0, []⟩ some =
      some ⟨some '"', rest, a.length + 2, [⟨1, a ++ '"' :: rest, a.length⟩]⟩ :=
    run_or_of_some (run_or_of_some (run_or_of_some hbetween))
  rw [inQuotes_append, matchAfter_of_run hquotation]
  simp [Match.ofPlace, quotedMatch, inQuotes, List.take_append, List.take_of_length_le]

/-- Behind a text without quote marks, what stands in quotes is the only quotation. -/
theorem quotations_append_inQuotes {front : Text} (hfront : ∀ c ∈ front, isQuoteMark c = false) :
    quotations (front ++ inQuotes a) = [Text.trim a] := by
  have hmatch := searchAfter_of_match (matchAfter_inQuotes hne hquote (front.getLast?.or none) [])
  rw [List.append_nil] at hmatch
  have hfound : quotation.searchAfter none (front ++ inQuotes a) =
      some { quotedMatch a [] with head := front ++ [] } :=
    (opensWith_quotation.searchAfter_append hfront).trans (congrArg _ hmatch)
  have hbody : (quotedMatch a []).body ≠ [] := by simp [quotedMatch, inQuotes]
  have hlast : (quotedMatch a []).body.getLast? = some '"' := getLast?_inQuotes a
  obtain ⟨c, fuel, hfuel⟩ : ∃ c fuel, front ++ inQuotes a = c :: fuel :=
    List.exists_cons_of_ne_nil (by simp [inQuotes])
  have hall : quotation.allMatches (front ++ inQuotes a) =
      [{ quotedMatch a [] with head := front ++ [] }] := by
    rw [allMatches]
    nth_rewrite 1 [hfuel]
    rw [matchesAfter_of_some hfound hbody, hlast]
    exact congrArg _ (matchesAfter_of_none searchAfter_quote_nil _)
  rw [quotations, hall, List.map_singleton]
  exact congrArg (fun l => [Text.trim l]) (piece_quotedMatch a [])

theorem mention?_inQuotes (hblank : Text.trim a ≠ []) :
    mention? labelWords (inQuotes a) = .ok (some (.label (Text.trim a))) := by
  rw [mention?, ← List.nil_append (inQuotes a), quotations_append_inQuotes hne hquote (by simp)]
  simp [hblank]

/-- The second quotation is found behind the word between them. -/
theorem replace_quotedPair (hneb : b ≠ []) (hquoteb : '"' ∉ b) (new : Text) :
    quotation.replace new (quotedPair a "to".toList b) = new ++ (" to ".toList ++ new) := by
  have hfirst : quotation.searchAfter none (quotedPair a "to".toList b) =
      some (quotedMatch a (" to ".toList ++ inQuotes b)) :=
    searchAfter_of_match (matchAfter_inQuotes hne hquote none (" to ".toList ++ inQuotes b))
  have hbetween : ∀ i < " to ".toList.length,
      quotation.matchAfter ((" to ".toList.take i).getLast?.or (some '"'))
        (" to ".toList.drop i ++ inQuotes b) = none := by
    intro i (hi : i < 4)
    interval_cases i <;> rfl
  have hmatch := searchAfter_of_match (matchAfter_inQuotes hneb hquoteb (some ' ') [])
  rw [List.append_nil] at hmatch
  have hsecond : quotation.searchAfter (some '"') (" to ".toList ++ inQuotes b) =
      some { quotedMatch b [] with head := " to ".toList } :=
    (searchAfter_append hbetween).trans (congrArg _ hmatch)
  obtain ⟨c, a, rfl⟩ := List.exists_cons_of_ne_nil hne
  have hback : ∀ fuel, quotation.replaceAfter new (c :: fuel) (some '"')
      (" to ".toList ++ inQuotes b) = " to ".toList ++ new := by
    intro fuel
    rw [replaceAfter_of_some hsecond (by simp [quotedMatch, inQuotes])]
    simp only [quotedMatch, getLast?_inQuotes, replaceAfter_of_none searchAfter_quote_nil,
      List.append_nil]
  have hfront : ∀ fuel, quotation.replaceAfter new ('"' :: c :: fuel) none
      (quotedPair (c :: a) "to".toList b) = new ++ (" to ".toList ++ new) := by
    intro fuel
    rw [replaceAfter_of_some hfirst (by simp [quotedMatch, inQuotes])]
    simp only [quotedMatch, getLast?_inQuotes, hback, List.nil_append]
  exact hfront _

end quoted

theorem isInfix_of_mention? (h : mention? labelWords t = .ok (some (.label l))) : l <:+: t := by
  rcases mention?_cases h with ⟨quoted, others, hq, _, hl⟩ | ⟨_, _, ⟨n, _, hl⟩ | ⟨_, hl⟩⟩
  · cases hl
    exact isInfix_of_mem_quotations (by simp [hq])
  · cases hl
  · cases hl

theorem trim_append_inQuotes {front : Text} (hfirst : (front ++ inQuotes a).head? = some c)
    (hc : isBlank c = false) : Text.trim (front ++ inQuotes a) = front ++ inQuotes a := by
  refine Text.trim_append_eq_self (by simp [inQuotes]) (by simpa [hfirst] using hc) ?_
  rw [getLast?_inQuotes]
  rintro c ⟨⟩
  decide

/-- The ends of a label are no quote marks of any kind. -/
def BareEnds (b : Text) : Prop :=
  (∀ c ∈ b.head?, isQuoteMark c = false) ∧ ∀ c ∈ b.getLast?, isQuoteMark c = false

theorem cleanLabel_inQuotes (b : Text) :
    cleanLabel (inQuotes b) = Text.trim (Text.trimWhere isQuoteMark b) := by
  have htrim : Text.trim (inQuotes b) = inQuotes b := by
    refine Text.trim_eq_self ?_ ?_
    · simp only [inQuotes, List.head?_cons, Option.mem_some_iff, forall_eq']
      decide
    · simp only [getLast?_inQuotes, Option.mem_some_iff, forall_eq']
      decide
  have hmarks : Text.trimEndWhere isEndMark (inQuotes b) = inQuotes b := by
    refine Text.trimEndWhere_eq_self ?_
    simp only [getLast?_inQuotes, Option.mem_some_iff, forall_eq']
    decide
  rw [cleanLabel, htrim, hmarks, htrim, inQuotes, Text.trimWhere_cons (by decide),
    Text.trimWhere_concat (by decide)]

theorem inked_of_isQuoteMark (hmark : isQuoteMark c = true) (hc : c ≠ '"') : inked [c] = 1 := by
  have hvisible : ∀ c ∈ "\"'“”‘’".toList, isBlank c = false :=
    List.all_iff_forall_prop.1 (by decide)
  have hblank := hvisible c (List.contains_iff_mem.1 hmark)
  simp [inked, hblank, hc]

theorem cleanLabel_inQuotes_eq_iff (hquote : '"' ∉ b) :
    cleanLabel (inQuotes b) = Text.trim b ↔ BareEnds b := by
  rw [cleanLabel_inQuotes]
  constructor
  · intro h
    have hsame := congrArg inked h
    rw [inked_trim, inked_trim] at hsame
    -- a quote mark at an end would be missing in the label
    refine ⟨fun c hc => Bool.eq_false_iff.2 fun hmark => ?_,
      fun c hc => Bool.eq_false_iff.2 fun hmark => ?_⟩
    · obtain ⟨b, rfl⟩ := List.head?_eq_some_iff.1 hc
      have hone := inked_of_isQuoteMark hmark fun hc => hquote (by simp [hc])
      have hle := inked_le (Text.trimWhere_isInfix isQuoteMark b)
      rw [Text.trimWhere_cons hmark, ← List.singleton_append, inked_append] at hsame
      omega
    · obtain ⟨b, rfl⟩ := List.getLast?_eq_some_iff.1 hc
      have hone := inked_of_isQuoteMark hmark fun hc => hquote (by simp [hc])
      have hle := inked_le (Text.trimWhere_isInfix isQuoteMark b)
      rw [Text.trimWhere_concat hmark, inked_append] at hsame
      omega
  · rintro ⟨hfirst, hlast⟩
    rw [Text.trimWhere_eq_self hfirst hlast]

section slots

variable (hblanka : Text.trim a ≠ []) (hblankb : Text.trim b ≠ []) (hquotea : '"' ∉ a)
  (hquoteb : '"' ∉ b)
include hblanka hquotea hblankb hquoteb

theorem ends_quotedPair_iff {word : String} (hword : word ∈ pairPhrases)
    (hsmall : ∀ c ∈ word.toList, c.isLower = true) :
    ends (quotedPair a word.toList b) = .ok (some (.label (Text.trim a), .label (Text.trim b))) ↔
      '\n' ∉ a ∧ '\n' ∉ b ∧ ¬ Splits pairPhrases a := by
  have hvisible : Visible pairPhrases := by decide
  have hblank : ∀ c ∈ word.toList, isBlank c = false := fun c hc => isBlank_of_isLower (hsmall c hc)
  constructor
  · intro h
    rcases ends_cases h with ⟨m, hm, hsource, htarget⟩ | ⟨_, _, _, _, _, _, hsource, _⟩
    · rw [pairSplit_eq] at hm
      exact whole_of_divided hvisible spells_pair progressive_pair hblank hm
        (isInfix_of_mention? hsource) (isInfix_of_mention? htarget)
    · cases hsource
  · rintro ⟨ha, hb, hsplits⟩
    obtain ⟨m, hm, hfirst, hsecond⟩ := divided_in_quotes hvisible spells_pair progressive_pair
      (worded_self hword hsmall) hblank ha hb hsplits
    have hnea := Text.ne_nil_of_trim hblanka
    have hneb := Text.ne_nil_of_trim hblankb
    rw [ends, pairSplit_eq, hm]
    simp only [hfirst, hsecond, mention?_inQuotes hnea hquotea hblanka,
      mention?_inQuotes hneb hquoteb hblankb]
    rfl

theorem updateSlots_quotedPair_iff :
    updateSlots (quotedPair a "to".toList b) = .ok (some (.label (Text.trim a)), Text.trim b) ↔
      '\n' ∉ a ∧ '\n' ∉ b ∧ ¬ Splits updatePhrases a ∧ BareEnds b := by
  have hvisible : Visible updatePhrases := by decide
  have hsmall : ∀ c ∈ "to".toList, c.isLower = true := by simp
  have hblank : ∀ c ∈ "to".toList, isBlank c = false := fun c hc => isBlank_of_isLower (hsmall c hc)
  have hnea := Text.ne_nil_of_trim hblanka
  have hneb := Text.ne_nil_of_trim hblankb
  have hdivided : '\n' ∉ a → '\n' ∉ b → ¬ Splits updatePhrases a →
      ∃ m, (divider updateSeparator).matchFront (quotedPair a "to".toList b) = some m ∧
        m.piece 1 = inQuotes a ∧ m.piece 2 = inQuotes b :=
    divided_in_quotes hvisible spells_update progressive_update
      (worded_self (by decide) hsmall) hblank
  constructor
  · intro h
    rcases updateSlots_cases h with ⟨m, hm, hnode, hlabel⟩ | ⟨hnode, _⟩
    · rw [updateSplit_eq] at hm
      have hsecond : Text.trim b <:+: m.piece 2 := by
        rw [hlabel]
        exact cleanLabel_isInfix _
      obtain ⟨ha, hb, hsplits⟩ := whole_of_divided hvisible spells_update progressive_update hblank
        hm (isInfix_of_mention? hnode) hsecond
      obtain ⟨m', hm', _, hpiece⟩ := hdivided ha hb hsplits
      obtain rfl : m = m' := Option.some.inj (hm.symm.trans hm')
      rw [hpiece] at hlabel
      exact ⟨ha, hb, hsplits, (cleanLabel_inQuotes_eq_iff hquoteb).1 hlabel.symm⟩
    · rw [replace_quotedPair hnea hquotea hneb hquoteb] at hnode
      cases hnode
  · rintro ⟨ha, hb, hsplits, hends⟩
    obtain ⟨m, hm, hfirst, hsecond⟩ := hdivided ha hb hsplits
    rw [updateSlots, updateSplit_eq, hm]
    simp only [hfirst, hsecond, mention?_inQuotes hnea hquotea hblanka,
      (cleanLabel_inQuotes_eq_iff hquoteb).2 hends]
    rfl

end slots

/-- The requests about two labels in quotes. -/
def connectQuoted (a b : Text) : Text := "connect ".toList ++ quotedPair a "to".toList b

def disconnectQuoted (a b : Text) : Text := "disconnect ".toList ++ quotedPair a "from".toList b

def renameQuoted (a b : Text) : Text := "rename ".toList ++ quotedPair a "to".toList b

theorem trim_before_quotedPair {front : Text} {c : Char}
    (hfirst : (front ++ quotedPair a w b).head? = some c) (hc : isBlank c = false) :
    Text.trim (front ++ quotedPair a w b) = front ++ quotedPair a w b := by
  refine Text.trim_append_eq_self (by simp [quotedPair, inQuotes]) (by simpa [hfirst] using hc) ?_
  rw [quotedPair_eq_concat, List.getLast?_concat]
  rintro c ⟨⟩
  decide

theorem after_quotedPair {group : List String} {verb : Text}
    (h : (wholeWord group).matchAfter none t = some ⟨[], verb, ' ' :: quotedPair a w b, []⟩) :
    after group t = quotedPair a w b := by
  have hself : Text.trim ([] ++ quotedPair a w b) = [] ++ quotedPair a w b :=
    trim_before_quotedPair rfl rfl
  exact (after_of_match h).trans ((Text.trimWhere_cons rfl).trans hself)

theorem edgeBody_quotedPair {group : List String}
    (hlead : (leadsWith group).occursIn (head t) = true)
    (hafter : after group t = quotedPair a w b) : edgeBody group t = quotedPair a w b := by
  have hedge : leadingEdgeWord.search (quotedPair a w b) = none :=
    (atStart_leadingEdgeWord.search_eq_matchFront _).trans rfl
  have hbetween : leadingBetween.search (quotedPair a w b) = none :=
    (atStart_leadingBetween.search_eq_matchFront _).trans rfl
  rw [edgeBody, if_pos hlead, hafter, erase_eq_self hedge, erase_eq_self hbetween]

variable {source target node : Mention} {label : Text} {nodes : Listing}

theorem understand_connectQuoted_iff :
    understand (connectQuoted a b) nodes = .ok (.connect source target) ↔
      ends (quotedPair a "to".toList b) = .ok (some (source, target)) := by
  have htrim : Text.trim (connectQuoted a b) = connectQuoted a b := trim_before_quotedPair rfl rfl
  have hcut : (labelMarker.search (connectQuoted a b)).map Match.head =
      some "connect ".toList := rfl
  have hhead : head (connectQuoted a b) = "connect".toList := head_of_cut hcut
  have hafter : after connectVerbs (connectQuoted a b) = quotedPair a "to".toList b :=
    after_quotedPair rfl
  have hdetector : ⟨.connect, asksToConnect, draftConnect⟩ ∈ detectors := by simp [detectors]
  rw [understand_of_accepts hdetector htrim (by rw [hhead]; decide), draftConnect_eq_connect_iff,
    edgeBody_quotedPair (by rw [hhead]; decide) hafter]

theorem understand_disconnectQuoted_iff :
    understand (disconnectQuoted a b) nodes = .ok (.disconnect source target) ↔
      ends (quotedPair a "from".toList b) = .ok (some (source, target)) := by
  have htrim : Text.trim (disconnectQuoted a b) = disconnectQuoted a b :=
    trim_before_quotedPair rfl rfl
  have hcut : (labelMarker.search (disconnectQuoted a b)).map Match.head =
      some "disconnect ".toList := rfl
  have hhead : head (disconnectQuoted a b) = "disconnect".toList := head_of_cut hcut
  have hafter : after disconnectVerbs (disconnectQuoted a b) = quotedPair a "from".toList b :=
    after_quotedPair rfl
  have hdetector : ⟨.disconnect, asksToDisconnect, draftDisconnect⟩ ∈ detectors := by
    simp [detectors]
  rw [understand_of_accepts hdetector htrim (by rw [hhead]; decide),
    draftDisconnect_eq_disconnect_iff, edgeBody_quotedPair (by rw [hhead]; decide) hafter]

theorem understand_renameQuoted_iff :
    understand (renameQuoted a b) nodes = .ok (.update node label) ↔
      updateSlots (quotedPair a "to".toList b) = .ok (some node, label) ∧ label ≠ [] := by
  have htrim : Text.trim (renameQuoted a b) = renameQuoted a b := trim_before_quotedPair rfl rfl
  have hcut : (labelMarker.search (renameQuoted a b)).map Match.head = some "rename ".toList := rfl
  have hhead : head (renameQuoted a b) = "rename".toList := head_of_cut hcut
  have hafter : after updateVerbs (renameQuoted a b) = quotedPair a "to".toList b :=
    after_quotedPair rfl
  have hdetector : ⟨.update, asksToUpdate, draftUpdate⟩ ∈ detectors := by simp [detectors]
  rw [understand_of_accepts hdetector htrim (by rw [hhead]; decide), draftUpdate_eq_update_iff,
    hafter]

/-- Two labels in quotes become the slots of the draft exactly if both are of one line, no
separator stands in the first with white space around it, and a new label neither begins nor ends
with a quote mark of another kind. -/
theorem understand_quoted_iff (hblanka : Text.trim a ≠ []) (hblankb : Text.trim b ≠ [])
    (hquotea : '"' ∉ a) (hquoteb : '"' ∉ b) (nodes : Listing) :
    (understand (connectQuoted a b) nodes =
        .ok (.connect (.label (Text.trim a)) (.label (Text.trim b))) ↔
      '\n' ∉ a ∧ '\n' ∉ b ∧ ¬ Splits pairPhrases a) ∧
    (understand (disconnectQuoted a b) nodes =
        .ok (.disconnect (.label (Text.trim a)) (.label (Text.trim b))) ↔
      '\n' ∉ a ∧ '\n' ∉ b ∧ ¬ Splits pairPhrases a) ∧
    (understand (renameQuoted a b) nodes = .ok (.update (.label (Text.trim a)) (Text.trim b)) ↔
      '\n' ∉ a ∧ '\n' ∉ b ∧ ¬ Splits updatePhrases a ∧ BareEnds b) := by
  refine ⟨?_, ?_, ?_⟩
  · rw [understand_connectQuoted_iff,
      ends_quotedPair_iff hblanka hblankb hquotea hquoteb (by decide) (by simp)]
  · rw [understand_disconnectQuoted_iff,
      ends_quotedPair_iff hblanka hblankb hquotea hquoteb (by decide) (by simp)]
  · rw [understand_renameQuoted_iff, and_iff_left hblankb,
      updateSlots_quotedPair_iff hblanka hblankb hquotea hquoteb]

/-- A separator in the second label does no harm. -/
theorem understand_quoted_goToEnd :
    (Text.trim "Menu".toList ≠ [] ∧ Text.trim "Go to End".toList ≠ [] ∧ '"' ∉ "Menu".toList ∧
      '"' ∉ "Go to End".toList) ∧
    understand (connectQuoted "Menu".toList "Go to End".toList) [] =
      .ok (.connect (.label "Menu".toList) (.label "Go to End".toList)) := by
  have hgiven : Text.trim "Menu".toList ≠ [] ∧ Text.trim "Go to End".toList ≠ [] ∧
      '"' ∉ "Menu".toList ∧ '"' ∉ "Go to End".toList := by decide
  have hwhole : ¬ Splits pairPhrases "Menu".toList :=
    not_splits (List.all_iff_forall_prop.1 (by decide))
  have hiff := understand_quoted_iff hgiven.1 hgiven.2.1 hgiven.2.2.1 hgiven.2.2.2 []
  exact ⟨hgiven, hiff.1.2 ⟨by decide, by decide, hwhole⟩⟩

/-- A separator in the first label divides the text there. -/
theorem understand_renameQuoted_goToMenu :
    understand (renameQuoted "Go to Menu".toList "End".toList) [] =
        .ok (.update (.phrase "Go".toList) "Menu\" to \"End".toList) ∧
      understand (renameQuoted "Go to Menu".toList "End".toList) [] ≠
        .ok (.update (.label "Go to Menu".toList) "End".toList) := by
  have hread : understand (renameQuoted "Go to Menu".toList "End".toList) [] =
      .ok (.update (.phrase "Go".toList) "Menu\" to \"End".toList) := by rfl
  refine ⟨hread, ?_⟩
  rw [hread]
  decide

end Utterance

end FlowTalk
