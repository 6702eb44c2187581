import FlowTalk.Proofs.Interpret.Total
import FlowTalk.Proofs.Utterance.Pieces
import FlowTalk.Proofs.Utterance.Slots

/-! The labels and the words of a draft stand in the utterance as they are. -/
namespace FlowTalk
open Pattern Vocabulary

variable {t body piece quoted label : Text} {m source target : Mention} {d : Draft}
  {nodes : Listing} {p : Pattern} {found : Match} {slot : Nat}

/-- Something stands in a text and has no outer white space. -/
structure Verbatim (t piece : Text) : Prop where
  ne : piece ≠ []
  stands : piece <:+: t
  trimmed : Text.trim piece = piece

theorem Verbatim.within (h : Verbatim body piece) (hbody : body <:+: t) : Verbatim t piece :=
  ⟨h.ne, h.stands.trans hbody, h.trimmed⟩

@[simp]
theorem Mention.ordinal?_ofOrdinal (n : Int) (text : Text) : (ofOrdinal n text).ordinal? = some n :=
  rfl

/-- A draft takes its slots from a text. A new label may be made up, and a node that is mentioned
by number or by a request for a new label may be put in other words. -/
structure Draft.TakenFrom (d : Draft) (t : Text) (nodes : Listing) : Prop where
  label : ∀ label ∈ d.label, Verbatim t label ∨
    d.intent = .add ∧ label = "Node ".toList ++ Text.ofNat (nodes.length + 1)
  mentions : d.intent ≠ .update → ∀ m ∈ d.mentions, m.ordinal? = none → Verbatim t m.text

theorem Draft.takenFrom_unknown (message : Text) : (unknown message).TakenFrom t nodes :=
  ⟨by simp [unknown], by simp [unknown, mentions]⟩

namespace Utterance

theorem verbatim_cleanLabel (hne : cleanLabel t ≠ []) : Verbatim t (cleanLabel t) :=
  ⟨hne, cleanLabel_isInfix t, trim_cleanLabel t⟩

theorem verbatim_of_mem_quotations (h : quoted ∈ quotations t) (hne : quoted ≠ []) :
    Verbatim t quoted :=
  ⟨hne, isInfix_of_mem_quotations h, trim_of_mem_quotations h⟩

theorem verbatim_piece (h : p.search t = some found) (hne : cleanLabel (found.piece slot) ≠ []) :
    Verbatim t (cleanLabel (found.piece slot)) :=
  (verbatim_cleanLabel hne).within ((search_sound h).piece_isInfix slot)

theorem verbatim_firstLabel (places : List Pattern) (hne : firstLabel t places ≠ []) :
    Verbatim t (firstLabel t places) := by
  induction places with
  | nil => exact absurd rfl hne
  | cons p rest ih =>
    rw [firstLabel] at hne ⊢
    cases hs : p.search t with
    | none => exact ih (by simpa [hs] using hne)
    | some found =>
      simp only [hs] at hne ⊢
      split at hne
      · next hempty =>
        rw [if_pos hempty]
        exact ih hne
      · next hempty =>
        rw [if_neg hempty]
        exact verbatim_piece hs hne

theorem verbatim_newLabel (hne : newLabel t ≠ []) : Verbatim t (newLabel t) := by
  rw [newLabel] at hne ⊢
  cases hq : quotations t with
  | nil => exact verbatim_firstLabel newLabels (by simpa [hq] using hne)
  | cons quoted rest =>
    simp only [hq] at hne ⊢
    split at hne
    · next hempty =>
      rw [if_pos hempty]
      exact verbatim_firstLabel newLabels hne
    · next hempty =>
      rw [if_neg hempty]
      exact verbatim_of_mem_quotations (by simp [hq]) hne

theorem verbatim_givenLabel? (h : givenLabel? t = some label) : Verbatim t label := by
  have hnamed : ((namedLabel.search t).bind fun m =>
      let label := cleanLabel (m.piece 1)
      if label.isEmpty then none else some label) = some label → Verbatim t label := by
    intro h
    obtain ⟨found, hs, h⟩ := Option.bind_eq_some_iff.1 h
    obtain ⟨hne, rfl⟩ : cleanLabel (found.piece 1) ≠ [] ∧ cleanLabel (found.piece 1) = label := by
      simpa using h
    exact verbatim_piece hs hne
  rw [givenLabel?] at h
  cases hq : quotations t with
  | nil => exact hnamed (by simpa [hq] using h)
  | cons quoted rest =>
    by_cases hempty : quoted = []
    · exact hnamed (by simpa [hq, hempty] using h)
    · obtain rfl : quoted = label := by simpa [hq, hempty] using h
      exact verbatim_of_mem_quotations (by simp [hq]) hempty

/-- Behind the last noun that is cut off, at most line feeds are left over, and cleaning removes
them. -/
theorem cleanFragment_isInfix (t : Text) : cleanFragment false t <:+: t := by
  have hlast : ∀ c ∈ (cleanLabel t).getLast?, c ≠ '\n' := by
    rintro c hc rfl
    exact absurd ((Text.ends_of_trimWhere_eq (trim_cleanLabel t)).2 _ hc) (by decide)
  have hfiller := atFinish_trailingFiller.erase_isPrefix hlast
  have harticle := atStart_leadingArticles.erase_isSuffix (trailingFiller.erase (cleanLabel t))
  obtain ⟨front, rest, herase, hfront, hrest⟩ :=
    atFinish_trailingNodeWord.erase_eq (leadingArticles.erase (trailingFiller.erase (cleanLabel t)))
  have hblank : ∀ c ∈ rest, isBlank c = true := by
    intro c hc
    rw [hrest c hc]
    decide
  have hcleaned : cleanFragment false t = cleanLabel front := by
    simp only [cleanFragment, Bool.false_eq_true, if_false, herase]
    rw [cleanLabel, Text.trim_append_of_blank hblank, ← cleanLabel]
  rw [hcleaned]
  calc cleanLabel front <:+: front := cleanLabel_isInfix front
    _ <:+: leadingArticles.erase (trailingFiller.erase (cleanLabel t)) := hfront.isInfix
    _ <:+: trailingFiller.erase (cleanLabel t) := harticle.isInfix
    _ <:+: cleanLabel t := hfiller.isInfix
    _ <:+: t := cleanLabel_isInfix t

theorem verbatim_mention? (h : mention? false t = .ok (some m)) (hnumber : m.ordinal? = none) :
    Verbatim t m.text := by
  rcases mention?_cases h with ⟨quoted, rest, hq, hne, rfl⟩ | ⟨_, hne, ⟨n, _, rfl⟩ | ⟨_, rfl⟩⟩
  · have hmem : quoted ∈ quotations t := by simp [hq]
    exact verbatim_of_mem_quotations hmem hne
  · simp at hnumber
  · rw [Mention.text]
    exact ⟨hne, cleanFragment_isInfix t, trim_cleanFragment false t⟩

theorem verbatim_ends (h : ends body = .ok (some (source, target))) :
    ∀ m ∈ [source, target], m.ordinal? = none → Verbatim body m.text := by
  rcases ends_cases h with ⟨found, hs, hsource, htarget⟩ | ⟨_, _, _, _, _, _, rfl, rfl⟩
  · have hpiece (slot : Nat) := (matchFront_sound hs).piece_isInfix slot
    simp only [List.forall_mem_cons, List.not_mem_nil, false_implies, implies_true, and_true]
    exact ⟨fun hnumber => (verbatim_mention? hsource hnumber).within (hpiece 1),
      fun hnumber => (verbatim_mention? htarget hnumber).within (hpiece 2)⟩
  · simp

theorem verbatim_updateSlots (h : updateSlots body = .ok (some m, label)) (hne : label ≠ []) :
    Verbatim body label := by
  rcases updateSlots_cases h with ⟨found, hs, _, hlabel⟩ | ⟨_, hlast⟩
  · rw [hlabel] at hne ⊢
    exact (verbatim_cleanLabel hne).within ((matchFront_sound hs).piece_isInfix 2)
  · exact verbatim_of_mem_quotations (List.mem_of_getLast? hlast) hne

theorem takenFrom_draftDelete (h : draftDelete t nodes = .ok d) : d.TakenFrom t nodes := by
  have hmention : ∀ m : Mention, (m.ordinal? = none → Verbatim t m.text) →
      (Draft.delete m).TakenFrom t nodes := fun m hm =>
    ⟨by simp [Draft.delete], by simpa [Draft.delete, Draft.mentions] using hm⟩
  rcases draftDelete_cases h with ⟨label, hl, rfl⟩ | ⟨_, _, _, _, rfl⟩ | ⟨m, hm, rfl⟩ | rfl
  · exact hmention _ fun _ => verbatim_givenLabel? hl
  · exact hmention _ (by simp)
  · exact hmention _ fun hnumber => (verbatim_mention? hm hnumber).within (after_isInfix _ t)
  · exact Draft.takenFrom_unknown _

theorem takenFrom_draftUpdate (h : draftUpdate t nodes = .ok d) : d.TakenFrom t nodes := by
  rcases draftUpdate_cases h with ⟨m, label, hslots, hne, rfl⟩ | rfl
  · have hlabel := (verbatim_updateSlots hslots hne).within (after_isInfix updateVerbs t)
    exact ⟨by simp [Draft.update, hlabel], by simp [Draft.update]⟩
  · exact Draft.takenFrom_unknown _

theorem takenFrom_draftConnect (h : draftConnect t nodes = .ok d) : d.TakenFrom t nodes := by
  rcases draftConnect_cases h with ⟨source, target, hends, rfl⟩ | rfl
  · have hmentions := verbatim_ends hends
    refine ⟨by simp [Draft.connect], fun _ m hm hnumber => ?_⟩
    exact (hmentions m hm hnumber).within (edgeBody_isInfix connectVerbs t)
  · exact Draft.takenFrom_unknown _

theorem takenFrom_draftDisconnect (h : draftDisconnect t nodes = .ok d) :
    d.TakenFrom t nodes := by
  rcases draftDisconnect_cases h with ⟨source, target, hends, rfl⟩ | rfl
  · have hmentions := verbatim_ends hends
    refine ⟨by simp [Draft.disconnect], fun _ m hm hnumber => ?_⟩
    exact (hmentions m hm hnumber).within (edgeBody_isInfix disconnectVerbs t)
  · exact Draft.takenFrom_unknown _

theorem takenFrom_draftAdd (h : draftAdd t nodes = .ok d) : d.TakenFrom t nodes := by
  obtain rfl := Except.ok.inj h
  refine ⟨?_, by simp [Draft.add, Draft.mentions]⟩
  by_cases hempty : newLabel t = []
  · simp [Draft.add, hempty, Listing.nextLabel]
  · simpa [Draft.add, hempty] using Or.inl (verbatim_newLabel hempty)

theorem understand_takenFrom (h : understand t nodes = .ok d) : d.TakenFrom t nodes := by
  have htaken : d.TakenFrom (Text.trim t) nodes := by
    rcases understand_cases h with rfl | ⟨found, hmem, _, h⟩
    · exact Draft.takenFrom_unknown _
    · simp only [detectors, List.mem_cons, List.not_mem_nil, or_false] at hmem
      rcases hmem with rfl | rfl | rfl | rfl | rfl | rfl
      · exact takenFrom_draftAdd h
      · exact takenFrom_draftDelete h
      · exact takenFrom_draftUpdate h
      · exact takenFrom_draftConnect h
      · exact takenFrom_draftDisconnect h
      · cases h
        exact ⟨by simp [Draft.explain], by simp [Draft.explain, Draft.mentions]⟩
  have hwithin := Text.trim_isInfix t
  exact ⟨fun label hl => (htaken.label label hl).imp_left (·.within hwithin),
    fun hintent m hm hnumber => (htaken.mentions hintent m hm hnumber).within hwithin⟩

theorem understand_takenFrom_logIn :
    understand "Connect the Log In step to \"Main Menu\" please".toList [] =
        .ok (.connect (.phrase "Log In".toList) (.label "Main Menu".toList)) ∧
      (Draft.connect (.phrase "Log In".toList) (.label "Main Menu".toList)).TakenFrom
        "Connect the Log In step to \"Main Menu\" please".toList [] := by
  have hread : understand "Connect the Log In step to \"Main Menu\" please".toList [] =
      .ok (.connect (.phrase "Log In".toList) (.label "Main Menu".toList)) := by rfl
  exact ⟨hread, understand_takenFrom hread⟩

end Utterance

end FlowTalk
