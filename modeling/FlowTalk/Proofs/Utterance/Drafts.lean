import FlowTalk.Proofs.Except
import FlowTalk.Utterance.Detector

/-! What each detector can make of an utterance. -/
namespace FlowTalk.Utterance
open Vocabulary

variable {t body label : Text} {nodes : Listing} {d : Draft} {node : Option Mention} {m : Mention}
  {labelWords : Bool} {source target : Mention}

theorem mention?_cases (h : mention? labelWords t = .ok (some m)) :
    (∃ quoted rest, quotations t = quoted :: rest ∧ quoted ≠ [] ∧ m = .label quoted) ∨
      quotations t = [] ∧ cleanFragment labelWords t ≠ [] ∧
        ((∃ n, ordinal? (cleanFragment labelWords t) = .ok (some n) ∧
            m = .ofOrdinal n (cleanFragment labelWords t)) ∨
          ordinal? (cleanFragment labelWords t) = .ok none ∧
            m = .phrase (cleanFragment labelWords t)) := by
  rw [mention?] at h
  cases hq : quotations t with
  | cons quoted rest =>
    rw [hq] at h
    cases hempty : quoted with
    | nil => simp [hempty] at h
    | cons c cs =>
      refine Or.inl ⟨_, rest, rfl, by simp, ?_⟩
      simpa [hempty, eq_comm] using h
  | nil =>
    rw [hq] at h
    refine Or.inr ⟨rfl, ?_⟩
    by_cases hempty : cleanFragment labelWords t = []
    · simp [hempty] at h
    · refine ⟨hempty, ?_⟩
      simp only [List.isEmpty_iff, hempty, if_false] at h
      obtain ⟨number, hnumber, h⟩ := map_eq_ok.1 h
      cases number with
      | some n => exact Or.inl ⟨n, hnumber, (Option.some.inj h).symm⟩
      | none => exact Or.inr ⟨hnumber, (Option.some.inj h).symm⟩

theorem draftDelete_cases (h : draftDelete t nodes = .ok d) :
    (∃ label, givenLabel? t = some label ∧ d = .delete (.label label)) ∨
      (∃ found n, nodeNumber.search t = some found ∧ Numeral.read (found.piece 1) = .ok n ∧
        d = .delete (.ofOrdinal n found.body)) ∨
      (∃ m, mention? false (after deleteVerbs t) = .ok (some m) ∧ d = .delete m) ∨
      d = .unknown Usage.delete := by
  rw [draftDelete] at h
  cases hl : givenLabel? t with
  | some label =>
    rw [hl] at h
    exact Or.inl ⟨label, rfl, (Except.ok.inj h).symm⟩
  | none =>
    rw [hl] at h
    cases hs : nodeNumber.search t with
    | some found =>
      rw [hs] at h
      obtain ⟨_, hread, h⟩ := map_eq_ok.1 h
      obtain ⟨n, hn, hcast⟩ := bind_eq_ok.1 hread
      cases hcast
      exact Or.inr (Or.inl ⟨found, n, rfl, hn, h.symm⟩)
    | none =>
      rw [hs] at h
      obtain ⟨node, hnode, h⟩ := map_eq_ok.1 h
      cases node with
      | some m => exact Or.inr (Or.inr (Or.inl ⟨m, hnode, h.symm⟩))
      | none => exact Or.inr (Or.inr (Or.inr h.symm))

theorem updateSlots_cases (h : updateSlots body = .ok (some m, label)) :
    (∃ found, updateSplit.matchFront body = some found ∧
        mention? true (found.piece 1) = .ok (some m) ∧ label = cleanLabel (found.piece 2)) ∨
      mention? true (quotation.replace " ".toList body) = .ok (some m) ∧
        (quotations body).getLast? = some label := by
  rw [updateSlots] at h
  cases hs : updateSplit.matchFront body with
  | some found =>
    rw [hs] at h
    obtain ⟨node, hnode, h⟩ := map_eq_ok.1 h
    cases h
    exact Or.inl ⟨found, rfl, hnode, rfl⟩
  | none =>
    rw [hs] at h
    cases hq : (quotations body).getLast? with
    | some quoted =>
      rw [hq] at h
      obtain ⟨node, hnode, h⟩ := map_eq_ok.1 h
      cases h
      exact Or.inr ⟨hnode, rfl⟩
    | none =>
      rw [hq] at h
      cases h

theorem draftUpdate_cases (h : draftUpdate t nodes = .ok d) :
    (∃ m label, updateSlots (after updateVerbs t) = .ok (some m, label) ∧ label ≠ [] ∧
        d = .update m label) ∨
      d = .unknown Usage.update := by
  obtain ⟨⟨node, label⟩, hslots, rfl⟩ := map_eq_ok.1 h
  cases node with
  | none => exact Or.inr rfl
  | some m =>
    by_cases hempty : label = []
    · exact Or.inr (by simp [hempty])
    · exact Or.inl ⟨m, label, hslots, hempty, by simp [hempty]⟩

theorem ends_cases (h : ends body = .ok (some (source, target))) :
    (∃ found, pairSplit.matchFront body = some found ∧
        mention? false (found.piece 1) = .ok (some source) ∧
        mention? false (found.piece 2) = .ok (some target)) ∨
      ∃ found s t, twoNumbers.search body = some found ∧
        Numeral.read (found.piece 1) = .ok s ∧ Numeral.read (found.piece 2) = .ok t ∧
        source = .ofOrdinal s [] ∧ target = .ofOrdinal t [] := by
  rw [ends] at h
  cases hs : pairSplit.matchFront body with
  | some found =>
    rw [hs] at h
    obtain ⟨s, hsource, h⟩ := bind_eq_ok.1 h
    obtain ⟨t, htarget, h⟩ := bind_eq_ok.1 h
    cases s with
    | none => cases h
    | some s =>
      cases t with
      | none => cases h
      | some t =>
        cases h
        exact Or.inl ⟨found, rfl, hsource, htarget⟩
  | none =>
    rw [hs] at h
    cases hn : twoNumbers.search body with
    | some found =>
      rw [hn] at h
      obtain ⟨s, hsource, h⟩ := bind_eq_ok.1 h
      obtain ⟨t, htarget, h⟩ := bind_eq_ok.1 h
      cases h
      exact Or.inr ⟨found, s, t, rfl, hsource, htarget, rfl, rfl⟩
    | none =>
      rw [hn] at h
      cases h

theorem draftConnect_cases (h : draftConnect t nodes = .ok d) :
    (∃ s t', ends (edgeBody connectVerbs t) = .ok (some (s, t')) ∧ d = .connect s t') ∨
      d = .unknown Usage.connect := by
  obtain ⟨pair, hpair, rfl⟩ := map_eq_ok.1 h
  cases pair with
  | none => exact Or.inr rfl
  | some pair => exact Or.inl ⟨pair.1, pair.2, hpair, rfl⟩

theorem draftDisconnect_cases (h : draftDisconnect t nodes = .ok d) :
    (∃ s t', ends (edgeBody disconnectVerbs t) = .ok (some (s, t')) ∧ d = .disconnect s t') ∨
      d = .unknown Usage.disconnect := by
  obtain ⟨pair, hpair, rfl⟩ := map_eq_ok.1 h
  cases pair with
  | none => exact Or.inr rfl
  | some pair => exact Or.inl ⟨pair.1, pair.2, hpair, rfl⟩

theorem draftUpdate_eq_update_iff : draftUpdate t nodes = .ok (.update m label) ↔
    updateSlots (after updateVerbs t) = .ok (some m, label) ∧ label ≠ [] := by
  constructor
  · intro h
    rcases draftUpdate_cases h with ⟨_, _, hslots, hne, heq⟩ | heq
    · cases heq
      exact ⟨hslots, hne⟩
    · cases heq
  · rintro ⟨h, hne⟩
    rw [draftUpdate, h]
    simp [Except.map, hne]

theorem draftConnect_eq_connect_iff : draftConnect t nodes = .ok (.connect source target) ↔
    ends (edgeBody connectVerbs t) = .ok (some (source, target)) := by
  constructor
  · intro h
    rcases draftConnect_cases h with ⟨_, _, hends, heq⟩ | heq
    · cases heq
      exact hends
    · cases heq
  · intro h
    rw [draftConnect, h]
    rfl

theorem draftDisconnect_eq_disconnect_iff :
    draftDisconnect t nodes = .ok (.disconnect source target) ↔
      ends (edgeBody disconnectVerbs t) = .ok (some (source, target)) := by
  constructor
  · intro h
    rcases draftDisconnect_cases h with ⟨_, _, hends, heq⟩ | heq
    · cases heq
      exact hends
    · cases heq
  · intro h
    rw [draftDisconnect, h]
    rfl

/-- An utterance is drafted by one of the detectors, or by none of them. -/
theorem understand_cases (h : understand t nodes = .ok d) :
    d = .unknown Usage.anything ∨
      ∃ found ∈ detectors, detect (head (Text.trim t)) = some found ∧
        found.draft (Text.trim t) nodes = .ok d := by
  rw [understand] at h
  cases hd : detect (head (Text.trim t)) with
  | none =>
    rw [hd] at h
    exact Or.inl (Except.ok.inj h).symm
  | some found =>
    rw [hd] at h
    exact Or.inr ⟨found, List.mem_of_find?_eq_some hd, rfl, h⟩

end FlowTalk.Utterance
