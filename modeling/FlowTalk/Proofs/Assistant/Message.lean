import FlowTalk.Proofs.Assistant.Braces
import FlowTalk.Proofs.Assistant.Client
import FlowTalk.Proofs.Assistant.Numerals
import FlowTalk.Proofs.Draft.Payload

/-! A reply of the hosted model that is nothing but the message to delete a node. -/
namespace FlowTalk
open Pattern

variable {ds : Text}

/-- Digits need no escape. -/
theorem writeString_decimals (hds : ∀ c ∈ ds, c ∈ decimals) :
    Json.writeString ds = '"' :: (ds ++ ['"']) := by
  have hdigit : ∀ c ∈ decimals, Json.writeChar c = [c] := List.all_iff_forall_prop.1 (by decide)
  have hsame : ds.flatMap Json.writeChar = ds := by
    induction ds with
    | nil => rfl
    | cons c ds ih =>
      rw [List.flatMap_cons, hdigit c (hds c (by simp)), ih fun d hd => hds d (by simp [hd])]
      rfl
  rw [Json.writeString, hsame]

/-- The message that deletes the node that the digits name. -/
def deletionMessage (ds : Text) : Text := Json.write ⟨none⟩ (Draft.delete (.phrase ds)).toJson

theorem toJson_delete (ds : Text) : (Draft.delete (.phrase ds)).toJson =
    .obj [("type".toList, .str "delete_node".toList), ("nodeId".toList, .str ds)] := rfl

theorem deletionMessage_eq (ds : Text) : deletionMessage ds =
    '\x7b' :: (Json.writeString "type".toList ++ (": ".toList ++
      (Json.writeString "delete_node".toList ++ (", ".toList ++
        (Json.writeString "nodeId".toList ++ (": ".toList ++
          (Json.writeString ds ++ ['\x7d']))))))) := by
  rw [deletionMessage, toJson_delete, Json.write, Json.writeAt, Json.writeMembers,
    Json.writeMembers, Json.writeAt, Json.writeAt]
  simp only [Json.Layout.lineBreak, Json.Layout.separator, List.append_assoc,
    List.nil_append, List.append_nil]

theorem backtick_not_mem (hds : ∀ c ∈ ds, c ∈ decimals) : '`' ∉ deletionMessage ds := by
  have hdigits : '`' ∉ ds := fun h => absurd (hds '`' h) (by decide)
  have htype : '`' ∉ Json.writeString "type".toList := by decide
  have htag : '`' ∉ Json.writeString "delete_node".toList := by decide
  have hnode : '`' ∉ Json.writeString "nodeId".toList := by decide
  rw [deletionMessage_eq, writeString_decimals hds]
  simp only [List.mem_cons, List.mem_append, htype, htag, hnode, hdigits, List.not_mem_nil]
  simp

theorem trim_digits (hds : ∀ c ∈ ds, c ∈ decimals) : Text.trim ds = ds :=
  Text.trim_eq_self (fun c hc => isBlank_of_mem_decimals c (hds c (List.mem_of_mem_head? hc)))
    (fun c hc => isBlank_of_mem_decimals c (hds c (List.mem_of_getLast? hc)))

theorem ofPayload_delete (hne : ds ≠ []) (hds : ∀ c ∈ ds, c ∈ decimals) :
    Draft.ofPayload (Draft.delete (.phrase ds)).toJson = .ok (.delete (.phrase ds)) := by
  have hgiven : Draft.isGiven (some ds) = true := by simp [Draft.isGiven, trim_digits hds, hne]
  have hmention : Draft.mentioned (some ds) = some (.phrase ds) := by
    cases ds with
    | nil => exact absurd rfl hne
    | cons c rest => rw [Draft.mentioned, trim_digits hds]
  have hslots : ∀ slot, Draft.slotText
      [("type".toList, .str "delete_node".toList), ("nodeId".toList, .str ds)] slot =
        .ok (if slot = .node then some ds else none) := by
    intro slot
    cases slot <;> rfl
  rw [toJson_delete, Draft.ofPayload, Draft.ofMembers_of_slots (i := .delete) rfl hslots]
  · rw [Draft.ofSlots, if_pos rfl, hmention]
    rfl
  · intro slot hslot
    obtain rfl := List.mem_singleton.1 hslot
    exact hgiven

theorem draft_deletionMessage (hne : ds ≠ []) (hds : ∀ c ∈ ds, c ∈ decimals) :
    Reply.draft (deletionMessage ds) = .ok (.delete (.phrase ds)) := by
  have hmark : ¬ "```".toList <:+: deletionMessage ds := fun h =>
    backtick_not_mem hds (h.subset (by simp))
  have hread : Json.read (Reply.fence.erase (deletionMessage ds)) =
      .ok (Draft.delete (.phrase ds)).toJson := by
    rw [Reply.erase_fence_eq_self hmark]
    exact Draft.read_message _ _
  rw [Reply.draft_of_read hread]
  exact mapError_eq_ok.2 (ofPayload_delete hne hds)

/-- Digits alone are a node number. -/
theorem ordinalDigits_of_decimals (hne : ds ≠ []) (hds : ∀ c ∈ ds, c ∈ decimals) :
    ordinalDigits ds = [ds] := by
  have hphrase : NumberPhrase (Text.trim ds) ds :=
    NumberPhrase.of_digits hne fun c hc => isDigit_of_mem_decimals c (hds c hc)
  obtain ⟨m, hm, hpiece⟩ := hphrase.exists_match (getLast?_trim ds)
  rw [ordinalDigits, hm]
  simp only [hpiece]

/-- A hosted model that answers with the message. -/
def deletionAssistant (ds : Text) : Assistant where
  settings := { key := "k".toList }
  openClient _ := fixedClient [] (.ok (contentAnswer (deletionMessage ds)))

theorem ask_deletionAssistant (hne : ds ≠ []) (hds : ∀ c ∈ ds, c ∈ decimals) :
    ((deletionAssistant ds).ask "hello".toList []).result = .ok (.delete (.phrase ds)) := by
  have hkey : (deletionAssistant ds).settings.isConfigured = true :=
    show Settings.isConfigured { key := "k".toList } = true by decide
  have hholds : Reply.Holds (deletionMessage ds) (.delete (.phrase ds)) :=
    Reply.draft_eq_ok.1 (draft_deletionMessage hne hds)
  rw [Assistant.ask_of_key hkey, Posted.draft_eq_ok]
  exact ⟨_, rfl, rfl, holds_contentAnswer hholds⟩

/-- An utterance that can be interpreted without help fails with a reply that names a node by a
number that is too long. -/
theorem interpretWith_deletionAssistant {n : Nat} (hn : n ≠ 0) :
    (∃ c, interpretWith (some (deletionAssistant (List.replicate n '1'))) "hello".toList [] =
      .ok c) ↔ n ≤ maxDigits := by
  have hne : List.replicate n '1' ≠ [] := by simpa using hn
  have hds : ∀ c ∈ List.replicate n '1', c ∈ decimals := by
    intro c hc
    rw [List.eq_of_mem_replicate hc]
    decide
  have hnumerals : (Draft.delete (.phrase (List.replicate n '1'))).numerals [] =
      [List.replicate n '1'] := by
    have hunknown : Lookup.numerals [] (.phrase (List.replicate n '1')) =
        ordinalDigits (List.replicate n '1') := by
      simp [Lookup.numerals, Lookup.byId, Lookup.byLabel]
    simp [Draft.numerals, Draft.lookedUp, Draft.delete, hunknown, ordinalDigits_of_decimals hne hds]
  have hbuild := Draft.reads_build (.delete (.phrase (List.replicate n '1'))) []
  rw [Reads, hnumerals] at hbuild
  simp only [interpretWith, ask_deletionAssistant hne hds, hbuild]
  simp

theorem interpretWith_reply_too_long :
    (∃ c, interpret "hello".toList [] = .ok c) ∧
      ¬ ∃ c, interpretWith (some (deletionAssistant (List.replicate 4301 '1'))) "hello".toList
        [] = .ok c := by
  refine ⟨?_, ?_⟩
  · have hread : (∃ c, _) ↔ _ := reads_interpret "hello".toList []
    have hnumerals : Utterance.numerals "hello".toList = [] := by decide
    rw [hread, hnumerals]
    simp
  · rw [interpretWith_deletionAssistant (by decide)]
    decide

end FlowTalk
