import FlowTalk.Proofs.Pattern.Division
import FlowTalk.Proofs.Utterance.Marker

/-! The separators between two slots, as the texts that spell one of some phrases. -/
namespace FlowTalk
open Pattern

variable {c x : Char} {cs cs' : List Char} {u : Text} {ws : List String} {w : String}

namespace Wording

theorem append_iff : Wording (cs ++ cs') u ↔ ∃ v w, Wording cs v ∧ Wording cs' w ∧ u = v ++ w := by
  constructor
  · intro h
    induction cs generalizing u with
    | nil => exact ⟨[], u, .nil, h, rfl⟩
    | cons c cs ih =>
      cases h with
      | letter hc hx hu =>
        obtain ⟨v, w, hv, hw, rfl⟩ := ih hu
        exact ⟨_ :: v, w, .letter hc hx hv, hw, rfl⟩
      | space hne hblank hu =>
        obtain ⟨v, w, hv, hw, rfl⟩ := ih hu
        exact ⟨_ ++ v, w, .space hne hblank hv, hw, by rw [List.append_assoc]⟩
  · rintro ⟨v, w, hv, hw, rfl⟩
    induction hv with
    | nil => exact hw
    | letter hc hx _ ih => exact .letter hc hx ih
    | space hne hblank _ ih =>
      rw [List.append_assoc]
      exact .space hne hblank ih

theorem mem (h : Wording cs u) (hx : x ∈ u) : isBlank x = true ∨ baseLetter x ∈ cs := by
  induction h with
  | nil => simp at hx
  | @letter c y w u _ hy _ ih =>
    rcases List.mem_cons.1 hx with rfl | hx
    · exact Or.inr (by simp [hy])
    · exact (ih hx).imp_right fun h => by simp [h]
  | space _ hblank _ ih =>
    rcases List.mem_append.1 hx with hx | hx
    · exact Or.inl (hblank x hx)
    · exact (ih hx).imp_right fun h => by simp [h]

end Wording

/-- A character that stands for no white space is none. -/
theorem isBlank_of_baseLetter (h : isBlank (baseLetter x) = false) : isBlank x = false := by
  rcases baseLetter_cases x with hx | ⟨_, hword⟩
  · rwa [hx] at h
  · exact isBlank_of_isWord hword

namespace Vocabulary

/-- The phrases begin with something else than white space, and none has a quote. -/
def Visible (ws : List String) : Prop :=
  ∀ w ∈ ws, w.toList.head?.any (fun c => !isBlank c) = true ∧ '"' ∉ w.toList

instance (ws : List String) : Decidable (Visible ws) := List.decidableBAll _ _

/-- One of the phrases, worded in some way. -/
def Worded (ws : List String) (u : Text) : Prop := ∃ w ∈ ws, Wording w.toList u

/-- A word of small letters is worded as it stands. -/
theorem worded_self (hw : w ∈ ws) (hsmall : ∀ c ∈ w.toList, c.isLower = true) :
    Worded ws w.toList :=
  ⟨w, hw, Wording.self fun c hc => baseLetter_of_isLower (hsmall c hc)⟩

theorem Worded.exists_not_blank (hws : Visible ws) (h : Worded ws u) :
    ∃ x ∈ u, isBlank x = false := by
  obtain ⟨w, hw, hword⟩ := h
  have hfirst := (hws w hw).1
  generalize w.toList = cs at hword hfirst
  cases hword with
  | nil => simp at hfirst
  | letter _ hx _ =>
    subst hx
    exact ⟨_, List.mem_cons_self, isBlank_of_baseLetter (by simpa using hfirst)⟩
  | space => exact absurd hfirst (by simp; decide)

theorem Worded.quote_not_mem (hws : Visible ws) (h : Worded ws u) : '"' ∉ u := by
  obtain ⟨w, hw, hword⟩ := h
  intro hmem
  rcases hword.mem hmem with hblank | hbase
  · exact absurd hblank (by decide)
  · exact (hws w hw).2 hbase

def pairPhrases : List String := ["to", "and", "from", "with", "into", "->", "→"]

def updatePhrases : List String :=
  ["to say", "to read", "to be", "to", "as", "into", "with label", "with text", "with name",
    "with the label", "with the text", "with the name"]

theorem pairSplit_eq : pairSplit = divider (oneOf pairPhrases) := rfl

/-- The separators of an update. -/
def updateSeparator : Pattern :=
  oneOf ["to say", "to read", "to be", "to", "as", "into"] |||
    (phrase "with " ++ optional (phrase "the ") ++ oneOf ["label", "text", "name"])

theorem updateSplit_eq : updateSplit = divider updateSeparator := rfl

theorem spells_pair : (oneOf pairPhrases).Spells (Worded pairPhrases) := spells_oneOf pairPhrases

theorem worded_with_iff (label : String) :
    Wording ("with ".toList ++ label.toList) u ∨
        Wording ("with ".toList ++ ("the ".toList ++ label.toList)) u ↔
      ∃ v w, (∃ a b, Wording "with ".toList a ∧ (Wording "the ".toList b ∨ b = []) ∧ v = a ++ b) ∧
        Wording label.toList w ∧ u = v ++ w := by
  constructor
  · rintro (h | h)
    · obtain ⟨a, w, ha, hw, rfl⟩ := Wording.append_iff.1 h
      exact ⟨a, w, ⟨a, [], ha, Or.inr rfl, by simp⟩, hw, rfl⟩
    · obtain ⟨a, v, ha, hv, rfl⟩ := Wording.append_iff.1 h
      obtain ⟨b, w, hb, hw, rfl⟩ := Wording.append_iff.1 hv
      exact ⟨a ++ b, w, ⟨a, b, ha, Or.inl hb, rfl⟩, hw, by simp⟩
  · rintro ⟨_, w, ⟨a, b, ha, hb | rfl, rfl⟩, hw, rfl⟩
    · exact Or.inr (Wording.append_iff.2
        ⟨a, b ++ w, ha, Wording.append_iff.2 ⟨b, w, hb, hw, rfl⟩, by simp⟩)
    · exact Or.inl (Wording.append_iff.2 ⟨a, w, ha, hw, by simp⟩)

def readingPhrases : List String := ["to say", "to read", "to be", "to", "as", "into"]

def labelNouns : List String := ["label", "text", "name"]

theorem updatePhrases_eq : updatePhrases =
    readingPhrases ++ (labelNouns.map ("with " ++ ·) ++ labelNouns.map ("with the " ++ ·)) := rfl

theorem toList_with_the (label : String) :
    ("with the " ++ label).toList = "with ".toList ++ ("the ".toList ++ label.toList) := by
  simp

theorem worded_append_iff {ws' : List String} :
    Worded (ws ++ ws') u ↔ Worded ws u ∨ Worded ws' u := by
  simp only [Worded, List.mem_append, or_and_right, exists_or]

theorem worded_map_iff {f : String → String} :
    Worded (ws.map f) u ↔ ∃ w ∈ ws, Wording (f w).toList u := by
  simp [Worded]

theorem spells_update : updateSeparator.Spells (Worded updatePhrases) := by
  have hthe := (spells_phrase "the ").or spells_nothing
  have hwith := ((spells_phrase "with ").append hthe).append (spells_oneOf labelNouns)
  refine ((spells_oneOf readingPhrases).or hwith).congr fun u => ?_
  rw [updatePhrases_eq, worded_append_iff, worded_append_iff, worded_map_iff, worded_map_iff]
  refine or_congr Iff.rfl ?_
  constructor
  · rintro ⟨v, w, hv, ⟨label, hlabel, hw⟩, hu⟩
    rcases (worded_with_iff label).2 ⟨v, w, hv, hw, hu⟩ with h | h
    · exact Or.inl ⟨label, hlabel, by rwa [String.toList_append]⟩
    · exact Or.inr ⟨label, hlabel, by rwa [toList_with_the]⟩
  · rintro (⟨label, hlabel, h⟩ | ⟨label, hlabel, h⟩)
    · rw [String.toList_append] at h
      obtain ⟨v, w, hv, hw, hu⟩ := (worded_with_iff label).1 (Or.inl h)
      exact ⟨v, w, hv, ⟨label, hlabel, hw⟩, hu⟩
    · rw [toList_with_the] at h
      obtain ⟨v, w, hv, hw, hu⟩ := (worded_with_iff label).1 (Or.inr h)
      exact ⟨v, w, hv, ⟨label, hlabel, hw⟩, hu⟩

theorem progressive_pair : (oneOf pairPhrases).Progressive := progressive_oneOf pairPhrases

theorem progressive_update : updateSeparator.Progressive :=
  ⟨progressive_oneOf _, ⟨progressive_phrase _, progressive_phrase _, trivial⟩, progressive_oneOf _⟩

end Vocabulary

end FlowTalk
