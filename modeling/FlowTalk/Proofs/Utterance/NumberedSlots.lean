import FlowTalk.Proofs.Utterance.NodeNumber
import FlowTalk.Proofs.Utterance.Separators
import FlowTalk.Proofs.Utterance.Unmarked

/-! Slots of which the first is a node number. -/
namespace FlowTalk
open Pattern

variable {ds word l u : Text} {ws : List String} {separator : Pattern} {a b n : Nat}

/-- A node number and a rest, with a word between them. -/
def numberThen (ds word rest : Text) : Text := "node ".toList ++ ds ++ ' ' :: (word ++ ' ' :: rest)

theorem numberThen_ne_nil (ds word l : Text) : numberThen ds word l ≠ [] := by simp [numberThen]

theorem getLast?_numberThen (hne : l ≠ []) : (numberThen ds word l).getLast? = l.getLast? := by
  rw [numberThen, List.getLast?_append_of_ne_nil _ (by simp), List.getLast?_cons_of_ne_nil (by simp),
    List.getLast?_append_of_ne_nil _ (by simp), List.getLast?_cons_of_ne_nil hne]

/-- A text with a number at its front is trimmed if what it ends with is. -/
theorem trim_numberThen (hne : l ≠ []) (hlast : ∀ c ∈ l.getLast?, isBlank c = false) :
    Text.trim (numberThen ds word l) = numberThen ds word l := by
  refine Text.trim_eq_self ?_ (by rwa [getLast?_numberThen hne])
  rintro c ⟨⟩
  decide

namespace Vocabulary

/-- Behind any place the pattern takes the word between spaces as its separator and captures the
rest. -/
def Divides (separator : Pattern) (word l : Text) : Prop :=
  ∀ b k cs, ∃ b' k', (remainder separator).run ⟨b, ' ' :: (word ++ ' ' :: l), k, cs⟩ some =
    some ⟨b', [], k', ⟨2, l, l.length⟩ :: cs⟩

section rest

variable (hne : l ≠ []) (hline : '\n' ∉ l) (hfirst : ∀ c ∈ l.head?, isBlank c = false)
include hne hline hfirst

theorem divides_pair {word : String} (hword : word ∈ ["to", "and", "from"]) :
    Divides (oneOf pairPhrases) word.toList l := by
  intro b k cs
  simp only [List.mem_cons, List.not_mem_nil, or_false] at hword
  rcases hword with rfl | rfl | rfl
  · exact ⟨_, _, run_or_of_some (p := phrase "to") (run_restOfText (k := k + 3) hne hline hfirst)⟩
  · exact ⟨_, _, run_or_of_some (p := phrase "and") (run_restOfText (k := k + 4) hne hline hfirst)⟩
  · exact ⟨_, _, run_or_of_some (p := phrase "from") (run_restOfText (k := k + 5) hne hline hfirst)⟩

/-- The longer phrase is tried before the "to" that it begins with. -/
theorem divides_toSay : Divides updateSeparator "to say".toList l := fun _ k _ =>
  ⟨_, _, run_or_of_some (run_or_of_some (p := phrase "to say")
    (run_restOfText (k := k + 7) hne hline hfirst))⟩

end rest

theorem Worded.head?_ne (hws : ∀ w ∈ ws, w.toList.head?.any (fun c => c != ' ' && notDecimal c) = true)
    (h : Worded ws u) (hds : ∀ c ∈ ds.head?, c ∈ decimals) : u ≠ [] ∧ u.head? ≠ ds.head? := by
  obtain ⟨w, hw, hword⟩ := h
  have hfirst := hws w hw
  generalize w.toList = cs at hword hfirst
  cases hword with
  | nil => simp at hfirst
  | @letter c x cs u _ hx _ =>
    have hc : c ≠ ' ' ∧ notDecimal c = true := by simpa using hfirst
    have hnot := notDecimal_of_baseLetter hc.2 x hx
    refine ⟨by simp, fun hsame => ?_⟩
    have hmem := hds x (by simp [← hsame])
    simp [notDecimal, hmem] at hnot
  | space => simp at hfirst

/-- No separator begins with a digit, so a node number in front is not divided. -/
theorem divider_numberThen (hsep : separator.Spells (Worded ws))
    (hws : ∀ w ∈ ws, w.toList.head?.any (fun c => c != ' ' && notDecimal c) = true)
    (hne : ds ≠ []) (hds : ∀ c ∈ ds, c ∈ decimals) (hdivides : Divides separator word l) :
    ∃ m, (divider separator).matchFront (numberThen ds word l) = some m ∧
      m.piece 1 = "node ".toList ++ ds ∧ m.piece 2 = l := by
  have hplace : afterFront (numberThen ds word l) ("node ".toList ++ ds) =
      ⟨("node ".toList ++ ds).getLast?, ' ' :: (word ++ ' ' :: l), ("node ".toList ++ ds).length,
        [⟨1, numberThen ds word l, ("node ".toList ++ ds).length⟩]⟩ := by
    simp [numberThen, afterFront, Place.record, Place.past]
  obtain ⟨b, k, hrun⟩ := hdivides ("node ".toList ++ ds).getLast? ("node ".toList ++ ds).length
    [⟨1, numberThen ds word l, ("node ".toList ++ ds).length⟩]
  rw [← hplace] at hrun
  have hnoun : ∀ c ∈ "node".toList, isBlank c = false := List.all_iff_forall_prop.1 (by decide)
  refine ⟨_, matchFront_divider_of_run hsep ⟨by simp, Utterance.lineFeed_not_mem_node hds⟩
    (List.prefix_append _ _) (fun front gap back hdivision => ?_) hrun, ?_, ?_⟩
  · refine hdivision.length_le (v := ds) hnoun
      (fun c hc => isBlank_of_mem_decimals c (hds c hc)) hne fun u hu => ?_
    exact hu.head?_ne hws fun c hc => hds c (List.mem_of_mem_head? hc)
  · simp [Match.piece, Match.piece?, Match.ofPlace, Captured.piece, numberThen]
  · simp [Match.piece, Match.piece?, Match.ofPlace, Captured.piece]

end Vocabulary

namespace Utterance
open Vocabulary

section slots

variable (hne : ds ≠ []) (hds : ∀ c ∈ ds, c ∈ decimals)
include hne hds

/-- Two node numbers are the ends of an edge. -/
theorem ends_numberThen {ds' : Text} (hne' : ds' ≠ []) (hds' : ∀ c ∈ ds', c ∈ decimals)
    {word : String} (hword : word ∈ ["to", "and", "from"]) :
    ends (numberThen ds word.toList ("node ".toList ++ ds')) = (do
      let source ← Numeral.read ds
      let target ← Numeral.read ds'
      return some (.ofOrdinal source ("node ".toList ++ ds),
        .ofOrdinal target ("node ".toList ++ ds'))) := by
  have hspace : ∀ c ∈ ("node ".toList ++ ds').head?, isBlank c = false := by
    rintro c ⟨⟩
    decide
  obtain ⟨m, hm, hfirst, hsecond⟩ := divider_numberThen spells_pair (by decide) hne hds
    (divides_pair (l := "node ".toList ++ ds') (by simp) (lineFeed_not_mem_node hds') hspace hword)
  rw [ends, pairSplit_eq, hm]
  simp only [hfirst, hsecond, mention?_node hne hds, mention?_node hne' hds']
  cases Numeral.read ds with
  | error e => rfl
  | ok n =>
    cases Numeral.read ds' with
    | error e => rfl
    | ok n' => rfl

theorem updateSlots_numberThen (hlabel : l ≠ []) (hline : '\n' ∉ l)
    (hfirst : ∀ c ∈ l.head?, isBlank c = false) :
    updateSlots (numberThen ds "to say".toList l) =
      (Numeral.read ds).map fun n =>
        (some (.ofOrdinal n ("node ".toList ++ ds)), cleanLabel l) := by
  obtain ⟨m, hm, hnode, hrest⟩ := divider_numberThen spells_update (by decide) hne hds
    (divides_toSay hlabel hline hfirst)
  rw [updateSlots, updateSplit_eq, hm]
  simp only [hnode, hrest, mention?_node hne hds]
  cases Numeral.read ds with
  | error e => rfl
  | ok n => rfl

end slots

/-- The number of a node with its noun. -/
def nodeText (n : Nat) : Text := "node ".toList ++ Text.ofNat n

/-- Two node numbers with a word between them. -/
def pairText (a : Nat) (word : String) (b : Nat) : Text :=
  numberThen (Text.ofNat a) word.toList (nodeText b)

theorem spoken_digits (hne : ds ≠ []) (hds : ∀ c ∈ ds, c ∈ decimals) : Spoken ds := by
  have hall : ∀ c ∈ decimals, isQuoteMark c = false ∧ (baseLetter c).isLower = false :=
    List.all_iff_forall_prop.1 (by decide)
  refine ⟨⟨fun c hc => (hall c (hds c hc)).1, ?_⟩, fun c hc => keepsCase_of_mem_decimals c (hds c hc),
    hne, ?_, ?_⟩
  · exact not_hasWord_of_no_letter smallWords_namingWords fun c hc => (hall c (hds c hc)).2
  · rw [List.head?_eq_some_head hne]
    exact isBlank_of_mem_decimals _ (hds _ (List.head_mem hne))
  · rw [List.getLast?_eq_some_getLast hne]
    exact isBlank_of_mem_decimals _ (hds _ (List.getLast_mem hne))

theorem spoken_node (hne : ds ≠ []) (hds : ∀ c ∈ ds, c ∈ decimals) : Spoken ("node ".toList ++ ds) := by
  have hnoun : Spoken "node".toList := by decide
  exact hnoun.append (spoken_digits hne hds)

theorem spoken_nodeText (n : Nat) : Spoken (nodeText n) :=
  spoken_node (ofNat_ne_nil n) (mem_decimals_of_mem_ofNat n)

theorem spoken_pairText {word : String} (hword : word ∈ ["to", "and", "from"]) :
    Spoken (pairText a word b) := by
  have hall : ∀ w ∈ ["to", "and", "from"], Spoken w.toList := by decide
  exact (spoken_nodeText a).append ((hall word hword).append (spoken_nodeText b))

theorem not_edge_node (hds : ∀ c ∈ ds, c ∈ decimals) : ¬ HasWord edgeWords ("node ".toList ++ ds) := by
  have hnoun : ¬ HasWord edgeWords "node".toList := by decide
  have hall : ∀ c ∈ decimals, (baseLetter c).isLower = false := List.all_iff_forall_prop.1 (by decide)
  have hsplit : "node ".toList ++ ds = "node".toList ++ ' ' :: ds := rfl
  rw [hsplit, hasWord_append_cons_iff (by decide) (by decide)]
  exact not_or.2 ⟨hnoun, not_hasWord_of_no_letter (by decide) fun c hc => hall c (hds c hc)⟩

end Utterance

end FlowTalk
