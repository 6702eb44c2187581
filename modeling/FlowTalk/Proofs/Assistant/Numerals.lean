import FlowTalk.Assistant.Ask
import FlowTalk.Proofs.Interpret.Total

/-! The runs of digits that a draft of the hosted model gives as node numbers. Its mentions come as
they are in the reply, so looking them up can fail on a number that is too long. -/
namespace FlowTalk

variable {t : Text} {nodes : Listing} {d : Draft} {m : Mention}

namespace Lookup

/-- The digits to read when a mention is looked up: those of a phrase that no id and no label
answers. -/
def numerals (nodes : Listing) : Mention → List Text
  | .phrase t =>
    if (byId (Text.trim t) nodes).isSome || (byLabel (Text.trim t) nodes).isSome then []
    else ordinalDigits t
  | .ordinal _ _ | .label _ => []

theorem ordinalDigits_of_blank (h : Text.trim t = []) : ordinalDigits t = [] := by
  rw [ordinalDigits, h]
  rfl

theorem reads_resolve (m : Mention) (nodes : Listing) :
    Reads (resolve m nodes) (numerals nodes m) := by
  cases m with
  | ordinal n said => exact Reads.ok _
  | label said =>
    have hfound : ∃ found, resolveText false said nodes = .ok found := resolveText_ok (by simp)
    simpa [Reads, numerals, resolve] using hfound
  | phrase said =>
    rw [resolve, resolveText, numerals]
    by_cases hblank : Text.trim said = []
    · have hid : byId [] nodes = none := rfl
      have hlabel : byLabel [] nodes = none := rfl
      simpa [hblank, hid, hlabel, ordinalDigits_of_blank hblank] using Reads.ok none
    · cases hid : byId (Text.trim said) nodes with
      | some node => simpa [hblank] using Reads.ok _
      | none =>
        cases hlabel : byLabel (Text.trim said) nodes with
        | some node => simpa [hblank] using Reads.ok _
        | none => simpa [hblank, ordinal?_trim] using (reads_ordinal? said).map _

theorem runsOf_numerals (nodes : Listing) (m : Mention) :
    Utterance.RunsOf m.text (numerals nodes m) := by
  cases m with
  | ordinal n said => exact .nil _
  | label said => exact .nil _
  | phrase said =>
    rw [numerals]
    split
    · exact .nil _
    · exact Utterance.runsOf_ordinalDigits said

end Lookup

theorem reads_withNode (m : Mention) (nodes : Listing) (command : Text → Command) :
    Reads (withNode m nodes command) (Lookup.numerals nodes m) :=
  (Lookup.reads_resolve m nodes).map _

namespace Draft

/-- The ends of an edge. If one of them is missing the other is not looked up either. -/
def bothEnds : Option Mention → Option Mention → List Mention
  | some source, some target => [source, target]
  | _, _ => []

/-- The mentions that are looked up to make the command for a draft. -/
def lookedUp (d : Draft) : List Mention :=
  match d.intent with
  | .delete => d.node.toList
  | .update => if d.trimmedLabel.isEmpty then [] else d.node.toList
  | .connect | .disconnect => bothEnds d.source d.target
  | .add | .explain | .unknown => []

/-- The digits to read to make the command for a draft. -/
def numerals (nodes : Listing) (d : Draft) : List Text :=
  d.lookedUp.flatMap (Lookup.numerals nodes)

theorem reads_withEnds (source target : Option Mention) (nodes : Listing)
    (command : Text → Text → Command) :
    Reads (withEnds source target nodes command)
      ((bothEnds source target).flatMap (Lookup.numerals nodes)) := by
  rcases source with _ | source
  · exact Reads.ok _
  rcases target with _ | target
  · exact Reads.ok _
  have hflat : (bothEnds (some source) (some target)).flatMap (Lookup.numerals nodes) =
      Lookup.numerals nodes source ++ (Lookup.numerals nodes target ++ []) := by simp [bothEnds]
  rw [hflat]
  refine (Lookup.reads_resolve source nodes).bind fun s _ =>
    (Lookup.reads_resolve target nodes).bind fun t _ => ?_
  rcases s with _ | s
  · exact Reads.ok _
  rcases t with _ | t
  · exact Reads.ok _
  · exact Reads.ok _

theorem reads_build (d : Draft) (nodes : Listing) : Reads (d.build nodes) (d.numerals nodes) := by
  rw [build, numerals, lookedUp]
  cases d.intent with
  | add => exact Reads.ok _
  | delete =>
    cases d.node with
    | none => exact Reads.ok _
    | some m => simpa using reads_withNode m nodes .delete
  | update =>
    cases d.node with
    | none => simpa using Reads.ok (Command.unknown Usage.update)
    | some m =>
      by_cases hlabel : d.trimmedLabel.isEmpty = true
      · simpa [hlabel] using Reads.ok (Command.unknown Usage.update)
      · simpa [hlabel] using reads_withNode m nodes fun id => .update id d.trimmedLabel
  | connect => exact reads_withEnds _ _ nodes _
  | disconnect => exact reads_withEnds _ _ nodes _
  | explain => exact Reads.ok _
  | unknown =>
    rcases d.message with _ | _ | ⟨c, rest⟩
    · exact Reads.ok _
    · exact Reads.ok _
    · exact Reads.ok _

theorem mem_mentions_of_lookedUp (h : m ∈ d.lookedUp) : m ∈ d.mentions := by
  have hends : m ∈ bothEnds d.source d.target → m ∈ d.mentions := by
    rcases hs : d.source with _ | s <;> rcases ht : d.target with _ | t <;>
      simp +contextual [bothEnds, mentions, hs, ht]
  rw [lookedUp] at h
  cases hi : d.intent with
  | delete =>
    rw [hi] at h
    simp [mentions, h]
  | update =>
    rw [hi] at h
    by_cases hlabel : d.trimmedLabel.isEmpty = true
    · simp [hlabel] at h
    · simp [mentions, show m ∈ d.node.toList by simpa [hlabel] using h]
  | connect | disconnect =>
    rw [hi] at h
    exact hends h
  | add | explain | unknown => simp [hi] at h

/-- The digits stand in a mention of the draft. -/
theorem runs_numerals (d : Draft) (nodes : Listing) :
    ∀ ds ∈ d.numerals nodes, AllDigits ds ∧ ∃ m ∈ d.mentions, ds <:+: m.text := by
  intro ds hds
  obtain ⟨m, hm, hds⟩ := List.mem_flatMap.1 hds
  obtain ⟨hdigits, hinfix⟩ := Lookup.runsOf_numerals nodes m ds hds
  exact ⟨hdigits, m, mem_mentions_of_lookedUp hm, hinfix⟩

end Draft

/-- With the help of a hosted model there is a command if the draft that it gives, which is built
without another attempt, names no node by a run of more than `maxDigits` digits, and if the
utterance can be interpreted where it gives no draft. -/
theorem interpretWith_ok_iff (a : Assistant) (t : Text) (nodes : Listing) :
    ((∃ c, interpretWith (some a) t nodes = .ok c) ↔
        (∀ d, (a.ask t nodes).result = .ok d →
          ∀ ds ∈ d.numerals nodes, ds.length ≤ maxDigits) ∧
        ∀ e, (a.ask t nodes).result = .error e → ∃ c, interpret t nodes = .ok c) ∧
      ∀ d, (a.ask t nodes).result = .ok d →
        ∀ ds ∈ d.numerals nodes, AllDigits ds ∧ ∃ m ∈ d.mentions, ds <:+: m.text := by
  refine ⟨?_, fun d _ => Draft.runs_numerals d nodes⟩
  rw [interpretWith]
  cases hasked : (a.ask t nodes).result with
  | ok d =>
    have hbuild := Draft.reads_build d nodes
    rw [Reads] at hbuild
    simpa using hbuild
  | error e => simp

end FlowTalk
