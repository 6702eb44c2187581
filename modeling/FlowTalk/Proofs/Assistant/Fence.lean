import FlowTalk.Assistant.Reply
import FlowTalk.Proofs.Pattern.Erase
import FlowTalk.Proofs.Pattern.WholeWord

/-! What is left of a text without the marks around blocks of code. -/
namespace FlowTalk.Reply
open Pattern

variable {t x y u : Text} {b : Option Char} {c : Char} {n : Nat} {w : List Char}

/-- How long the mark at the front of a text is, if there is one. -/
def fenceLength? (t : Text) : Option Nat :=
  if "```".toList <+: t.map baseLetter then
    some (if "json".toList <+: (t.drop 3).map baseLetter then 7 else 3)
  else none

theorem matchAfter_fence (b : Option Char) (t : Text) :
    fence.matchAfter b t = (fenceLength? t).map fun n => ⟨[], t.take n, t.drop n, []⟩ := by
  have hmark : fence.run ⟨b, t, 0, []⟩ some =
      if "```".toList <+: t.map baseLetter then
        (Pattern.optional (phrase "json")).run ⟨(t.take 3).getLast?.or b, t.drop 3, 3, []⟩ some
      else none := run_phrase (by decide)
  rw [matchAfter, hmark, fenceLength?]
  by_cases h : "```".toList <+: t.map baseLetter
  · rw [if_pos h, if_pos h]
    generalize (t.take 3).getLast?.or b = b
    have hword : (phrase "json").run ⟨b, t.drop 3, 3, []⟩ some =
        if "json".toList <+: (t.drop 3).map baseLetter then
          some ⟨((t.drop 3).take 4).getLast?.or b, (t.drop 3).drop 4, 7, []⟩
        else none := run_phrase (by decide)
    by_cases hjson : "json".toList <+: (t.drop 3).map baseLetter
    · rw [if_pos hjson, List.drop_drop] at hword
      rw [if_pos hjson, Pattern.optional, run_or_of_some hword]
      rfl
    · rw [if_neg hjson] at hword
      rw [if_neg hjson, Pattern.optional, run_or_of_none hword]
      rfl
  · rw [if_neg h, if_neg h]
    rfl

theorem looksAhead_fence : fence.LooksAhead := fun b t => by
  rw [matchFront, matchAfter_fence, matchAfter_fence]

theorem matchFront_fence (t : Text) : fence.matchFront t =
    (fenceLength? t).map fun n => ⟨[], t.take n, t.drop n, []⟩ := matchAfter_fence none t

theorem length_le_of_prefix_map {f : Char → Char} (h : w <+: t.map f) : w.length ≤ t.length := by
  simpa using h.length_le

theorem fenceLength?_bounds (h : fenceLength? t = some n) : 0 < n ∧ n ≤ t.length := by
  rw [fenceLength?] at h
  split at h
  · next hmark =>
    have hthree : 3 ≤ t.length := length_le_of_prefix_map hmark
    split at h
    · next hjson =>
      have hfour : 4 ≤ (t.drop 3).length := length_le_of_prefix_map hjson
      rw [List.length_drop] at hfour
      cases h
      omega
    · cases h
      omega
  · cases h

@[simp]
theorem erase_fence_nil : fence.erase [] = [] := rfl

theorem erase_fence_of_none (h : fenceLength? (c :: t) = none) :
    fence.erase (c :: t) = c :: fence.erase t :=
  looksAhead_fence.erase_cons (by rw [matchFront_fence, h, Option.map_none])

theorem erase_fence_of_some (h : fenceLength? t = some n) :
    fence.erase t = fence.erase (t.drop n) := by
  have hmatch : fence.matchFront t = some ⟨[], t.take n, t.drop n, []⟩ := by
    rw [matchFront_fence, h, Option.map_some]
  obtain ⟨hpos, hn⟩ := fenceLength?_bounds h
  refine looksAhead_fence.erase_of_match hmatch fun hnil => ?_
  have hlength := congrArg List.length hnil
  simp only [List.length_take, List.length_nil] at hlength
  omega

/-! A character that is in no mark keeps what is before it apart from what follows -/

/-- The character can stand in a mark. -/
def InFence (c : Char) : Prop :=
  baseLetter c ∈ "```".toList ∨ baseLetter c ∈ "json".toList

instance : DecidablePred InFence := fun _ => inferInstanceAs (Decidable (_ ∨ _))

theorem mem_of_prefix_map {f : Char → Char} (h : w <+: t.map f) (hc : c ∈ t.take w.length) :
    f c ∈ w := by
  rw [List.prefix_iff_eq_take.1 h, ← List.map_take]
  exact List.mem_map_of_mem hc

theorem inFence_of_mem_take (h : fenceLength? t = some n) (hc : c ∈ t.take n) : InFence c := by
  rw [fenceLength?] at h
  split at h
  · next hmark =>
    split at h
    · next hjson =>
      cases h
      rw [List.take_add (i := 3) (j := 4), List.mem_append] at hc
      exact hc.imp (mem_of_prefix_map hmark) (mem_of_prefix_map hjson)
    · cases h
      exact Or.inl (mem_of_prefix_map hmark hc)
  · cases h

theorem prefix_append_cons_iff (h : c ∉ w) : w <+: x ++ c :: y ↔ w <+: x := by
  refine ⟨fun hw => ?_, fun hw => hw.trans (List.prefix_append x _)⟩
  rcases Nat.lt_or_ge x.length w.length with hlength | hlength
  · have hlonger : x ++ [c] <+: w :=
      List.prefix_of_prefix_length_le ⟨y, by simp⟩ hw (by rwa [List.length_append])
    exact absurd (hlonger.subset (by simp)) h
  · exact List.prefix_of_prefix_length_le hw (List.prefix_append x _) hlength

theorem fenceLength?_append_cons (hc : ¬ InFence c) :
    fenceLength? (x ++ c :: y) = fenceLength? x := by
  obtain ⟨hmark, hword⟩ := not_or.1 hc
  have hsame (x : Text) {w : List Char} (hw : baseLetter c ∉ w) :
      w <+: (x ++ c :: y).map baseLetter ↔ w <+: x.map baseLetter := by
    rw [List.map_append, List.map_cons, prefix_append_cons_iff hw]
  by_cases h : "```".toList <+: x.map baseLetter
  · have hthree : 3 ≤ x.length := length_le_of_prefix_map h
    rw [fenceLength?, fenceLength?, if_pos h, if_pos ((hsame x hmark).2 h),
      List.drop_append_of_le_length hthree]
    simp only [hsame _ hword]
  · rw [fenceLength?, fenceLength?, if_neg h, if_neg fun h' => h ((hsame x hmark).1 h')]

theorem erase_fence_append_cons (hc : ¬ InFence c) :
    fence.erase (x ++ c :: y) = fence.erase x ++ c :: fence.erase y := by
  induction hn : x.length using Nat.strongRecOn generalizing x with
  | ind n ih =>
    have hlength : fenceLength? (x ++ c :: y) = fenceLength? x := fenceLength?_append_cons hc
    cases hfence : fenceLength? x with
    | some m =>
      obtain ⟨hpos, hm⟩ := fenceLength?_bounds hfence
      have hlater := ih (x.drop m).length (by rw [List.length_drop]; omega) rfl
      rw [erase_fence_of_some (hlength.trans hfence), erase_fence_of_some hfence,
        List.drop_append_of_le_length hm, hlater]
    | none =>
      rw [hfence] at hlength
      cases x with
      | nil => exact erase_fence_of_none hlength
      | cons d x =>
        have hlater := ih x.length (by simp [← hn]) rfl
        rw [List.cons_append] at hlength ⊢
        rw [erase_fence_of_none hlength, erase_fence_of_none hfence, hlater, List.cons_append]

/-! A text without three backticks in a row has no mark -/

theorem backticks_of_prefix_map (h : "```".toList <+: t.map baseLetter) : "```".toList <+: t := by
  obtain ⟨back, hback⟩ := h
  obtain ⟨u, v, rfl, hu, -⟩ := List.map_eq_append_iff.1 hback.symm
  have hmark : u = List.replicate 3 '`' := by
    rw [List.eq_replicate_iff]
    refine ⟨by simpa using congrArg List.length hu, fun c hc => ?_⟩
    have hbase : baseLetter c ∈ "```".toList := hu ▸ List.mem_map_of_mem hc
    exact eq_of_baseLetter (by simpa using hbase) (by decide)
  exact ⟨v, by rw [hmark]; rfl⟩

/-- Every mark begins with a backtick. -/
theorem erase_fence_cons (hc : c ≠ '`') (t : Text) : fence.erase (c :: t) = c :: fence.erase t := by
  refine erase_fence_of_none (if_neg fun hmark => ?_)
  obtain ⟨back, hback⟩ := backticks_of_prefix_map hmark
  exact hc (List.cons.inj hback).1.symm

theorem erase_fence_eq_self (h : ¬ "```".toList <:+: t) : fence.erase t = t := by
  induction t with
  | nil => rfl
  | cons c t ih =>
    have hnone : fenceLength? (c :: t) = none :=
      if_neg fun hmark => h (backticks_of_prefix_map hmark).isInfix
    rw [erase_fence_of_none hnone, ih fun hmid => h (hmid.trans (List.suffix_cons c t).isInfix)]

end FlowTalk.Reply
