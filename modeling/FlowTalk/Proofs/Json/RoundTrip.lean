import FlowTalk.Proofs.Json.Numbers
import FlowTalk.Proofs.Json.Reading
import FlowTalk.Proofs.Json.Strings

/-! A written value is read back, in any layout. -/
namespace FlowTalk.Json

variable {d k : Nat} {l : Layout} {v : Json} {vs : List Json} {name t u : Text}
  {ms : List (Text × Json)}

/-- A value that is read back as it is written: its numbers are, the names in each object are
distinct, and it is nested at most so deep. -/
inductive Exact : Nat → Json → Prop
  | null {d : Nat} : Exact d .null
  | bool {d : Nat} (b : Bool) : Exact d (.bool b)
  | num {d : Nat} {n : Number} (h : ReadsBack n) : Exact d (.num n)
  | str {d : Nat} (t : Text) : Exact d (.str t)
  | arr {d : Nat} {vs : List Json} (h : ∀ v ∈ vs, Exact d v) : Exact (d + 1) (.arr vs)
  | obj {d : Nat} {ms : List (Text × Json)} (hnames : (ms.map Prod.fst).Nodup)
      (h : ∀ m ∈ ms, Exact d m.2) : Exact (d + 1) (.obj ms)

/-! Objects -/

theorem putMember_of_new (h : name ∉ ms.map Prod.fst) :
    putMember ms name v = ms ++ [(name, v)] := by
  have hnone : ms.any (fun m => m.1 == name) = false := by
    refine List.any_eq_false.2 fun m hm hname => ?_
    exact h (List.mem_map.2 ⟨m, hm, by simpa using hname⟩)
  simp [putMember, hnone]

/-- Members with distinct names all count. -/
theorem distinctMembers_eq (h : (ms.map Prod.fst).Nodup) : distinctMembers ms = ms := by
  have hfold : ∀ done : List (Text × Json), ((done ++ ms).map Prod.fst).Nodup →
      ms.foldl (fun ms m => putMember ms m.1 m.2) done = done ++ ms := by
    clear h
    induction ms with
    | nil => simp
    | cons m ms ih =>
      intro done hdone
      have hnew : m.1 ∉ done.map Prod.fst := by
        rw [List.map_append, List.map_cons] at hdone
        exact fun hm => (List.nodup_append.1 hdone).2.2 m.1 hm m.1 (by simp) rfl
      rw [List.foldl_cons, putMember_of_new hnew, ih (done ++ [m]) (by simpa using hdone)]
      simp
  exact hfold [] (by simpa using h)

/-! What is written is spelled -/

theorem spacing_lineBreak (l : Layout) (k : Nat) : Spacing (l.lineBreak k) := by
  intro c hc
  rw [Layout.lineBreak] at hc
  cases hi : l.indent with
  | none => simp [hi] at hc
  | some width =>
    rw [hi] at hc
    rcases List.mem_cons.1 hc with rfl | hc
    · rfl
    · rw [List.eq_of_mem_replicate hc]
      rfl

theorem spacing_nil : Spacing [] := by simp [Spacing]

theorem spacing_space : Spacing [' '] := by simp [Spacing, isSpace]

/-- A separator is a comma and white space. -/
theorem separator_eq (l : Layout) (k : Nat) : ∃ gap, l.separator k = ',' :: gap ∧ Spacing gap := by
  rw [Layout.separator]
  cases hi : l.indent with
  | none => exact ⟨[' '], rfl, spacing_space⟩
  | some width => exact ⟨l.lineBreak k, rfl, spacing_lineBreak l k⟩

theorem spelled_writeString (t : Text) : Spelled d (.value (.str t)) (writeString t) := by
  have h := Spelled.str (d := d) (units_writeString t)
  rwa [Text.ofUnits_flatMap] at h

theorem spelled_items (hv : ∀ x ∈ v :: vs, ∀ k, Spelled d (.value x) (writeAt l k x)) :
    Spelled d (.items (v :: vs)) (writeAt l (k + 1) v ++
      (writeItems l k vs ++ (l.lineBreak (k - 1) ++ [']']))) := by
  induction vs generalizing v with
  | nil =>
    rw [writeItems, List.nil_append]
    exact .lastItem (hv v (by simp) _) (spacing_lineBreak l _)
  | cons w vs ih =>
    obtain ⟨gap, hgap, hspaces⟩ := separator_eq l k
    have hmore := ih (v := w) fun x hx => hv x (List.mem_cons_of_mem v hx)
    have hall := Spelled.item (hv v (by simp) (k + 1)) spacing_nil hspaces hmore
    simpa [writeItems, hgap] using hall

/-- A name is written with a colon and a space behind it. -/
theorem spelled_member (name : Text) (hv : Spelled d (.value v) u) :
    Spelled d (.member name v) (writeString name ++ (": ".toList ++ u)) := by
  have hnamed := Spelled.named (units_writeString name) spacing_nil spacing_space hv
  rw [Text.ofUnits_flatMap] at hnamed
  simpa [writeString] using hnamed

theorem spelled_members (hv : ∀ m ∈ (name, v) :: ms, ∀ k, Spelled d (.value m.2) (writeAt l k m.2)) :
    Spelled d (.members ((name, v) :: ms)) (writeString name ++ (": ".toList ++
      (writeAt l (k + 1) v ++ (writeMembers l k ms ++ (l.lineBreak (k - 1) ++ ['\x7d']))))) := by
  have hmember := spelled_member name (hv (name, v) (by simp) (k + 1))
  induction ms generalizing name v with
  | nil =>
    have hlast := Spelled.lastMember hmember (spacing_lineBreak l (k - 1))
    simpa [writeMembers] using hlast
  | cons m ms ih =>
    obtain ⟨gap, hgap, hspaces⟩ := separator_eq l k
    have hrest := fun x hx => hv x (List.mem_cons_of_mem (name, v) hx)
    have hmore := ih hrest (spelled_member m.1 (hrest m (by simp) (k + 1)))
    have hall := Spelled.moreMembers hmember spacing_nil hspaces hmore
    simpa [writeMembers, hgap] using hall

theorem Exact.spelled (h : Exact d v) (k : Nat) : Spelled d (.value v) (writeAt l k v) := by
  induction h generalizing k with
  | null => exact .scalar (by rw [writeAt]; rfl)
  | bool b => cases b <;> exact .scalar (by rw [writeAt]; rfl)
  | num h => exact .scalar (by rwa [writeAt])
  | str t =>
    rw [writeAt]
    exact spelled_writeString t
  | @arr d vs _ ih =>
    cases vs with
    | nil =>
      rw [writeAt]
      exact .noItems spacing_nil
    | cons v vs =>
      have hitems := spelled_items (k := k) ih
      simpa [writeAt] using Spelled.arr (spacing_lineBreak l k) hitems
  | @obj d ms hnames _ ih =>
    cases ms with
    | nil =>
      rw [writeAt]
      exact .noMembers spacing_nil
    | cons m ms =>
      have hmembers := spelled_members (k := k) ih
      have hobject := Spelled.obj (spacing_lineBreak l k) hmembers
      rw [distinctMembers_eq hnames] at hobject
      simpa [writeAt] using hobject

/-- A value is read back from its text, in any layout. -/
theorem read_write (h : Exact maxDepth v) : read (write l v) = .ok v :=
  read_eq_ok_iff.2 ⟨[], write l v, [], by simp, spacing_nil, spacing_nil, h.spelled 1⟩

end FlowTalk.Json
