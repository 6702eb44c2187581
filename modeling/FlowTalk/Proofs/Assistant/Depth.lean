import FlowTalk.Assistant.Reply
import Mathlib.Data.List.Infix
import Mathlib.Data.List.TakeWhile

/-! The scan for braces stops where as many braces are closed as opened, strings apart. -/
namespace FlowTalk.Reply

variable {t u v w p rest : Text} {c : Char} {n n' : Nat} {mode mode' : Mode} {e : TextError}

/-- What follows the quote that ends a string. In it a backslash takes the next character along. -/
def afterString : Text → Text
  | [] => []
  | c :: t =>
    if c = '"' then t else if c = '\\' then afterString (t.drop 1) else afterString t
termination_by t => t.length
decreasing_by
  · simp only [List.length_drop, List.length_cons]
    omega
  · simp

theorem length_afterString_le (t : Text) : (afterString t).length ≤ t.length := by
  fun_induction afterString t with
  | case1 => simp
  | case2 => simp
  | case3 t _ ih =>
    simp only [List.length_drop, List.length_cons] at ih ⊢
    omega
  | case4 c t _ _ ih => exact Nat.le_succ_of_le ih

/-- A text without its strings in double quotes. One that has no end takes the rest with it. -/
def outsideStrings : Text → Text
  | [] => []
  | c :: t => if c = '"' then outsideStrings (afterString t) else c :: outsideStrings t
termination_by t => t.length
decreasing_by
  · exact Nat.lt_succ_of_le (length_afterString_le t)
  · simp

/-- How many more braces are opened than closed outside strings. -/
def braceDepth (t : Text) : Int :=
  (outsideStrings t).count '\x7b' - (outsideStrings t).count '\x7d'

/-- What the scan still has to look at in a text that it comes upon in a mode. -/
def Mode.left : Mode → Text → Text
  | .plain, t => t
  | .inString, t => afterString t
  | .escaped, t => afterString (t.drop 1)

theorem left_nil (mode : Mode) : mode.left [] = [] := by
  cases mode <;> simp [Mode.left, afterString]

@[simp]
theorem braceDepth_nil : braceDepth [] = 0 := by simp [braceDepth, outsideStrings]

theorem braceDepth_quote (t : Text) : braceDepth ('"' :: t) = braceDepth (afterString t) := by
  simp [braceDepth, outsideStrings]

theorem braceDepth_cons (hc : c ≠ '"') (t : Text) : braceDepth (c :: t) =
    braceDepth t + (if c = '\x7b' then 1 else 0) - if c = '\x7d' then 1 else 0 := by
  simp only [braceDepth, outsideStrings, if_neg hc, List.count_cons, beq_iff_eq]
  split <;> split <;> omega

/-- The shortest prefix of a text with so many more braces closed than opened. -/
structure Closes (n : Nat) (mode : Mode) (t u : Text) : Prop where
  isPrefix : u <+: t
  depth : braceDepth (mode.left u) = -n
  first : ∀ v, v <+: u → braceDepth (mode.left v) = -n → v = u

theorem exists_closes (hu : u <+: t) (hdepth : braceDepth (mode.left u) = -n) :
    ∃ v, Closes n mode t v := by
  induction hlength : u.length using Nat.strongRecOn generalizing u with
  | ind m ih =>
    by_cases hshort : ∃ v, v <+: u ∧ braceDepth (mode.left v) = -n ∧ v ≠ u
    · obtain ⟨v, hv, hvdepth, hne⟩ := hshort
      have hshorter : v.length < u.length :=
        Nat.lt_of_le_of_ne hv.length_le fun heq => hne (hv.eq_of_length heq)
      exact ih v.length (by omega) (hv.trans hu) hvdepth rfl
    · exact ⟨u, hu, hdepth, fun v hv hvdepth =>
        of_not_not fun hne => hshort ⟨v, hv, hvdepth, hne⟩⟩

theorem Closes.exists_cons (h : Closes (n + 1) mode (c :: t) v) : ∃ u, v = c :: u ∧ u <+: t := by
  rcases List.prefix_cons_iff.1 h.isPrefix with rfl | hcons
  · have hdepth := h.depth
    rw [left_nil, braceDepth_nil] at hdepth
    omega
  · exact hcons

/-- A step of the scan that changes the mode and the number of open braces as the character does. -/
theorem closes_cons (hstep : ∀ u, braceDepth (mode.left (c :: u)) + (n + 1) =
      braceDepth (mode'.left u) + (n' + 1)) :
    Closes (n + 1) mode (c :: t) v ↔ ∃ u, Closes (n' + 1) mode' t u ∧ c :: u = v := by
  have hdepth (u : Text) : braceDepth (mode.left (c :: u)) = -(n + 1 : Nat) ↔
      braceDepth (mode'.left u) = -(n' + 1 : Nat) := by
    have hu := hstep u
    omega
  constructor
  · intro h
    obtain ⟨u, rfl, hu⟩ := h.exists_cons
    refine ⟨u, ⟨hu, (hdepth u).1 h.depth, fun w hw hlevel => ?_⟩, rfl⟩
    exact (List.cons.inj (h.first (c :: w) ((List.prefix_cons_inj c).2 hw)
      ((hdepth w).2 hlevel))).2
  · rintro ⟨u, h, rfl⟩
    refine ⟨(List.prefix_cons_inj c).2 h.isPrefix, (hdepth u).2 h.depth, fun w hfront hlevel => ?_⟩
    rcases List.prefix_cons_iff.1 hfront with rfl | ⟨w, rfl, hw⟩
    · rw [left_nil, braceDepth_nil] at hlevel
      omega
    · rw [h.first w hw ((hdepth w).1 hlevel)]

theorem closes_brace : Closes 1 .plain ('\x7d' :: t) v ↔ ['\x7d'] = v := by
  have hone : braceDepth ['\x7d'] = -1 := by simp [braceDepth_cons]
  constructor
  · intro h
    obtain ⟨u, rfl, -⟩ := h.exists_cons
    exact h.first _ ((List.prefix_cons_inj _).2 List.nil_prefix) hone
  · rintro rfl
    refine ⟨(List.prefix_cons_inj _).2 List.nil_prefix, hone, fun w hfront hlevel => ?_⟩
    rcases List.prefix_cons_iff.1 hfront with rfl | ⟨w, rfl, hw⟩
    · simp [Mode.left] at hlevel
    · rw [List.prefix_nil.1 hw]

/-- The scan finds the shortest prefix that closes the open braces. -/
theorem upToClosing_eq_some_iff :
    upToClosing (n + 1) mode t = some v ↔ Closes (n + 1) mode t v := by
  induction t generalizing n mode v with
  | nil =>
    refine ⟨nofun, fun h => ?_⟩
    have hdepth := h.depth
    rw [List.prefix_nil.1 h.isPrefix, left_nil, braceDepth_nil] at hdepth
    omega
  | cons c t ih =>
    -- one step of the scan and what it does to the depth
    have step (n' : Nat) (mode' : Mode)
        (hscan : upToClosing (n + 1) mode (c :: t) =
          (upToClosing (n' + 1) mode' t).map (c :: ·))
        (hstep : ∀ u, braceDepth (mode.left (c :: u)) + (n + 1) =
          braceDepth (mode'.left u) + (n' + 1)) :
        upToClosing (n + 1) mode (c :: t) = some v ↔ Closes (n + 1) mode (c :: t) v := by
      rw [hscan, Option.map_eq_some_iff, closes_cons hstep]
      simp only [ih]
    cases mode with
    | escaped => exact step n .inString (by rw [upToClosing]) fun u => rfl
    | inString =>
      by_cases hslash : c = '\\'
      · subst hslash
        exact step n .escaped rfl fun u => by simp [Mode.left, afterString]
      · by_cases hquote : c = '"'
        · subst hquote
          exact step n .plain rfl fun u => by simp [Mode.left, afterString]
        · exact step n .inString (by simp [upToClosing, hslash, hquote])
            fun u => by simp [Mode.left, afterString, hslash, hquote]
    | plain =>
      by_cases hquote : c = '"'
      · subst hquote
        exact step n .inString rfl fun u => by simp [Mode.left, braceDepth_quote]
      · by_cases hopen : c = '\x7b'
        · subst hopen
          exact step (n + 1) .plain rfl fun u => by
            rw [Mode.left, Mode.left, braceDepth_cons hquote, if_pos rfl, if_neg (by decide)]
            omega
        · by_cases hclose : c = '\x7d'
          · subst hclose
            cases n with
            | zero =>
              rw [closes_brace, upToClosing, if_neg hquote, if_neg hopen, if_pos rfl, if_pos rfl,
                Option.some.injEq]
            | succ n =>
              exact step n .plain rfl fun u => by
                rw [Mode.left, Mode.left, braceDepth_cons hquote, if_neg hopen, if_pos rfl]
                omega
          · exact step n .plain (by simp [upToClosing, hquote, hopen, hclose]) fun u => by
              simp [Mode.left, braceDepth_cons hquote, hopen, hclose]

theorem upToClosing_eq_none_iff : upToClosing 1 .plain t = none ↔
    ∀ u, u <+: t → braceDepth ('\x7b' :: u) ≠ 0 := by
  have hopen (u : Text) : braceDepth ('\x7b' :: u) = 0 ↔ braceDepth u = -(1 : Nat) := by
    rw [braceDepth_cons (by decide), if_pos rfl, if_neg (by decide)]
    omega
  rw [Option.eq_none_iff_forall_ne_some]
  constructor
  · intro hnone u hu hdepth
    have hlevel : braceDepth (Mode.plain.left u) = -(1 : Nat) := (hopen u).1 hdepth
    obtain ⟨v, hv⟩ := exists_closes hu hlevel
    exact hnone v (upToClosing_eq_some_iff.2 hv)
  · intro hdepth v hv
    have hcloses := upToClosing_eq_some_iff.1 hv
    exact hdepth v hcloses.isPrefix ((hopen v).2 hcloses.depth)

/-! The outcome of the search for an object -/

theorem objectText_of_not_mem (h : '\x7b' ∉ withoutFences t) :
    objectText t = .error .noObject := by
  have hdrop : (withoutFences t).dropWhile (fun c => c != '\x7b') = [] := by
    refine List.dropWhile_eq_nil_iff.2 fun c hc => ?_
    have hne : c ≠ '\x7b' := fun heq => h (heq ▸ hc)
    simpa using hne
  rw [objectText, hdrop]

theorem objectText_of_brace (hp : '\x7b' ∉ p) (h : withoutFences t = p ++ '\x7b' :: rest) :
    objectText t = ((upToClosing 1 .plain rest).map ('\x7b' :: ·)).elim
      (.error .unbalanced) .ok := by
  have hdrop : (withoutFences t).dropWhile (fun c => c != '\x7b') = '\x7b' :: rest := by
    rw [h, List.dropWhile_append_of_pos, List.dropWhile_cons_of_neg (by decide)]
    intro c hc
    have hne : c ≠ '\x7b' := fun heq => hp (heq ▸ hc)
    simpa using hne
  have hscan : upToClosing 0 .plain ('\x7b' :: rest) =
      (upToClosing 1 .plain rest).map ('\x7b' :: ·) := rfl
  rw [objectText, hdrop]
  simp only [hscan]
  cases upToClosing 1 .plain rest <;> rfl

/-- No object is found exactly if no brace is opened or the first one is never closed. -/
theorem objectText_eq_error_iff : (∃ e, objectText t = .error e) ↔
    '\x7b' ∉ withoutFences t ∨ ∃ p rest, withoutFences t = p ++ '\x7b' :: rest ∧ '\x7b' ∉ p ∧
      ∀ u, u <+: rest → braceDepth ('\x7b' :: u) ≠ 0 := by
  constructor
  · rintro ⟨e, he⟩
    refine or_iff_not_imp_left.2 fun hmem => ?_
    obtain ⟨p, rest, hsplit, hp⟩ := List.eq_append_cons_of_mem (not_not.1 hmem)
    refine ⟨p, rest, hsplit, hp, upToClosing_eq_none_iff.1 ?_⟩
    rw [objectText_of_brace hp hsplit] at he
    cases hscan : upToClosing 1 .plain rest with
    | none => rfl
    | some u =>
      rw [hscan] at he
      cases he
  · rintro (hmem | ⟨p, rest, hsplit, hp, hdepth⟩)
    · exact ⟨_, objectText_of_not_mem hmem⟩
    · rw [objectText_of_brace hp hsplit, upToClosing_eq_none_iff.2 hdepth]
      exact ⟨_, rfl⟩

end FlowTalk.Reply
