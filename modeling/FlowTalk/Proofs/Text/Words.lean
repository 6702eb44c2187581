import FlowTalk.Text.Basic

/-! The words of a text: what they are made of, and the text that is made of them. -/
namespace FlowTalk.Text

variable {t u w : Text} {ws : List Text} {c d : Char}

/-- A text of something else than white space. -/
structure IsWord (w : Text) : Prop where
  ne_nil : w ≠ []
  seen : ∀ c ∈ w, isBlank c = false

theorem words_cons_of_blank (hc : isBlank c = true) : words (c :: t) = words t := by
  rw [words.eq_def]
  simp [hc]

/-- A word ends where the text does or where white space begins. -/
theorem words_cons_of_stop (hc : isBlank c = false) (hu : ∀ d ∈ u.head?, isBlank d = true) :
    words (c :: u) = [c] :: words u := by
  cases u with
  | nil => simp [words, hc]
  | cons d u =>
    have hd : isBlank d = true := hu d rfl
    rw [words, if_neg (by simp [hc])]
    simp [hd]

/-- A character before a word belongs to the word. -/
theorem words_cons_of_words (hc : isBlank c = false) (hd : isBlank d = false)
    (hw : words (d :: t) = w :: ws) : words (c :: d :: t) = (c :: w) :: ws := by
  rw [words, if_neg (by simp [hc])]
  simp [hd, hw]

theorem words_append (hw : IsWord w) (hu : ∀ d ∈ u.head?, isBlank d = true) :
    words (w ++ u) = w :: words u := by
  obtain ⟨hne, hseen⟩ := hw
  induction w with
  | nil => exact absurd rfl hne
  | cons c w ih =>
    cases w with
    | nil => exact words_cons_of_stop (hseen c (by simp)) hu
    | cons d w =>
      have hrest := ih (by simp) fun x hx => hseen x (by simp [hx])
      exact words_cons_of_words (hseen c (by simp)) (hseen d (by simp)) hrest

theorem isWord_cons (hc : ¬ isBlank c = true) (hw : ∀ c ∈ w, isBlank c = false) :
    IsWord (c :: w) := by
  refine ⟨List.cons_ne_nil c w, ?_⟩
  intro d hd
  rcases List.mem_cons.1 hd with rfl | hd
  · simpa using hc
  · exact hw d hd

/-- A word of a text is made of characters of the text, none of them white space. -/
theorem mem_words (hw : w ∈ words t) : IsWord w ∧ w ⊆ t := by
  fun_induction words t generalizing w with
  | case1 => simp at hw
  | case2 c rest hc ih =>
    obtain ⟨hword, hsub⟩ := ih hw
    exact ⟨hword, List.subset_cons_of_subset c hsub⟩
  | case3 c hc =>
    obtain rfl := List.mem_singleton.1 hw
    exact ⟨isWord_cons hc (by simp), List.Subset.refl [c]⟩
  | case4 c hc d rest hd ih =>
    rcases List.mem_cons.1 hw with rfl | hw
    · exact ⟨isWord_cons hc (by simp), by simp⟩
    · obtain ⟨hword, hsub⟩ := ih hw
      exact ⟨hword, List.subset_cons_of_subset c hsub⟩
  | case5 c hc d rest hd hnone ih =>
    rw [hnone] at hw
    obtain rfl := List.mem_singleton.1 hw
    exact ⟨isWord_cons hc (by simp), by simp⟩
  | case6 c hc d rest hd v vs hvs ih =>
    rw [hvs] at hw ih
    rcases List.mem_cons.1 hw with rfl | hw
    · obtain ⟨hword, hsub⟩ := ih List.mem_cons_self
      exact ⟨isWord_cons hc hword.seen, List.cons_subset_cons c hsub⟩
    · obtain ⟨hword, hsub⟩ := ih (List.mem_cons_of_mem v hw)
      exact ⟨hword, List.subset_cons_of_subset c hsub⟩

end FlowTalk.Text
