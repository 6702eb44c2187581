import FlowTalk.Proofs.Json.Front

/-! The grammar of JSON texts: what the reader accepts is what the grammar spells. -/
namespace FlowTalk.Json

variable {d fuel : ℕ} {t u w r rest gap opening name : Text} {us : List ℕ} {v : Json}
  {vs : List Json} {ms : List (Text × Json)} {c : Char}

/-- White space beside the marks of a text. -/
def Spacing (t : Text) : Prop := ∀ c ∈ t, isSpace c = true

/-- What stands between the quotes of a string, with the code units that it stands for. -/
inductive Units : Text → List ℕ → Prop
  | nil : Units [] []
  | plain {c : Char} {u : Text} {us : List ℕ} (hquote : c ≠ '"') (hslash : c ≠ '\\')
      (hc : 32 ≤ c.toNat) (h : Units u us) : Units (c :: u) (c.toNat :: us)
  | escape {e x : Char} {u : Text} {us : List ℕ} (he : e ≠ 'u') (hx : escaped? e = some x)
      (h : Units u us) : Units ('\\' :: e :: u) (x.toNat :: us)
  | unit {h₁ h₂ h₃ h₄ : Char} {n : ℕ} {u : Text} {us : List ℕ}
      (hn : hexUnit? h₁ h₂ h₃ h₄ = some n) (h : Units u us) :
      Units ('\\' :: 'u' :: h₁ :: h₂ :: h₃ :: h₄ :: u) (n :: us)

/-- The digits of a code unit are no marks. -/
theorem hexValue?_of_hexUnit? {h₁ h₂ h₃ h₄ : Char} {n : ℕ} (h : hexUnit? h₁ h₂ h₃ h₄ = some n) :
    ∀ c ∈ [h₁, h₂, h₃, h₄], hexValue? c ≠ none := by
  simp only [hexUnit?, Option.bind_eq_bind, Option.bind_eq_some_iff] at h
  obtain ⟨a, ha, b, hb, c, hc, d, hd, _⟩ := h
  simp [ha, hb, hc, hd]

/-- What a piece of a text can be: a value, a member of an object, the items of an array with the
bracket that closes it, the members of an object with the brace that closes it. -/
inductive Part where
  | value (v : Json)
  | member (name : Text) (v : Json)
  | items (vs : List Json)
  | members (ms : List (Text × Json))

/-- A text of a part in which arrays and objects are nested at most so deep. -/
inductive Spelled : ℕ → Part → Text → Prop
  | scalar {d : ℕ} {v : Json} {u : Text} (h : Json.scalar u = .ok (v, [])) :
      Spelled d (.value v) u
  | str {d : ℕ} {u : Text} {us : List ℕ} (h : Units u us) :
      Spelled d (.value (.str (Text.ofUnits us))) ('"' :: (u ++ ['"']))
  | noItems {d : ℕ} {gap : Text} (hgap : Spacing gap) :
      Spelled (d + 1) (.value (.arr [])) ('[' :: (gap ++ [']']))
  | arr {d : ℕ} {vs : List Json} {gap u : Text} (hgap : Spacing gap)
      (h : Spelled d (.items vs) u) : Spelled (d + 1) (.value (.arr vs)) ('[' :: (gap ++ u))
  | noMembers {d : ℕ} {gap : Text} (hgap : Spacing gap) :
      Spelled (d + 1) (.value (.obj [])) ('\x7b' :: (gap ++ ['\x7d']))
  | obj {d : ℕ} {ms : List (Text × Json)} {gap u : Text} (hgap : Spacing gap)
      (h : Spelled d (.members ms) u) :
      Spelled (d + 1) (.value (.obj (distinctMembers ms))) ('\x7b' :: (gap ++ u))
  | lastItem {d : ℕ} {v : Json} {u gap : Text} (h : Spelled d (.value v) u)
      (hgap : Spacing gap) : Spelled d (.items [v]) (u ++ (gap ++ [']']))
  | item {d : ℕ} {v : Json} {vs : List Json} {u gap gap' w : Text} (h : Spelled d (.value v) u)
      (hgap : Spacing gap) (hgap' : Spacing gap') (hw : Spelled d (.items vs) w) :
      Spelled d (.items (v :: vs)) (u ++ (gap ++ ',' :: (gap' ++ w)))
  | named {d : ℕ} {v : Json} {n gap gap' u : Text} {us : List ℕ} (hname : Units n us)
      (hgap : Spacing gap) (hgap' : Spacing gap') (h : Spelled d (.value v) u) :
      Spelled d (.member (Text.ofUnits us) v) ('"' :: (n ++ '"' :: (gap ++ ':' :: (gap' ++ u))))
  | lastMember {d : ℕ} {name : Text} {v : Json} {u gap : Text}
      (h : Spelled d (.member name v) u) (hgap : Spacing gap) :
      Spelled d (.members [(name, v)]) (u ++ (gap ++ ['\x7d']))
  | moreMembers {d : ℕ} {name : Text} {v : Json} {ms : List (Text × Json)} {u gap gap' w : Text}
      (h : Spelled d (.member name v) u) (hgap : Spacing gap) (hgap' : Spacing gap')
      (hw : Spelled d (.members ms) w) :
      Spelled d (.members ((name, v) :: ms)) (u ++ (gap ++ ',' :: (gap' ++ w)))

/-! What is read is spelled -/

theorem exists_spacing (t : Text) : ∃ gap, t = gap ++ skipSpaces t ∧ Spacing gap :=
  ⟨t.takeWhile isSpace, List.takeWhile_append_dropWhile.symm, fun _ hc => List.mem_takeWhile_imp hc⟩

theorem stringUnits_sound (h : stringUnits opening t = .ok (us, r)) :
    ∃ u, t = u ++ '"' :: r ∧ Units u us := by
  fun_induction stringUnits opening t generalizing us with
  | case1 | case3 | case5 | case6 | case8 | case9 => cases h
  | case2 rest =>
    cases h
    exact ⟨[], rfl, .nil⟩
  | case4 h₁ h₂ h₃ h₄ next tail unit hunit _ ih =>
    obtain ⟨⟨us, r'⟩, hread, hpair⟩ := map_eq_ok.1 h
    cases hpair
    obtain ⟨u, htext, hu⟩ := ih hread
    exact ⟨_, by rw [htext]; rfl, .unit hunit hu⟩
  | case7 e rest he x hx _ ih =>
    obtain ⟨⟨us, r'⟩, hread, hpair⟩ := map_eq_ok.1 h
    cases hpair
    obtain ⟨u, htext, hu⟩ := ih hread
    exact ⟨_, by rw [htext]; rfl, .escape he hx hu⟩
  | case10 c rest hquote hslash hc ih =>
    obtain ⟨⟨us, r'⟩, hread, hpair⟩ := map_eq_ok.1 h
    cases hpair
    obtain ⟨u, htext, hu⟩ := ih hread
    exact ⟨_, by rw [htext]; rfl, .plain hquote hslash (by omega) hu⟩

theorem string_sound (h : string opening t = .ok (name, r)) :
    ∃ u us, t = u ++ '"' :: r ∧ Units u us ∧ name = Text.ofUnits us := by
  obtain ⟨⟨us, r'⟩, hread, hpair⟩ := map_eq_ok.1 h
  cases hpair
  obtain ⟨u, htext, hu⟩ := stringUnits_sound hread
  exact ⟨u, us, htext, hu, rfl⟩

/-- The part stands at the front of the text, before the rest. -/
def Fronts (d : ℕ) (part : Part) (t r : Text) : Prop := ∃ u, t = u ++ r ∧ Spelled d part u

/-- With so many steps only spelled parts are read. -/
structure Sound (fuel : ℕ) : Prop where
  value : ∀ {d t v r}, value fuel d t = .ok (v, r) → Fronts d (.value v) t r
  items : ∀ {d t vs r}, items fuel d t = .ok (vs, r) → Fronts d (.items vs) t r
  members : ∀ {d t ms r}, members fuel d t = .ok (ms, r) → Fronts d (.members ms) t r

section Steps

variable (ih : Sound fuel)

include ih

theorem value_sound (h : value (fuel + 1) d t = .ok (v, r)) : Fronts d (.value v) t r := by
  cases t with
  | nil => cases h
  | cons c rest =>
    obtain ⟨gap, hgap, hspaces⟩ := exists_spacing rest
    rw [value.eq_def] at h
    dsimp only at h
    by_cases hquote : c = '"'
    · rw [if_pos hquote] at h
      obtain ⟨⟨name, r'⟩, hread, hpair⟩ := map_eq_ok.1 h
      cases hpair
      obtain ⟨u, us, rfl, hu, rfl⟩ := string_sound hread
      exact ⟨'"' :: (u ++ ['"']), by simp [hquote], .str hu⟩
    · rw [if_neg hquote] at h
      by_cases hbrace : c = '\x7b'
      · rw [if_pos hbrace] at h
        cases d with
        | zero => cases h
        | succ d =>
          dsimp only at h
          split at h
          · next u hu =>
            cases h
            rw [hu] at hgap
            exact ⟨'\x7b' :: (gap ++ ['\x7d']), by simp [hbrace, hgap], .noMembers hspaces⟩
          · obtain ⟨⟨ms, r'⟩, hread, hpair⟩ := map_eq_ok.1 h
            cases hpair
            obtain ⟨u, hu, hms⟩ := ih.members hread
            rw [hu] at hgap
            exact ⟨'\x7b' :: (gap ++ u), by simp [hbrace, hgap], .obj hspaces hms⟩
      · rw [if_neg hbrace] at h
        by_cases hbracket : c = '['
        · rw [if_pos hbracket] at h
          cases d with
          | zero => cases h
          | succ d =>
            dsimp only at h
            split at h
            · next u hu =>
              cases h
              rw [hu] at hgap
              exact ⟨'[' :: (gap ++ [']']), by simp [hbracket, hgap], .noItems hspaces⟩
            · obtain ⟨⟨vs, r'⟩, hread, hpair⟩ := map_eq_ok.1 h
              cases hpair
              obtain ⟨u, hu, hvs⟩ := ih.items hread
              rw [hu] at hgap
              exact ⟨'[' :: (gap ++ u), by simp [hbracket, hgap], .arr hspaces hvs⟩
        · rw [if_neg hbracket] at h
          obtain ⟨u, htext, hu, _⟩ := scalar_front h
          exact ⟨u, htext, .scalar hu⟩

theorem items_sound (h : items (fuel + 1) d t = .ok (vs, r)) : Fronts d (.items vs) t r := by
  rw [items] at h
  cases hread : value fuel d t with
  | error stop => simp [hread] at h
  | ok read =>
    obtain ⟨v, r'⟩ := read
    obtain ⟨u, rfl, hv⟩ := ih.value hread
    obtain ⟨gap, hgap, hspaces⟩ := exists_spacing r'
    rw [hread] at h
    dsimp only at h
    split at h
    · next s hs =>
      cases h
      rw [hs] at hgap
      exact ⟨u ++ (gap ++ [']']), by simp [hgap], .lastItem hv hspaces⟩
    · next s hs =>
      obtain ⟨⟨vs, r''⟩, hmore, hpair⟩ := map_eq_ok.1 h
      cases hpair
      obtain ⟨w, hw, hvs⟩ := ih.items hmore
      obtain ⟨gap', hgap', hspaces'⟩ := exists_spacing s
      rw [hw] at hgap'
      rw [hs, hgap'] at hgap
      exact ⟨u ++ (gap ++ ',' :: (gap' ++ w)), by simp [hgap], .item hv hspaces hspaces' hvs⟩
    · cases h

theorem members_sound (h : members (fuel + 1) d t = .ok (ms, r)) :
    Fronts d (.members ms) t r := by
  rw [members.eq_def] at h
  dsimp only at h
  split at h
  · next t =>
    cases hname : string ('"' :: t) t with
    | error stop => simp [hname] at h
    | ok read =>
      obtain ⟨name, r₁⟩ := read
      obtain ⟨n, us, rfl, hn, rfl⟩ := string_sound hname
      rw [hname] at h
      dsimp only at h
      split at h
      · next r₂ hcolon =>
        obtain ⟨gap₁, hgap₁, hspaces₁⟩ := exists_spacing r₁
        obtain ⟨gap₂, hgap₂, hspaces₂⟩ := exists_spacing r₂
        cases hread : value fuel d (skipSpaces r₂) with
        | error stop => simp [hread] at h
        | ok read =>
          obtain ⟨v, r₃⟩ := read
          obtain ⟨u, hu, hv⟩ := ih.value hread
          obtain ⟨gap₃, hgap₃, hspaces₃⟩ := exists_spacing r₃
          have hmember := Spelled.named hn hspaces₁ hspaces₂ hv
          rw [hread] at h
          dsimp only at h
          split at h
          · next r₄ hclose =>
            cases h
            refine ⟨_, ?_, .lastMember hmember hspaces₃⟩
            rw [hgap₁, hcolon, hgap₂, hu, hgap₃, hclose]
            simp
          · next r₄ hcomma =>
            obtain ⟨⟨ms, r₅⟩, hmore, hpair⟩ := map_eq_ok.1 h
            cases hpair
            obtain ⟨w, hw, hms⟩ := ih.members hmore
            obtain ⟨gap₄, hgap₄, hspaces₄⟩ := exists_spacing r₄
            refine ⟨_, ?_, .moreMembers hmember hspaces₃ hspaces₄ hms⟩
            rw [hgap₁, hcolon, hgap₂, hu, hgap₃, hcomma, hgap₄, hw]
            simp
          · cases h
      · cases h
  · cases h

end Steps

theorem sound (fuel : ℕ) : Sound fuel := by
  induction fuel with
  | zero => exact ⟨nofun, nofun, nofun⟩
  | succ fuel ih => exact ⟨value_sound ih, items_sound ih, members_sound ih⟩

end FlowTalk.Json
