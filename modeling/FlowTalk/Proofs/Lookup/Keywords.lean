import FlowTalk.Proofs.Lookup.Ranking
import FlowTalk.Proofs.Text.Settled
import FlowTalk.Proofs.Text.Words
import FlowTalk.Proofs.Utterance.Sentence

/-! Keywords are a normal form: the keywords of keywords are the same, and a lookup by keywords only
depends on which there are. -/
namespace FlowTalk.Lookup
open Text

variable {s t w : Text} {ws : List Text}

/-- Words with single spaces between them are the words of the text. -/
theorem words_sentence (hws : ∀ w ∈ ws, IsWord w) : words (sentence ws) = ws := by
  induction ws with
  | nil => rfl
  | cons w ws ih =>
    have hw := hws w (by simp)
    have hrest : words (sentence ws) = ws := ih fun v hv => hws v (by simp [hv])
    by_cases hne : ws = []
    · subst hne
      have halone : words (w ++ []) = [w] := words_append hw (by simp)
      rw [List.append_nil] at halone
      rw [sentence_singleton, halone]
    · have hspace : isBlank ' ' = true := by decide
      rw [sentence_cons hne, words_append hw (by simp [hspace]), words_cons_of_blank hspace, hrest]

/-- A text that can be a keyword: something to see throughout, with no punctuation at its ends, and no
stop word. -/
structure IsKeyword (w : Text) : Prop where
  word : IsWord w
  first : ∀ c ∈ w.head?, isPunctuation c = false
  last : ∀ c ∈ w.getLast?, isPunctuation c = false
  telling : w ∉ stopWords

theorem mem_keywords_iff : w ∈ keywords t ↔
    w ≠ [] ∧ w ∉ stopWords ∧ ∃ v ∈ words (lower t), trimWhere isPunctuation v = w := by
  rw [keywords, List.mem_filter, List.mem_map]
  simp only [Bool.and_eq_true, Bool.not_eq_true', List.isEmpty_eq_false_iff,
    List.contains_eq_mem, decide_eq_false_iff_not]
  constructor
  · rintro ⟨hv, hne, hstop⟩
    exact ⟨hne, hstop, hv⟩
  · rintro ⟨hne, hstop, hv⟩
    exact ⟨hv, hne, hstop⟩

/-- A keyword is a piece of a word of the text in lower case. -/
theorem isKeyword_of_mem (hw : w ∈ keywords t) : IsKeyword w ∧ w ⊆ lower t := by
  obtain ⟨hne, hstop, v, hv, rfl⟩ := mem_keywords_iff.1 hw
  obtain ⟨hword, hsub⟩ := mem_words hv
  have hpiece : trimWhere isPunctuation v ⊆ v := (trimWhere_isInfix isPunctuation v).subset
  obtain ⟨hfirst, hlast⟩ := ends_of_trimWhere_eq (trimWhere_trimWhere isPunctuation v)
  exact ⟨⟨⟨hne, fun c hc => hword.seen c (hpiece hc)⟩, hfirst, hlast, hstop⟩,
    List.Subset.trans hpiece hsub⟩

/-- Keywords in lower case with single spaces between them are read back as they are. -/
theorem keywords_sentence (hws : ∀ w ∈ ws, IsKeyword w) (hlower : ∀ w ∈ ws, ∀ c ∈ w, KeepsCase c) :
    keywords (sentence ws) = ws := by
  have hkeeps : ∀ c ∈ sentence ws, KeepsCase c := by
    intro c hc
    rcases mem_sentence hc with rfl | ⟨w, hw, hc⟩
    · decide
    · exact hlower w hw c hc
  have hwords : words (sentence ws) = ws := words_sentence fun w hw => (hws w hw).word
  have htrim : ws.map (trimWhere isPunctuation) = ws := by
    have hself : ∀ w ∈ ws, trimWhere isPunctuation w = w := by
      intro w hw
      exact trimWhere_eq_self (hws w hw).first (hws w hw).last
    rw [List.map_congr_left hself, List.map_id']
  rw [keywords, lower_eq_self hkeeps, hwords, htrim]
  apply List.filter_eq_self.2
  intro w hw
  simp [(hws w hw).word.ne_nil, (hws w hw).telling]

/-- A lookup by keywords asks whether there are any, whether all satisfy a test and whether one
does. -/
theorem byKeywords_of_same (h : ∀ w, w ∈ keywords s ↔ w ∈ keywords t) (nodes : Listing) :
    byKeywords s nodes = byKeywords t nodes := by
  have hempty : (keywords s).isEmpty = (keywords t).isEmpty := by
    rw [Bool.eq_iff_iff, List.isEmpty_iff, List.isEmpty_iff, List.eq_nil_iff_forall_not_mem,
      List.eq_nil_iff_forall_not_mem]
    simp only [h]
  have hall (p : Text → Bool) : (keywords s).all p = (keywords t).all p := by
    rw [Bool.eq_iff_iff, List.all_eq_true, List.all_eq_true]
    simp only [h]
  have hany (p : Text → Bool) : (keywords s).any p = (keywords t).any p := by
    rw [Bool.eq_iff_iff, List.any_eq_true, List.any_eq_true]
    simp only [h]
  simp only [byKeywords_eq, hempty, hall, hany]

/-- Which node is found by keywords depends on nothing but which keywords there are, not on their
order, their number or how they were written. No keyword is empty, has white space in it, begins or
ends with punctuation or is a stop word, and the keywords of the keywords of a text, written with
spaces between them, are the same ones in their order. -/
theorem keywords_normal_form :
    (∀ s t, (∀ w, w ∈ keywords s ↔ w ∈ keywords t) →
        ∀ nodes, byKeywords s nodes = byKeywords t nodes) ∧
      ∀ t, (∀ w ∈ keywords t, w ≠ [] ∧ (∀ c ∈ w, isBlank c = false) ∧
          (∀ c ∈ w.head?, isPunctuation c = false) ∧ (∀ c ∈ w.getLast?, isPunctuation c = false) ∧
          w ∉ stopWords) ∧
        keywords (joinWith " ".toList (keywords t)) = keywords t := by
  refine ⟨?_, ?_⟩
  · intro s t hsame nodes
    exact byKeywords_of_same hsame nodes
  · intro t
    refine ⟨?_, ?_⟩
    · intro w hw
      obtain ⟨⟨⟨hne, hseen⟩, hfirst, hlast, htelling⟩, _⟩ := isKeyword_of_mem hw
      exact ⟨hne, hseen, hfirst, hlast, htelling⟩
    · apply keywords_sentence
      · intro w hw
        exact (isKeyword_of_mem hw).1
      · intro w hw c hc
        exact keepsCase_of_mem_lower ((isKeyword_of_mem hw).2 hc)

/-- Two ways to ask for one node, and two forms of a sigma. -/
theorem keywords_normal_form_crowd :
    (∀ w, w ∈ keywords "the End Call node".toList ↔ w ∈ keywords "(CALL!) END, call".toList) ∧
      byKeywords "the End Call node".toList crowd = byKeywords "(CALL!) END, call".toList crowd ∧
      keywords "ΟΔΟΣ “the” Σ".toList = ["οδος".toList, "σ".toList] ∧
      keywords "οδος σ".toList = ["οδος".toList, "σ".toList] := by
  obtain ⟨hsame, hnormal⟩ := keywords_normal_form
  have hplain : keywords "the End Call node".toList = ["end".toList, "call".toList] := by
    decide +kernel
  have hmarked : keywords "(CALL!) END, call".toList =
      ["call".toList, "end".toList, "call".toList] := by decide +kernel
  have hwords : ∀ w, w ∈ keywords "the End Call node".toList ↔
      w ∈ keywords "(CALL!) END, call".toList := by
    intro w
    rw [hplain, hmarked]
    simp only [List.mem_cons, List.not_mem_nil, or_false]
    tauto
  have hgreek : keywords "ΟΔΟΣ “the” Σ".toList = ["οδος".toList, "σ".toList] := by decide +kernel
  have hagain := (hnormal "ΟΔΟΣ “the” Σ".toList).2
  rw [hgreek] at hagain
  exact ⟨hwords, hsame _ _ hwords crowd, hgreek, hagain⟩

end FlowTalk.Lookup
