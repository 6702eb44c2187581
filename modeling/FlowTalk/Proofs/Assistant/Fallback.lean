import FlowTalk.Proofs.Assistant.Client
import FlowTalk.Proofs.Interpret.Numbering

/-! With the help of the hosted model an utterance is taken for what the draft in its answer is
built into. Where no draft comes out of the answer, for whatever reason, the utterance is taken for
what it is taken for without help. -/
namespace FlowTalk

variable {a : Assistant} {utterance : Text} {nodes : Listing} {d : Draft}

namespace Assistant

/-- There is a key, the client has an answer of success to the post, and the body has a value that
holds a draft. -/
structure Accepts (a : Assistant) (utterance : Text) (nodes : Listing) (d : Draft) : Prop where
  configured : a.settings.isConfigured = true
  answered : ∃ answer, (a.client.post (a.post utterance nodes)).answer = .ok answer ∧
    200 ≤ answer.status ∧ answer.status < 300 ∧ answer.Holds d

theorem result_ask_eq_ok (hc : a.client.Documented) :
    (a.ask utterance nodes).result = .ok d ↔ a.Accepts utterance nodes d := by
  cases hkey : a.settings.isConfigured with
  | false =>
    rw [ask_of_no_key hkey]
    constructor
    · intro h
      cases h
    · rintro ⟨hconfigured, _⟩
      rw [hkey] at hconfigured
      cases hconfigured
  | true =>
    rw [ask_of_key hkey, Posted.draft_eq_ok]
    constructor
    · rintro ⟨answer, hanswer, hrefusal, hholds⟩
      obtain ⟨hlow, hhigh⟩ := (hc.refusal_iff _ _ hanswer).1 hrefusal
      exact ⟨hkey, answer, hanswer, hlow, hhigh, hholds⟩
    · rintro ⟨_, answer, hanswer, hlow, hhigh, hholds⟩
      exact ⟨answer, hanswer, (hc.refusal_iff _ _ hanswer).2 ⟨hlow, hhigh⟩, hholds⟩

theorem posts_ask_le_one (a : Assistant) (utterance : Text) (nodes : Listing) :
    (a.ask utterance nodes).posts.length ≤ 1 := by
  cases hkey : a.settings.isConfigured with
  | false => simp [ask_of_no_key hkey]
  | true => simp [ask_of_key hkey]

theorem requests_ask_le_one (hc : a.client.Documented) :
    (a.ask utterance nodes).requests.length ≤ 1 := by
  cases hkey : a.settings.isConfigured with
  | false => simp [ask_of_no_key hkey]
  | true =>
    rw [ask_of_key hkey]
    exact hc.requests_le_one _

end Assistant

theorem interpretWith_of_accepts (hc : a.client.Documented) (h : a.Accepts utterance nodes d) :
    interpretWith (some a) utterance nodes = d.build nodes := by
  rw [interpretWith, (Assistant.result_ask_eq_ok hc).2 h]

theorem interpretWith_of_not_accepts (hc : a.client.Documented)
    (h : ∀ d, ¬ a.Accepts utterance nodes d) :
    interpretWith (some a) utterance nodes = interpret utterance nodes := by
  rw [interpretWith]
  cases hresult : (a.ask utterance nodes).result with
  | error e => rfl
  | ok d => exact absurd ((Assistant.result_ask_eq_ok hc).1 hresult) (h d)

/-- A draft that is accepted decides on the command. If none is, the command is the one without a
hosted model, also if the nodes are numbered again before the words are looked at. At most one post
is made, and at most one request is sent for it; without a key there is neither. -/
theorem interpretWith_fallback (a : Assistant) (hc : a.client.Documented) (utterance : Text)
    (nodes : Listing) :
    (∀ d, a.Accepts utterance nodes d →
        interpretWith (some a) utterance nodes = d.build nodes) ∧
      ((∀ d, ¬ a.Accepts utterance nodes d) →
        interpretWith (some a) utterance nodes = interpret utterance nodes ∧
          interpretWith (some a) utterance nodes = interpretWith none utterance nodes ∧
          interpretWith (some a) utterance nodes = interpret utterance nodes.renumbered) ∧
      (a.ask utterance nodes).posts.length ≤ 1 ∧
      (a.ask utterance nodes).requests.length ≤ 1 ∧
      (a.settings.isConfigured = false →
        (a.ask utterance nodes).posts = [] ∧ (a.ask utterance nodes).requests = []) := by
  refine ⟨?_, ?_, a.posts_ask_le_one utterance nodes, Assistant.requests_ask_le_one hc, ?_⟩
  · intro d h
    exact interpretWith_of_accepts hc h
  · intro hnone
    have hplain := interpretWith_of_not_accepts hc hnone
    exact ⟨hplain, hplain, hplain.trans (interpret_renumbered utterance nodes).symm⟩
  · intro hkey
    rw [Assistant.ask_of_no_key hkey]
    exact ⟨rfl, rfl⟩

/-- A message in a block of code. -/
def fencedMessage : Text :=
  "```json\n\x7b\"type\": \"delete_node\", \"nodeId\": \"2\"\x7d\n```".toList

/-- A client of its own that nothing comes back to. -/
def unanswered : Assistant where
  settings := { key := "k".toList }
  openClient _ := fixedClient [] (.error "timeout".toList)

/-- A shared client for one host. The endpoint is a path there. -/
def fenced : Assistant where
  settings := { key := "k".toList, endpoint := "/v1/chat/completions".toList }
  openClient := unanswered.openClient
  shared := some (fixedClient "https://api.sarvam.ai".toList (.ok (contentAnswer fencedMessage)))

def startAndEnd : Listing :=
  .ofPairs [("a".toList, "Start".toList), ("b".toList, "End".toList)]

theorem documented_fenced : fenced.client.Documented := by
  apply documented_fixedClient
  rintro a ⟨⟩
  simp [contentAnswer]

theorem documented_unanswered : unanswered.client.Documented := by
  apply documented_fixedClient
  rintro a ⟨⟩

theorem interpretWith_fallback_fenced :
    fenced.client.Documented ∧
      fenced.Accepts "hello".toList startAndEnd (.delete (.phrase "2".toList)) ∧
      interpretWith (some fenced) "hello".toList startAndEnd = .ok (.delete "b".toList) ∧
      unanswered.client.Documented ∧
      (∀ d, ¬ unanswered.Accepts "delete start".toList startAndEnd d) ∧
      interpretWith (some unanswered) "delete start".toList startAndEnd =
        .ok (.delete "a".toList) := by
  have hresult : (fenced.ask "hello".toList startAndEnd).result.toOption =
      some (.delete (.phrase "2".toList)) := by decide +kernel
  have haccepts : fenced.Accepts "hello".toList startAndEnd (.delete (.phrase "2".toList)) := by
    cases hask : (fenced.ask "hello".toList startAndEnd).result with
    | error e =>
      rw [hask] at hresult
      cases hresult
    | ok d =>
      rw [hask] at hresult
      obtain rfl : d = .delete (.phrase "2".toList) := Option.some.inj hresult
      exact (Assistant.result_ask_eq_ok documented_fenced).1 hask
  have hrefused : ∀ d, ¬ unanswered.Accepts "delete start".toList startAndEnd d := by
    rintro d ⟨_, _, hanswer, _⟩
    cases hanswer
  obtain ⟨haccepted, _⟩ :=
    interpretWith_fallback fenced documented_fenced "hello".toList startAndEnd
  obtain ⟨_, hplain, _⟩ :=
    interpretWith_fallback unanswered documented_unanswered "delete start".toList startAndEnd
  have hbuild : Draft.build (.delete (.phrase "2".toList)) startAndEnd =
      .ok (.delete "b".toList) := by decide +kernel
  have hwords : interpret "delete start".toList startAndEnd = .ok (.delete "a".toList) := by
    decide +kernel
  exact ⟨documented_fenced, haccepts, (haccepted _ haccepts).trans hbuild, documented_unanswered,
    hrefused, (hplain hrefused).1.trans hwords⟩

end FlowTalk
