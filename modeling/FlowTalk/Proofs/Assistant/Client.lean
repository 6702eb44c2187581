import FlowTalk.Assistant.Ask
import FlowTalk.Proofs.Except

/-! What the hosted model is asked and what is taken from its answer, with any client. -/
namespace FlowTalk

variable {a : Assistant} {c : Client} {utterance t : Text} {nodes : Listing} {d : Draft}

namespace Reply

/-- The first object in a text is a message that stands for a draft. -/
def Holds (t : Text) (d : Draft) : Prop :=
  ∃ object v, objectText t = .ok object ∧ Json.read object = .ok v ∧ Draft.ofPayload v = .ok d

theorem draft_eq_ok : draft t = .ok d ↔ Holds t d := by
  constructor
  · intro h
    obtain ⟨object, hobject, h⟩ := bind_eq_ok.1 h
    obtain ⟨v, hv, h⟩ := bind_eq_ok.1 h
    exact ⟨object, v, mapError_eq_ok.1 hobject, mapError_eq_ok.1 hv, mapError_eq_ok.1 h⟩
  · rintro ⟨object, v, hobject, hv, h⟩
    exact bind_eq_ok.2 ⟨object, mapError_eq_ok.2 hobject,
      bind_eq_ok.2 ⟨v, mapError_eq_ok.2 hv, mapError_eq_ok.2 h⟩⟩

end Reply

/-- The body of an answer has a value that holds a draft in one of the known places. -/
def Answer.Holds (answer : Answer) (d : Draft) : Prop :=
  ∃ v t, answer.value = .ok v ∧ Reply.text? v = some t ∧ Reply.Holds t d

theorem Answer.draft_eq_ok {answer : Answer} :
    answer.draft = .ok d ↔ answer.refusal = none ∧ answer.Holds d := by
  rw [draft]
  cases answer.refusal with
  | some reason => simp
  | none =>
    simp only [true_and]
    rw [bind_eq_ok]
    constructor
    · rintro ⟨v, hv, h⟩
      cases htext : Reply.text? v with
      | none =>
        rw [htext] at h
        cases h
      | some t =>
        rw [htext] at h
        exact ⟨v, t, mapError_eq_ok.1 hv, htext, Reply.draft_eq_ok.1 (mapError_eq_ok.1 h)⟩
    · rintro ⟨v, t, hv, htext, hholds⟩
      refine ⟨v, mapError_eq_ok.2 hv, ?_⟩
      rw [htext]
      exact mapError_eq_ok.2 (Reply.draft_eq_ok.2 hholds)

theorem Posted.draft_eq_ok {p : Posted} : p.draft = .ok d ↔
    ∃ answer, p.answer = .ok answer ∧ answer.refusal = none ∧ answer.Holds d := by
  rw [draft, bind_eq_ok]
  simp only [mapError_eq_ok, Answer.draft_eq_ok]

namespace Assistant

theorem ask_of_key (h : a.settings.isConfigured = true) (utterance : Text) (nodes : Listing) :
    a.ask utterance nodes =
      ⟨(a.client.post (a.post utterance nodes)).draft, [a.post utterance nodes],
        (a.client.post (a.post utterance nodes)).requests⟩ := by
  rw [ask, if_pos h]

theorem ask_of_no_key (h : a.settings.isConfigured = false) (utterance : Text) (nodes : Listing) :
    a.ask utterance nodes = ⟨.error .noKey, [], []⟩ := by
  rw [ask, if_neg (by simp [h])]

end Assistant

/-- A client for the paths of one host that has the same answer to every post. -/
def fixedClient (host : Text) (answer : Except Text Answer) : Client where
  post p := ⟨answer, [{
    method := "POST".toList
    address := host ++ p.endpoint
    headers := p.headers
    body := p.body
    timeout := p.timeout.getD (.int 5) }]⟩

/-- The answer of success with a text in it. -/
def contentAnswer (t : Text) : Answer where
  status := 200
  refusal := none
  value := .ok (.obj [("content".toList, .str t)])

theorem documented_fixedClient {host : Text} {answer : Except Text Answer}
    (h : ∀ a, answer = .ok a → (a.refusal = none ↔ 200 ≤ a.status ∧ a.status < 300)) :
    (fixedClient host answer).Documented := by
  refine ⟨?_, ?_⟩
  · intro p
    exact Nat.le_refl 1
  · intro p a ha
    exact h a ha

theorem holds_contentAnswer (h : Reply.Holds t d) : (contentAnswer t).Holds d :=
  ⟨_, t, rfl, rfl, h⟩

end FlowTalk
