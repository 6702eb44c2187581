import FlowTalk.Assistant.Client
import FlowTalk.Assistant.Prompt
import FlowTalk.Assistant.Reply
import FlowTalk.Assistant.Settings
import FlowTalk.Interpret

/-! One request to the hosted model, and the command of an utterance with its help. -/
namespace FlowTalk

/-- A hosted model within reach. -/
structure Assistant where
  settings : Settings
  /-- Opens a client that leaves a request so many seconds. -/
  openClient : Number → Client
  /-- A client that is there already. It is used if there is one. -/
  shared : Option Client := none

/-- Why the hosted model gives no draft. -/
inductive AskError where
  | noKey
  | client (reason : Text)
  | reply (e : Reply.DraftError)

/-- A draft of the hosted model or the reason why there is none, what was posted, and the requests
that the client sent for it. -/
structure Asked where
  result : Except AskError Draft
  posts : List Post
  requests : List Request

def noKeyMessage : Text := "API key not configured.".toList

/-- The draft in an answer that passes for a success. -/
def Answer.draft (a : Answer) : Except AskError Draft :=
  match a.refusal with
  | some reason => .error (.client reason)
  | none => do
    let v ← a.value.mapError .client
    match Reply.text? v with
    | some t => (Reply.draft t).mapError .reply
    | none => .error (.reply (.text .unexpectedFormat))

/-- The draft in what a post comes to. -/
def Posted.draft (p : Posted) : Except AskError Draft := do
  let a ← p.answer.mapError .client
  a.draft

namespace Settings

def keyHeader : Text := "api-subscription-key".toList

def contentTypeHeader : Text := "Content-Type".toList

def headers (s : Settings) : List (Text × Text) :=
  [(contentTypeHeader, "application/json".toList), (keyHeader, s.key)]

/-- What is posted: the prompt, and the model that is to answer it. -/
def body (s : Settings) (utterance : Text) (nodes : Listing) : Json :=
  .obj [
    ("messages".toList, .arr [.obj [
      ("role".toList, .text "user"),
      ("content".toList, .str (Prompt.render utterance nodes))]]),
    ("model".toList, .str s.model)]

end Settings

namespace Assistant

/-- The client for one request: the shared one, or a new one that knows how long it may take. -/
def client (a : Assistant) : Client := a.shared.getD (a.openClient a.settings.timeout)

/-- The post for an utterance about some nodes. A shared client is told how long it may take. -/
def post (a : Assistant) (utterance : Text) (nodes : Listing) : Post where
  endpoint := a.settings.endpoint
  headers := a.settings.headers
  body := a.settings.body utterance nodes
  timeout := a.shared.map fun _ => a.settings.timeout

/-- Asks the hosted model once, if there is a key. -/
def ask (a : Assistant) (utterance : Text) (nodes : Listing) : Asked :=
  if a.settings.isConfigured then
    let post := a.post utterance nodes
    let posted := a.client.post post
    ⟨posted.draft, [post], posted.requests⟩
  else ⟨.error .noKey, [], []⟩

end Assistant

/-- The command for an utterance: from the draft of the hosted model, or else from the words. -/
def interpretWith (assistant : Option Assistant) (utterance : Text) (nodes : Listing) :
    Except NumeralError Command :=
  match assistant with
  | none => interpret utterance nodes
  | some assistant =>
    match (assistant.ask utterance nodes).result with
    | .ok draft => draft.build nodes
    | .error _ => interpret utterance nodes

end FlowTalk
