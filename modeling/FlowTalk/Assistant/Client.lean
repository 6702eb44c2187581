import FlowTalk.Json.Value
import FlowTalk.Text.Basic

/-! Clients that post values to web addresses. A client is whatever answers a post: how an endpoint
is read, what is sent and what comes back is its own affair, and all that is relied on is what
`Client.Documented` says. -/
namespace FlowTalk

/-- A value to post to an endpoint, under some headers. -/
structure Post where
  endpoint : Text
  headers : List (Text × Text)
  body : Json
  /-- The seconds that it may take, unless that is left to the client. -/
  timeout : Option Number

/-- A request that a client sends. -/
structure Request where
  method : Text
  address : Text
  headers : List (Text × Text)
  body : Json
  timeout : Number

/-- An answer as a client tells of it, with the reasons that it gives for what it refuses to do. -/
structure Answer where
  status : Int
  /-- Why the answer does not pass for a success, if it does not. -/
  refusal : Option Text
  /-- The value in the body. -/
  value : Except Text Json

/-- What a post comes to: an answer, or the reason that there is none, and the requests that were
sent for it. -/
structure Posted where
  answer : Except Text Answer
  requests : List Request

structure Client where
  post : Post → Posted

/-- What clients are documented to do. -/
structure Client.Documented (c : Client) : Prop where
  /-- A post is no more than one request: none is sent again, and no redirection is followed. -/
  requests_le_one : ∀ p, (c.post p).requests.length ≤ 1
  /-- An answer passes for a success if its status says so. -/
  refusal_iff : ∀ p a, (c.post p).answer = .ok a →
    (a.refusal = none ↔ 200 ≤ a.status ∧ a.status < 300)

end FlowTalk
