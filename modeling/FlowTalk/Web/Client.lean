import FlowTalk.Web.Address.Basic
import FlowTalk.Assistant.Client
import FlowTalk.Json.Reader
import FlowTalk.Text.Encoding

/-! A client on a web where every request meets with the same. -/
namespace FlowTalk

/-- The body of an answer: its text, or a value that is sent as JSON. -/
inductive Body where
  | raw (t : Text)
  | json (v : Json)

/-- What a request meets with: it fails for some reason, or it is answered. -/
inductive Exchange where
  | failed (reason : Text)
  | answered (status : Int) (body : Body)

/-- Why a request cannot be sent. -/
inductive RequestError where
  | address (e : AddressError)
  | notAscii
  | host (e : Host.LabelError)
  deriving DecidableEq

/-- Why the body of an answer has no value. -/
inductive BodyError where
  | notText
  | json (e : Json.ReadError)
  deriving DecidableEq

/-- What goes wrong with a post. -/
inductive ClientError where
  | request (e : RequestError)
  | failed (reason : Text)
  | notAbsolute
  | badStatus
  | body (e : BodyError)

namespace Body

/-- The text of a body. A mark of the byte order is skipped. -/
def text? : Text → Option Text
  | '\ufeff' :: rest => some rest
  | t => t.reread?

/-- The value of a body. -/
def read : Body → Except BodyError Json
  | .raw t =>
    match text? t with
    | some t => (Json.readUnmarked t).mapError .json
    | none => .error .notText
  | .json v => .ok v

end Body

/-- Checks that a host can be named in a request: it is in ASCII, and if it says that it stands for
other characters it stands for a name. -/
def Host.check (host : Text) : Except RequestError Unit := do
  if Label.asciiMark.isPrefixOf host then (checkAscii host).mapError .host
  if !Text.isAscii host then .error .notAscii

/-- The address that a post is sent to. -/
def Post.address (p : Post) : Except RequestError Address := do
  let address ← (Address.forRequest p.endpoint).mapError .address
  if !p.headers.all fun header => Text.isAscii header.2 then .error .notAscii
  Host.check address.host
  return address

namespace Exchange

def isSuccess (status : Int) : Bool := 200 ≤ status && status < 300

/-- What comes back from an address, with the reasons told in words. Only what an absolute address
answers counts. -/
def answer (tell : ClientError → Text) (address : Address) : Exchange → Except Text Answer
  | .failed reason => .error (tell (.failed reason))
  | .answered status body =>
    if address.isAbsolute then
      .ok {
        status
        refusal := if isSuccess status then none else some (tell .badStatus)
        value := body.read.mapError fun e => tell (.body e) }
    else .error (tell .notAbsolute)

/-- The client whose requests all meet with the same. It leaves them so many seconds if the post
does not say how many. -/
def client (tell : ClientError → Text) (x : Exchange) (timeout : Number) : Client where
  post p :=
    match p.address with
    | .error e => ⟨.error (tell (.request e)), []⟩
    | .ok address => ⟨x.answer tell address, [{
        method := "POST".toList
        address := address.write
        headers := p.headers
        body := p.body
        timeout := p.timeout.getD timeout }]⟩

theorem isSuccess_iff {status : Int} : isSuccess status = true ↔ 200 ≤ status ∧ status < 300 := by
  simp [isSuccess]

theorem documented_client (tell : ClientError → Text) (x : Exchange) (timeout : Number) :
    (x.client tell timeout).Documented := by
  refine ⟨?_, ?_⟩
  · intro p
    simp only [client]
    split <;> simp
  · intro p a ha
    rw [← isSuccess_iff]
    simp only [client] at ha
    split at ha
    · cases ha
    · next address _ =>
      cases x with
      | failed reason => cases ha
      | answered status body =>
        cases habsolute : address.isAbsolute with
        | false => simp [answer, habsolute] at ha
        | true =>
          simp only [answer, habsolute, if_true, Except.ok.injEq] at ha
          subst ha
          cases isSuccess status <;> simp

end Exchange

end FlowTalk
