import FlowTalk.Draft.Payload
import FlowTalk.Json.Reader
import FlowTalk.Pattern.Search
import FlowTalk.Pattern.Words

/-! From the reply of the hosted model to a draft. -/
namespace FlowTalk.Reply
open Pattern

/-- The mark around a block of code. -/
def fence : Pattern := phrase "```" ++ optional (phrase "json")

/-- How far a scan for braces is: outside strings, inside one, or after a backslash in one. -/
inductive Mode where
  | plain
  | inString
  | escaped
  deriving DecidableEq

/-- The text up to the brace that closes the open ones. -/
def upToClosing : Nat → Mode → Text → Option Text
  | _, _, [] => none
  | depth, .escaped, c :: rest => (upToClosing depth .inString rest).map (c :: ·)
  | depth, .inString, c :: rest =>
    let mode := if c = '\\' then .escaped else if c = '"' then .plain else .inString
    (upToClosing depth mode rest).map (c :: ·)
  | depth, .plain, c :: rest =>
    if c = '"' then (upToClosing depth .inString rest).map (c :: ·)
    else if c = '\x7b' then (upToClosing (depth + 1) .plain rest).map (c :: ·)
    else if c = '\x7d' then
      if depth = 1 then some [c] else (upToClosing (depth - 1) .plain rest).map (c :: ·)
    else (upToClosing depth .plain rest).map (c :: ·)

/-- Why no text of a command is found in a reply. -/
inductive TextError where
  | noObject
  | unbalanced
  | unexpectedFormat
  deriving DecidableEq

def TextError.message : TextError → Text
  | noObject => "No JSON object in reply.".toList
  | unbalanced => "Unbalanced JSON object in reply.".toList
  | unexpectedFormat => "Unexpected response format.".toList

/-- A text without the marks around blocks of code. -/
def withoutFences (t : Text) : Text := Text.trim (fence.erase t)

/-- The first object in a text, from its opening brace to the one that closes it. Marks around
blocks of code are dropped. -/
def objectText (t : Text) : Except TextError Text :=
  match (withoutFences t).dropWhile fun c => c != '\x7b' with
  | [] => .error .noObject
  | rest =>
    match upToClosing 0 .plain rest with
    | some t => .ok t
    | none => .error .unbalanced

/-- Why a reply is no draft. -/
inductive DraftError where
  | text (e : TextError)
  | json (e : Json.ReadError)
  | payload (e : PayloadError)

/-- The draft in a text: the first object, read as a message about a command. -/
def draft (t : Text) : Except DraftError Draft := do
  let t ← (objectText t).mapError .text
  let v ← (Json.read t).mapError .json
  (Draft.ofPayload v).mapError .payload

/-- The text in the field of an object. -/
def textField? (name : String) : Json → Option Text
  | .obj members =>
    match Json.field? name members with
    | some (.str t) => some t
    | _ => none
  | _ => none

/-- The content of the message of the first choice. -/
def choiceText? (members : List (Text × Json)) : Option Text :=
  match Json.field? "choices" members with
  | some (.arr (.obj choice :: _)) => (Json.field? "message" choice).bind (textField? "content")
  | _ => none

/-- The generated text in the body of a reply, in one of the known places. -/
def text? : Json → Option Text
  | .obj members =>
    (choiceText? members).or
      ((textField? "content" (.obj members)).or (textField? "generated_text" (.obj members)))
  | .arr (first :: _) => textField? "generated_text" first
  | _ => none

end FlowTalk.Reply
