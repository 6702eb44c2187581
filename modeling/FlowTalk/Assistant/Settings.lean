import FlowTalk.Json.Value
import FlowTalk.Text.Basic

namespace FlowTalk

/-- How a hosted model is reached. Without a key it is not. -/
structure Settings where
  key : Text := []
  endpoint : Text := "https://api.sarvam.ai/v1/chat/completions".toList
  model : Text := "sarvam-m".toList
  /-- The seconds that a request may take. -/
  timeout : Number := .float 15.0

namespace Settings

def isConfigured (s : Settings) : Bool := !(Text.trim s.key).isEmpty

/-- The variables of an environment that may hold the key, the first choice first. -/
def keyVariables : List String := ["SARVAM_API_KEY", "NEXT_PUBLIC_SARVAM_API_KEY"]

/-- The key in an environment: the first variable that is not empty. -/
def keyOf (environment : List (Text × Text)) : Text :=
  (keyVariables.findSome? fun name =>
    (environment.lookup name.toList).bind fun value =>
      if value.isEmpty then none else some value).getD []

/-- A setting that is not known, is no override, or has a value of the wrong kind. -/
inductive OverrideError where
  | refused (name : Text)

/-- One setting other than the key. -/
def override (s : Settings) (name : Text) (v : Json) : Except OverrideError Settings :=
  if name = "endpoint".toList then
    match v with
    | .str endpoint => .ok { s with endpoint }
    | _ => .error (.refused name)
  else if name = "model".toList then
    match v with
    | .str model => .ok { s with model }
    | _ => .error (.refused name)
  else if name = "timeout".toList then
    match v with
    | .num timeout => .ok { s with timeout }
    | _ => .error (.refused name)
  else .error (.refused name)

/-- The settings for an environment, with some of them overridden. -/
def ofEnvironment (environment : List (Text × Text)) (overrides : List (Text × Json)) :
    Except OverrideError Settings :=
  overrides.foldlM (fun s o => s.override o.1 o.2) { key := keyOf environment }

end Settings

end FlowTalk
