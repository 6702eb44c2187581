import FlowTalk.Json.Value
import FlowTalk.Number.Decimal
import FlowTalk.Text.Units

/-! Reading JSON texts. Beyond the standard grammar the words for infinities and for no number are
read as numbers. -/
namespace FlowTalk.Json

/-- What is wrong with a text at some place. -/
inductive SyntaxFault where
  | value
  | propertyName
  | colon
  | comma
  | unterminatedString
  | controlCharacter
  | badEscape
  | badUnicodeEscape
  | extraData
  | byteOrderMark
  deriving DecidableEq

def SyntaxFault.message : SyntaxFault → Text
  | value => "Expecting value".toList
  | propertyName => "Expecting property name enclosed in double quotes".toList
  | colon => "Expecting ':' delimiter".toList
  | comma => "Expecting ',' delimiter".toList
  | unterminatedString => "Unterminated string starting at".toList
  | controlCharacter => "Invalid control character at".toList
  | badEscape => "Invalid \\escape".toList
  | badUnicodeEscape => "Invalid \\uXXXX escape".toList
  | extraData => "Extra data".toList
  | byteOrderMark => "Unexpected UTF-8 BOM (decode using utf-8-sig)".toList

/-- A fault with its place: the line and the column, counted from one, and the number of characters
before it. -/
structure SyntaxError where
  fault : SyntaxFault
  line : Nat
  column : Nat
  offset : Nat
  deriving DecidableEq

namespace SyntaxError

/-- The fault of a text at the place before its last part `rest`. -/
def ofRest (fault : SyntaxFault) (t rest : Text) : SyntaxError :=
  let offset := t.length - rest.length
  let consumed := t.take offset
  ⟨fault, consumed.count '\n' + 1,
    (consumed.reverse.takeWhile fun c => c != '\n').length + 1, offset⟩

def message (e : SyntaxError) : Text :=
  e.fault.message ++ ": line ".toList ++ Text.ofNat e.line ++ " column ".toList ++
    Text.ofNat e.column ++ " (char ".toList ++ Text.ofNat e.offset ++ ")".toList

end SyntaxError

/-- Why a text is not read. -/
inductive ReadError where
  | badSyntax (e : SyntaxError)
  | numeralTooLong
  | tooDeep
  deriving DecidableEq

/-- Why reading stops: a fault before the rest of the text, or a limit. -/
inductive Stop where
  | fault (fault : SyntaxFault) (rest : Text)
  | numeralTooLong
  | tooDeep

/-- Something read from the front of a text, with the rest of the text. -/
abbrev Reading (α : Type) := Except Stop (α × Text)

/-- Arrays and objects may be nested so deep and no deeper. This stands for a limit on calls within
calls, of which a reader has some ten less left, depending on where it is called from. -/
def maxDepth : Nat := 1000

def isSpace (c : Char) : Bool := c == ' ' || c == '\t' || c == '\n' || c == '\r'

def skipSpaces (t : Text) : Text := t.dropWhile isSpace

/-! Strings -/

def hexValue? (c : Char) : Option Nat :=
  if '0' ≤ c ∧ c ≤ '9' then some (c.toNat - '0'.toNat)
  else if 'a' ≤ c ∧ c ≤ 'f' then some (c.toNat - 'a'.toNat + 10)
  else if 'A' ≤ c ∧ c ≤ 'F' then some (c.toNat - 'A'.toNat + 10)
  else none

/-- The number that four hexadecimal digits stand for. -/
def hexUnit? (a b c d : Char) : Option Nat := do
  let a ← hexValue? a
  let b ← hexValue? b
  let c ← hexValue? c
  let d ← hexValue? d
  return ((a * 16 + b) * 16 + c) * 16 + d

/-- The character that a letter stands for after a backslash. -/
def escaped? (c : Char) : Option Char :=
  if c = '"' ∨ c = '\\' ∨ c = '/' then some c
  else if c = 'b' then some '\x08'
  else if c = 'f' then some '\x0c'
  else if c = 'n' then some '\n'
  else if c = 'r' then some '\r'
  else if c = 't' then some '\t'
  else none

/-- The code units of a string up to its closing quote. A fault of the whole string is reported at
`opening`, the text from the opening quote on. -/
def stringUnits (opening : Text) : Text → Reading (List Nat)
  | [] => .error (.fault .unterminatedString opening)
  | c :: rest =>
    if c = '"' then .ok ([], rest)
    else if c = '\\' then
      match rest with
      | [] => .error (.fault .unterminatedString opening)
      | e :: rest =>
        if e = 'u' then
          match rest with
          | h₁ :: h₂ :: h₃ :: h₄ :: next :: tail =>
            match hexUnit? h₁ h₂ h₃ h₄ with
            | some unit =>
              (stringUnits opening (next :: tail)).map fun (units, r) => (unit :: units, r)
            | none => .error (.fault .badUnicodeEscape (e :: rest))
          | _ => .error (.fault .badUnicodeEscape (e :: rest))
        else
          match escaped? e with
          | some x => (stringUnits opening rest).map fun (units, r) => (x.toNat :: units, r)
          | none => .error (.fault .badEscape (c :: e :: rest))
    else if c.toNat < 32 then .error (.fault .controlCharacter (c :: rest))
    else (stringUnits opening rest).map fun (units, r) => (c.toNat :: units, r)

/-- The string after an opening quote. -/
def string (opening rest : Text) : Reading Text :=
  (stringUnits opening rest).map fun (units, r) => (Text.ofUnits units, r)

/-! Numbers -/

/-- The digits before the point: a zero alone, or digits that start with another one. -/
def wholePart? (t : Text) : Option (Text × Text) :=
  match t with
  | [] => none
  | c :: rest =>
    if c = '0' then some (['0'], rest)
    else if c.isDigit then
      let digits := t.takeWhile Char.isDigit
      some (digits, t.drop digits.length)
    else none

/-- The digits after a point, if there are any. -/
def fractionPart? (t : Text) : Option (Text × Text) :=
  match t with
  | '.' :: rest =>
    let digits := rest.takeWhile Char.isDigit
    if digits.isEmpty then none else some (digits, rest.drop digits.length)
  | _ => none

/-- The exponent after its mark, if there is one. -/
def exponentPart? (t : Text) : Option (Int × Text) :=
  match t with
  | mark :: rest => if mark = 'e' ∨ mark = 'E' then Written.exponent? rest else none
  | [] => none

/-- A number without a point and an exponent is an integer. -/
def unsignedNumber (negative : Bool) (whole rest : Text) : Reading Number :=
  match fractionPart? rest, exponentPart? rest with
  | none, none =>
    match Numeral.read whole with
    | .ok n => .ok (.int (if negative then -n else n), rest)
    | .error _ => .error .numeralTooLong
  | none, some (e, rest) => .ok (.float (Written.toFloat ⟨negative, whole, [], e⟩), rest)
  | some (fraction, rest), _ =>
    match exponentPart? rest with
    | none => .ok (.float (Written.toFloat ⟨negative, whole, fraction, 0⟩), rest)
    | some (e, rest) => .ok (.float (Written.toFloat ⟨negative, whole, fraction, e⟩), rest)

def number (t : Text) : Reading Number :=
  let (negative, digits) := match t with
    | '-' :: rest => (true, rest)
    | _ => (false, t)
  match wholePart? digits with
  | some (whole, rest) => unsignedNumber negative whole rest
  | none => .error (.fault .value t)

/-! Values -/

/-- The words that stand for values. -/
def wordValues : List (Text × Json) :=
  [("null".toList, .null), ("true".toList, .bool true), ("false".toList, .bool false),
    ("NaN".toList, .float Number.notNumber), ("Infinity".toList, .float Number.infinity),
    ("-Infinity".toList, .float (-Number.infinity))]

/-- A word or a number. -/
def scalar (t : Text) : Reading Json :=
  match wordValues.find? fun (word, _) => word.isPrefixOf t with
  | some (word, v) => .ok (v, t.drop word.length)
  | none => (number t).map fun (n, rest) => (.num n, rest)

/-- A member list with one more member; a name that is there already keeps its place. -/
def putMember (members : List (Text × Json)) (name : Text) (v : Json) : List (Text × Json) :=
  if members.any (·.1 == name) then
    members.map fun m => if m.1 == name then (name, v) else m
  else members ++ [(name, v)]

/-- The members of an object: of several with one name the last counts. -/
def distinctMembers (members : List (Text × Json)) : List (Text × Json) :=
  members.foldl (fun ms m => putMember ms m.1 m.2) []

mutual

/-- A value at the front of a text. The numbers bound the steps and the depth. -/
def value : Nat → Nat → Text → Reading Json
  | 0, _, _ => .error .tooDeep
  | _ + 1, _, [] => .error (.fault .value [])
  | fuel + 1, depth, c :: rest =>
    if c = '"' then (string (c :: rest) rest).map fun (t, rest) => (.str t, rest)
    else if c = '{' then
      match depth with
      | 0 => .error .tooDeep
      | depth + 1 =>
        match skipSpaces rest with
        | '}' :: rest => .ok (.obj [], rest)
        | rest =>
          (members fuel depth rest).map fun (ms, rest) => (.obj (distinctMembers ms), rest)
    else if c = '[' then
      match depth with
      | 0 => .error .tooDeep
      | depth + 1 =>
        match skipSpaces rest with
        | ']' :: rest => .ok (.arr [], rest)
        | rest => (items fuel depth rest).map fun (vs, rest) => (.arr vs, rest)
    else scalar (c :: rest)

/-- The items of an array up to its end; there is at least one. -/
def items : Nat → Nat → Text → Reading (List Json)
  | 0, _, _ => .error .tooDeep
  | fuel + 1, depth, t =>
    match value fuel depth t with
    | .error stop => .error stop
    | .ok (v, rest) =>
      match skipSpaces rest with
      | ']' :: rest => .ok ([v], rest)
      | ',' :: rest =>
        (items fuel depth (skipSpaces rest)).map fun (vs, rest) => (v :: vs, rest)
      | rest => .error (.fault .comma rest)

/-- The members of an object up to its end; there is at least one. -/
def members : Nat → Nat → Text → Reading (List (Text × Json))
  | 0, _, _ => .error .tooDeep
  | fuel + 1, depth, t =>
    match t with
    | '"' :: rest =>
      match string t rest with
      | .error stop => .error stop
      | .ok (name, rest) =>
        match skipSpaces rest with
        | ':' :: rest =>
          match value fuel depth (skipSpaces rest) with
          | .error stop => .error stop
          | .ok (v, rest) =>
            match skipSpaces rest with
            | '}' :: rest => .ok ([(name, v)], rest)
            | ',' :: rest =>
              (members fuel depth (skipSpaces rest)).map fun (ms, rest) =>
                ((name, v) :: ms, rest)
            | rest => .error (.fault .comma rest)
        | rest => .error (.fault .colon rest)
    | rest => .error (.fault .propertyName rest)

end

/-- Each step but a jump into an array or an object reads a character. -/
def stepBound (t : Text) : Nat := 2 * t.length + 2

/-- The value of a whole text. -/
def document (t : Text) : Except Stop Json :=
  match value (stepBound t) maxDepth (skipSpaces t) with
  | .error stop => .error stop
  | .ok (v, rest) =>
    match skipSpaces rest with
    | [] => .ok v
    | rest => .error (.fault .extraData rest)

/-- What stops the reading of a text, with the place of a fault worked out. -/
def ReadError.ofStop (t : Text) : Stop → ReadError
  | .fault fault rest => .badSyntax (.ofRest fault t rest)
  | .numeralTooLong => .numeralTooLong
  | .tooDeep => .tooDeep

/-- The value of a text without a mark of the byte order. -/
def readUnmarked (t : Text) : Except ReadError Json := (document t).mapError (ReadError.ofStop t)

/-- The value of a JSON text. A mark of the byte order is refused. -/
def read (t : Text) : Except ReadError Json :=
  if t.head? = some '\ufeff' then .error (.ofStop t (.fault .byteOrderMark t))
  else readUnmarked t

end FlowTalk.Json
