import FlowTalk.Web.Address.Ip
import FlowTalk.Web.Address.Percent
import FlowTalk.Web.Host.Name
import FlowTalk.Number.Integer
import FlowTalk.Text.Lowercase

/-! Web addresses in their normal form. -/
namespace FlowTalk

/-- A web address. Its parts are escaped; an empty scheme, user or host is none. -/
structure Address where
  scheme : Text := []
  user : Text := []
  host : Text := []
  port : Option Int := none
  path : Text
  query : Option Text := none
  fragment : Option Text := none
  deriving DecidableEq

/-- Why a text is no web address. -/
inductive AddressError where
  | tooLong
  | control
  | host
  | port
  | path
  deriving DecidableEq

namespace Address

/-- An address, or a part of it, may have so many characters. -/
def maxLength : Nat := 65536

def isControl (c : Char) : Bool := c.toNat < 32 || c.toNat == 127

def isSchemeChar (c : Char) : Bool := c.isAlphanum || "+.-".toList.contains c

/-- The scheme before the first colon, and what follows. -/
def splitScheme (t : Text) : Text × Text :=
  let name := t.takeWhile isSchemeChar
  match t.drop name.length with
  | ':' :: rest => if name.head?.all Char.isAlpha then (name, rest) else ([], t)
  | _ => ([], t)

/-- The authority after two slashes, and what follows. -/
def splitAuthority : Text → Text × Text
  | '/' :: '/' :: rest =>
    let authority := rest.takeWhile fun c => !"/?#".toList.contains c
    (authority, rest.drop authority.length)
  | t => ([], t)

/-- A part that the character `mark` opens, up to a character that satisfies `stops`, and what
follows. -/
def splitMarked (mark : Char) (stops : Char → Bool) : Text → Option Text × Text
  | [] => (none, [])
  | c :: rest =>
    if c = mark then
      let part := rest.takeWhile fun c => !stops c
      (some part, rest.drop part.length)
    else (none, c :: rest)

/-- The part of a text before the last character `c`, and the part after it. -/
def splitLast (c : Char) (t : Text) : Option (Text × Text) :=
  if t.contains c then
    let after := (t.reverse.takeWhile (· != c)).reverse
    some (t.take (t.length - after.length - 1), after)
  else none

/-- The host, with the brackets around a numeric address, and what follows. -/
def splitHost (t : Text) : Text × Text :=
  match t, splitLast ']' t with
  | '[' :: _, some (inside, after) => (inside ++ [']'], after)
  | _, _ =>
    let host := t.takeWhile fun c => c != ':'
    (host, t.drop host.length)

/-- The normal form of a host: a numeric address, or a name in ASCII. -/
def normalHost (host : Text) : Except AddressError Text :=
  if host.isEmpty then .ok []
  else if Ip.version4Shape.occursIn host then
    if Ip.isVersion4 host then .ok host else .error .host
  else
    match host, splitLast ']' host with
    | '[' :: inside, some (_, []) =>
      if Ip.isVersion6 inside.dropLast then .ok inside.dropLast else .error .host
    | _, _ =>
      if Text.isAscii host then .ok (Percent.escape Percent.safeInHost (host.map Char.toLower))
      else (Host.ascii (lower host)).mapError fun _ => .host

/-- The ports that a scheme implies. -/
def impliedPorts : List (Text × Int) :=
  [("ftp".toList, 21), ("http".toList, 80), ("https".toList, 443), ("ws".toList, 80),
    ("wss".toList, 443)]

/-- The number of a port; the one that the scheme implies is left out. -/
def normalPort (scheme port : Text) : Except AddressError (Option Int) :=
  if port.isEmpty then .ok none
  else
    match IntText.read? port with
    | some n => .ok (if impliedPorts.lookup scheme == some n then none else some n)
    | none => .error .port

/-- A path without the steps that lead nowhere or back. The start of the path is never left. -/
def normalPath (path : Text) : Text :=
  Text.joinWith ['/'] <|
    (Text.splitWhere (· == '/') path).foldl
      (fun steps step =>
        if step == ['.'] then steps
        else if step == ['.', '.'] then if steps == [[]] then steps else steps.dropLast
        else steps ++ [step])
      []

/-- The address that a text stands for. -/
def read (t : Text) : Except AddressError Address := do
  if maxLength < t.length then .error .tooLong
  if t.any isControl then .error .control
  let (scheme, rest) := splitScheme t
  let (authority, rest) := splitAuthority rest
  let path := rest.takeWhile fun c => c != '?' && c != '#'
  let (query, rest) := splitMarked '?' (· == '#') (rest.drop path.length)
  let (fragment, _) := splitMarked '#' (fun _ => false) rest
  let (user, place) := (splitLast '@' authority).getD ([], authority)
  let (host, port) := splitHost place
  let user := Percent.escape Percent.safeInUserInfo user
  let host ← normalHost host
  let port ← normalPort scheme (if port.head? == some ':' then port.drop 1 else port)
  let hasAuthority := !user.isEmpty || !host.isEmpty || port.isSome
  let isBare := scheme.isEmpty && !hasAuthority
  if hasAuthority && !path.isEmpty && path.head? != some '/' then .error .path
  if isBare && ("//".toList.isPrefixOf path || path.head? == some ':') then .error .path
  return {
    scheme := scheme.map Char.toLower
    user, host, port
    path := Percent.escape Percent.safeInPath (if isBare then path else normalPath path)
    query := query.map (Percent.escape Percent.safeInQuery)
    fragment := fragment.map (Percent.escape Percent.safeInFragment) }

/-- Whether an address says how and where a host is reached. -/
def isAbsolute (a : Address) : Bool := !a.scheme.isEmpty && !a.host.isEmpty

/-- The path and the query alone, from the root. -/
def rooted (a : Address) : Address :=
  { path := '/' :: a.path.dropWhile (· == '/'), query := a.query }

/-- The address of a request: one that is not absolute is taken from the root. -/
def forRequest (t : Text) : Except AddressError Address := do
  let a ← read t
  if a.isAbsolute then return a
  let a := a.rooted
  if maxLength < a.path.length || a.query.any fun q => maxLength < q.length then .error .tooLong
  return a

/-- A host in an address; a numeric one with colons is in brackets. -/
def writeHost (host : Text) : Text :=
  if host.contains ':' then '[' :: (host ++ [']']) else host

def writeAuthority (a : Address) : Text :=
  (if a.user.isEmpty then [] else a.user ++ ['@']) ++ writeHost a.host ++
    (match a.port with
      | some n => ':' :: Text.ofInt n
      | none => [])

/-- A part with the mark that opens it, if there is one. -/
def writeMarked (mark : Char) : Option Text → Text
  | some part => mark :: part
  | none => []

/-- The text of an address. -/
def write (a : Address) : Text :=
  let authority := a.writeAuthority
  (if a.scheme.isEmpty then [] else a.scheme ++ [':']) ++
    (if authority.isEmpty then [] else "//".toList ++ authority) ++ a.path ++
    writeMarked '?' a.query ++ writeMarked '#' a.fragment

end Address

end FlowTalk
