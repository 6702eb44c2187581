import FlowTalk.Numeral
import FlowTalk.Pattern.Search
import FlowTalk.Pattern.Words
import FlowTalk.Text.Basic

/-! Numeric addresses of hosts. -/
namespace FlowTalk.Ip

/-- A number from 0 to 255 without needless zeros. -/
def isOctet (t : Text) : Bool :=
  !t.isEmpty && t.all Char.isDigit && t.length ≤ 3 && (t == ['0'] || t.head? != some '0') &&
    Numeral.value t ≤ 255

/-- Four numbers between dots. -/
def isVersion4 (t : Text) : Bool :=
  let octets := Text.splitWhere (· == '.') t
  octets.length == 4 && octets.all isOctet

/-- What is taken for an attempt at four numbers: runs of digits with some character between
them. -/
def version4Shape : Pattern :=
  let digits := Pattern.some1 (.char Char.isDigit)
  .start ++ digits ++ .inLine ++ digits ++ .inLine ++ digits ++ .inLine ++ digits ++ .finish

def isHexDigit (c : Char) : Bool := c.isDigit || ('a' ≤ c && c ≤ 'f') || ('A' ≤ c && c ≤ 'F')

/-- One to four hexadecimal digits. -/
def isGroup (t : Text) : Bool := !t.isEmpty && t.length ≤ 4 && t.all isHexDigit

/-- The pieces between colons, with four numbers at the end as two groups. -/
def groups? (t : Text) : Option (List Text) :=
  let pieces := Text.splitWhere (· == ':') t
  if pieces.length < 3 then none
  else
    match pieces.getLast? with
    | some last =>
      if last.contains '.' then
        if isVersion4 last then some (pieces.dropLast ++ [['0'], ['0']]) else none
      else some pieces
    | none => none

/-- The groups on one side of a gap. An empty piece beside the gap at the edge of the address is
none. -/
def beside (pieces : List Text) : List Text := if pieces == [[]] then [] else pieces

/-- Eight groups, or fewer around one gap. The first and the last piece are no gaps. -/
def areGroups (pieces : List Text) : Bool :=
  let inner := (pieces.drop 1).dropLast
  match inner.findIdx? List.isEmpty with
  | none => pieces.length == 8 && pieces.all isGroup
  | some i =>
    let groups := beside (pieces.take (i + 1)) ++ beside (pieces.drop (i + 2))
    groups.length < 8 && groups.all isGroup

/-- Groups of digits between colons, perhaps with the name of a zone after a percent sign. -/
def isVersion6 (t : Text) : Bool :=
  let address := t.takeWhile fun c => c != '%'
  let zone := t.drop address.length
  (zone.isEmpty || (1 < zone.length && !(zone.drop 1).contains '%')) &&
    (groups? address).any fun pieces => pieces.length ≤ 9 && areGroups pieces

end FlowTalk.Ip
