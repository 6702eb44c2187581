import FlowTalk.Text.Blank

/-! Trimming, splitting, joining and searching texts. -/
namespace FlowTalk.Text

/-- A text without the characters at its end that satisfy `p`. -/
def trimEndWhere (p : Char → Bool) (t : Text) : Text := (t.reverse.dropWhile p).reverse

/-- A text without the characters at its ends that satisfy `p`. -/
def trimWhere (p : Char → Bool) (t : Text) : Text := trimEndWhere p (t.dropWhile p)

/-- A text without outer white space. -/
def trim (t : Text) : Text := trimWhere isBlank t

/-- The maximal runs of a text without white space. -/
def words : Text → List Text
  | [] => []
  | c :: rest =>
    if isBlank c then words rest
    else match rest with
      | [] => [[c]]
      | d :: _ =>
        if isBlank d then [c] :: words rest
        else match words rest with
          | [] => [[c]]
          | w :: ws => (c :: w) :: ws

/-- The pieces of a text between the characters that satisfy `p`; there is always one. -/
def splitWhere (p : Char → Bool) : Text → List Text
  | [] => [[]]
  | c :: rest =>
    if p c then [] :: splitWhere p rest
    else
      match splitWhere p rest with
      | [] => [[c]]
      | piece :: pieces => (c :: piece) :: pieces

/-- Whether the first text occurs in the second as a contiguous piece. -/
def occursIn (piece : Text) : Text → Bool
  | [] => piece.isEmpty
  | c :: rest => piece.isPrefixOf (c :: rest) || occursIn piece rest

/-- The texts one after another with a separator between neighbours. -/
def joinWith (separator : Text) (ts : List Text) : Text := separator.intercalate ts

/-- The decimal digits of a natural number. -/
def ofNat (n : Nat) : Text := Nat.toDigits 10 n

/-- The hexadecimal digits of a natural number. -/
def ofNatHex (n : Nat) : Text := Nat.toDigits 16 n

def isAscii (t : Text) : Bool := t.all fun c => c.toNat < 128

/-- Digits with zeros in front, at least so many in all. -/
def padded (width : Nat) (digits : Text) : Text :=
  List.replicate (width - digits.length) '0' ++ digits

/-- The decimal digits of an integer after its sign. -/
def ofInt : Int → Text
  | .ofNat n => ofNat n
  | .negSucc n => '-' :: ofNat (n + 1)

end FlowTalk.Text
