import FlowTalk.Pattern.Words

/-! The words of a command and the places of its slots. -/
namespace FlowTalk.Vocabulary
open Pattern

def addVerbs : List String := ["add", "create", "insert", "new", "make", "append"]

def deleteVerbs : List String :=
  ["delete", "remove", "drop", "eliminate", "erase", "get rid of"]

def updateVerbs : List String := ["update", "change", "edit", "modify", "rename", "relabel"]

def connectVerbs : List String := ["connect", "link", "join", "attach", "wire"]

def disconnectVerbs : List String := ["disconnect", "unlink", "detach", "separate", "break"]

def explainVerbs : List String :=
  ["explain", "describe", "summarise", "summarize", "what", "how", "tell", "show", "list",
    "overview"]

def verbs : List String :=
  addVerbs ++ deleteVerbs ++ updateVerbs ++ connectVerbs ++ disconnectVerbs ++ explainVerbs

def edgeWords : List String :=
  ["connections", "connection", "edges", "edge", "links", "link", "arrows", "arrow", "wires",
    "wire"]

def nodeWords : List String := ["nodes", "node", "steps", "step", "states", "state"]

def nodeNouns : List String := ["node", "step", "state"]

/-- Words that announce a label. -/
def namingWords : List String :=
  ["called", "named", "labelled", "labeled", "titled", "saying", "says"]

/-- The first verb of a text is one of the given. -/
def leadsWith (group : List String) : Pattern :=
  start ++ many true (notAhead (wholeWord verbs) ++ anything) ++ wholeWord group

def edgeWord : Pattern := wholeWord edgeWords

def nodeWord : Pattern := wholeWord nodeWords

/-- Where label text begins: an opening quote or a naming word. -/
def labelMarker : Pattern :=
  letter '"' ||| letter '“' ||| (notAfterWord ++ (letter '\'' ||| letter '‘')) |||
    wholeWord namingWords

/-- A piece between an opening and a closing mark, at least one character long. -/
def between (opening closing : Char) : Pattern :=
  letter opening ++ capture 1 (some1 (char fun c => c != closing)) ++ letter closing

/-- A quoted piece. A straight single quote inside a word is an apostrophe. -/
def quotation : Pattern :=
  between '"' '"' ||| between '“' '”' |||
    (notAfterWord ++ between '\'' '\'' ++ notAhead (char isWord)) ||| between '‘' '’'

/-- The rest of the line, which has to be the rest of the text. -/
def restOfText (slot : Nat) : Pattern := capture slot (some1 inLine) ++ finish

/-- A label after a naming word. -/
def namedLabel : Pattern :=
  boundary ++ oneOf ["called", "named", "labelled", "labeled", "titled"] ++ blanks ++ restOfText 1

/-- The places of the label of a new node, the surest first. -/
def newLabels : List Pattern :=
  [namedLabel,
    boundary ++ phrase "with " ++ optional (oneOf ["the ", "a "]) ++
      oneOf ["label", "text", "name", "title"] ++ blanks ++ optional (phrase "of ") ++
      restOfText 1,
    boundary ++ oneOf ["that says", "saying", "says"] ++ blanks ++ restOfText 1,
    boundary ++ oneOf ["add", "create", "insert", "make", "append", "new"] ++ blanks ++
      optional (oneOf ["a ", "an ", "one "]) ++ optional (phrase "new ") ++ oneOf nodeNouns ++
      blanks ++
      notAhead (oneOf ["to", "into", "in", "on", "at", "for", "please", "now", "here", "there",
        "after", "before", "with"] ++ boundary) ++
      restOfText 1]

/-- A node number: after a noun for nodes, or after a number sign. -/
def nodeNumber : Pattern :=
  (boundary ++ oneOf nodeNouns ++ blanks0 ++ optional (letter '#') ++ blanks0 ++
      capture 1 (some1 digit) ++ boundary) |||
    (letter '#' ++ capture 1 (some1 digit) ++ boundary)

/-- The first two numbers of a text. -/
def twoNumbers : Pattern :=
  capture 1 (some1 digit) ++ some1 (char fun c => !isDigit c) ++ capture 2 (some1 digit)

/-- As few characters of the line as possible, at least one. -/
def shortest (slot : Nat) : Pattern := capture slot (inLine ++ many false inLine)

/-- The node of an update before its new label. -/
def updateSplit : Pattern :=
  start ++ shortest 1 ++ blanks ++
    (oneOf ["to say", "to read", "to be", "to", "as", "into"] |||
      (phrase "with " ++ optional (phrase "the ") ++ oneOf ["label", "text", "name"])) ++
    blanks ++ restOfText 2

/-- The two ends of an edge. -/
def pairSplit : Pattern :=
  start ++ shortest 1 ++ blanks ++ oneOf ["to", "and", "from", "with", "into", "->", "→"] ++
    blanks ++ restOfText 2

def leadingArticles : Pattern :=
  start ++ some1 (oneOf ["the", "a", "an", "this", "that", "my"] ++ blanks)

def trailingNodeWord : Pattern := blanks ++ oneOf nodeWords ++ finish

def leadingLabelOf : Pattern :=
  start ++ optional (phrase "the ") ++ oneOf ["label", "name", "text", "title"] ++ blanks ++
    oneOf ["of", "on", "for"] ++ blanks

def trailingLabelWord : Pattern :=
  optional (oneOf ["'s", "’s"]) ++ blanks ++ oneOf ["label", "name", "text", "title"] ++ finish

def leadingBetween : Pattern := start ++ oneOf ["between", "from"] ++ blanks

def leadingEdgeWord : Pattern :=
  start ++ optional (oneOf ["the", "a", "an"] ++ blanks) ++ oneOf edgeWords ++ blanks

def trailingFiller : Pattern := blanks ++ oneOf ["together", "please", "now"] ++ finish

/-- A node number that is the whole phrase. -/
def ordinalPhrase : Pattern :=
  start ++ optional (oneOf nodeNouns ++ blanks0) ++ optional (letter '#') ++ blanks0 ++
    capture 1 (some1 digit) ++ finish

end FlowTalk.Vocabulary
