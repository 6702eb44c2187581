import FlowTalk.Text.Basic
import FlowTalk.Text.Lowercase

namespace FlowTalk.Lookup

/-- Words for what a thing is, not which one. -/
def stopWords : List Text :=
  ["the".toList, "a".toList, "an".toList, "node".toList, "step".toList, "state".toList,
    "nodes".toList, "steps".toList, "states".toList]

def isPunctuation (c : Char) : Bool := "\"'`.,;:!?()[]\x7b\x7d“”‘’".toList.contains c

/-- The words of a text to search for: in lower case, without punctuation around them, and without
stop words. -/
def keywords (t : Text) : List Text :=
  ((Text.words (lower t)).map (Text.trimWhere isPunctuation)).filter fun w =>
    !w.isEmpty && !stopWords.contains w

end FlowTalk.Lookup
