/-! Line breaks in a piece of text as a whole: every break becomes one line
feed, and a backslash directly before a break goes away together with it. -/

namespace TextScan.LineBreaks

/-- Makes one line feed of each carriage return and line feed pair. -/
def joinPairs : List Char → List Char
  | '\r' :: '\n' :: rest => '\n' :: joinPairs rest
  | c :: rest => c :: joinPairs rest
  | [] => []

def returnsToFeeds (cs : List Char) : List Char :=
  cs.map fun c => if c = '\r' then '\n' else c

/-- Drops each backslash that stands before a line feed, with the line feed. -/
def dropEscaped : List Char → List Char
  | '\\' :: '\n' :: rest => dropEscaped rest
  | c :: rest => c :: dropEscaped rest
  | [] => []

/-- Pairs come first, as a lone carriage return is a break too, and escapes
last, as a backslash may stand before any kind of break. -/
def flatten (cs : List Char) : List Char :=
  dropEscaped (returnsToFeeds (joinPairs cs))

/-- Whether there is neither a carriage return nor a backslash directly before
a line feed. -/
def isPlain : List Char → Bool
  | '\r' :: _ => false
  | '\\' :: '\n' :: _ => false
  | _ :: rest => isPlain rest
  | [] => true

def normalize (cs : List Char) : List Char :=
  if isPlain cs then cs else flatten cs

end TextScan.LineBreaks
