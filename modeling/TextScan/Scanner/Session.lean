import TextScan.Scanner.Spans

/-! Runs of a scanner. A session is a scanner together with the ones saved
earlier; an operation answers something and leaves a session. -/

namespace TextScan.Scanner

inductive Operation where
  | read | peek | skip
  | readSpan | peekSpan | skipSpan
  | mark | slice | sliceThrough | text
  | moveTo (p : Position)
  | moveToMark
  /-- Up to so many characters, or all. -/
  | readMany (limit : Option Nat)
  | readUntil (stop : Char)
  /-- Up to so many spans, or all. -/
  | takeSpans (limit : Option Nat)
  | save | restore

inductive Answer where
  | nothing
  | char (c : Option Char)
  | span (s : Span)
  | chars (cs : List Char)
  | spans (ss : List Span)

structure Session where
  scanner : Scanner
  saved : List Scanner

namespace Session

def ofScanner (s : Scanner) : Session := ⟨s, []⟩

def apply (session : Session) (op : Operation) : Answer × Session :=
  let s := session.scanner
  let move (next : Scanner) : Session := { session with scanner := next }
  match op with
  | .read => let (c, next) := s.read; (.char c, move next)
  | .peek => (.char s.peek, session)
  | .skip => let (c, next) := s.skip; (.char c, move next)
  | .readSpan => let (span, next) := s.readSpan; (.span span, move next)
  | .peekSpan => (.span s.peekSpan, session)
  | .skipSpan => let (span, next) := s.skipSpan; (.span span, move next)
  | .mark => (.nothing, move s.mark)
  | .slice => (.chars s.slice, session)
  | .sliceThrough => (.chars s.sliceThrough, session)
  | .text => (.chars s.text.toString.toList, session)
  | .moveTo p => (.nothing, move (s.moveTo p))
  | .moveToMark => (.nothing, move (s.moveTo s.marked))
  | .readMany limit => let (spans, next) := s.spansWithin limit; (.chars (chars spans), move next)
  | .readUntil stop => let (cs, next) := s.readUntil stop; (.chars cs, move next)
  | .takeSpans limit => let (spans, next) := s.spansWithin limit; (.spans spans, move next)
  | .save => (.nothing, { session with saved := s :: session.saved })
  | .restore =>
    match session.saved with
    | s :: saved => (.nothing, ⟨s, saved⟩)
    | [] => (.nothing, session)

/-- Each answer with the scanner behind it. -/
def run (session : Session) : List Operation → List (Answer × Scanner)
  | [] => []
  | op :: ops =>
    let (answer, next) := session.apply op
    (answer, next.scanner) :: next.run ops

end Session

end TextScan.Scanner
