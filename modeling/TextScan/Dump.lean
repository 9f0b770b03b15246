import TextScan.Mode
import TextScan.Quote
import TextScan.Scanner.Lines

/-! Dumps of a text: a line for each span, a line for each logical line, or just
the characters. -/

namespace TextScan.Dump

structure Options where
  mode : Mode
  /-- Whether the end of input gets a line too, among spans. -/
  showEnd : Bool
  /-- Whether positions are written with their offset. -/
  offsets : Bool
  start : Position
deriving DecidableEq

/-- The options in words, for a log. -/
def Options.describe (o : Options) : String :=
  s!"DumpOptions \x7b mode: {o.mode.title}, show_eof: {o.showEnd}, offsets: {o.offsets}, " ++
    s!"start: TextPosition \x7b offset: {o.start.offset}, line: {o.start.line}, " ++
    s!"column: {o.start.column} \x7d \x7d"

def position (offsets : Bool) (p : Position) : String :=
  if offsets then s!"{p}@{p.offset}" else toString p

/-- The line of a span, `shown` telling which characters need no number. -/
def spanLine (shown : Char → Bool) (offsets : Bool) (s : Span) : String :=
  match s.char? with
  | some c =>
    position offsets s.start ++ "\t" ++ position offsets s.stop ++ "\t" ++
      String.ofList (Quote.char shown c) ++ "\n"
  | none => position offsets s.start ++ "\tEOF\n"

def textLine (offsets : Bool) (line : Line) : String :=
  position offsets line.start ++ "\t" ++ String.ofList line.text ++ "\n"

/-- The dump of a text by a scanner of its own. -/
def render (shown : Char → Bool) (options : Options) (text : Text) : String :=
  let scanner := Scanner.startingAt text options.start
  match options.mode with
  | .spans =>
    let (spans, last, _) := scanner.readAll
    let told := if options.showEnd then spans ++ [last] else spans
    String.join (told.map (spanLine shown options.offsets))
  | .lines => String.join (scanner.lines.map (textLine options.offsets))
  | .chars => String.ofList (Scanner.chars scanner.spans.1)

end TextScan.Dump
