/-! Points in a text, and scanned characters with the piece of text each was read from. The
offset counts bytes and may lie outside the text, even before it; line and column count
from one. -/

namespace TextScan

/-- The offset, with its sign, and both counters are assumed to fit in 64 bits. The numbers
here have no limit, and nothing is said of a count that would pass that one. -/
structure Position where
  offset : Int
  line : Nat
  column : Nat
deriving DecidableEq

namespace Position

/-- The start of a text. -/
def origin : Position := ⟨0, 1, 1⟩

/-- The position after a character of `width` bytes on the same line. -/
def advance (p : Position) (width : Nat) : Position :=
  { p with offset := p.offset + width, column := p.column + 1 }

/-- The first column of the next line, at the same byte. -/
def breakLine (p : Position) : Position :=
  { p with line := p.line + 1, column := 1 }

@[simp] theorem advance_offset (p : Position) (width : Nat) :
    (p.advance width).offset = p.offset + width := rfl

@[simp] theorem breakLine_offset (p : Position) : p.breakLine.offset = p.offset := rfl

/-- People count lines and columns, so the offset is left out. -/
instance : ToString Position := ⟨fun p => s!"{p.line}:{p.column}"⟩

end Position

/-- The end of input is a span without a character. -/
structure Span where
  char? : Option Char
  start : Position
  stop : Position
deriving DecidableEq

namespace Span

def isEnd (s : Span) : Bool := s.char?.isNone

/-- The number of bytes read, and zero where `stop` lies before `start`. -/
def byteCount (s : Span) : Nat := (s.stop.offset - s.start.offset).toNat

end Span

end TextScan
