import TextScan.Cursor
import TextScan.LineBreaks
import TextScan.Position

/-! Scanners: a text, a cursor in it and a mark. Reading moves the cursor and
peeking does not. A slice is the text from the mark to the cursor with its line
breaks normalized. -/

namespace TextScan

structure Scanner where
  text : Text
  cursor : Cursor
  marked : Position

namespace Scanner

/-- A scanner at a position that is taken on trust, and marked there. -/
def startingAt (text : Text) (p : Position) : Scanner := ⟨text, ⟨p, false⟩, p⟩

def ofText (text : Text) : Scanner := startingAt text .origin

def position (s : Scanner) : Position := s.cursor.position

/-- Moves anywhere, also out of the text, and leaves the mark where it is. -/
def moveTo (s : Scanner) (p : Position) : Scanner :=
  { s with cursor := { s.cursor with position := p } }

def isAtEnd (s : Scanner) : Bool := (s.text.index? s.cursor.offset).isNone

def read (s : Scanner) : Option Char × Scanner :=
  let (char?, cursor) := s.cursor.read s.text
  (char?, { s with cursor })

def readSpan (s : Scanner) : Span × Scanner :=
  let (char?, next) := s.read
  (⟨char?, s.position, next.position⟩, next)

def peek (s : Scanner) : Option Char := s.read.1

def peekSpan (s : Scanner) : Span := s.readSpan.1

/-- Passes one character and looks at the one behind it. -/
def skip (s : Scanner) : Option Char × Scanner :=
  let next := s.read.2
  (next.peek, next)

/-- Passes one character and looks at the span of the one behind it. -/
def skipSpan (s : Scanner) : Span × Scanner :=
  let next := s.read.2
  (next.peekSpan, next)

/-- Starts the next slice here. -/
def mark (s : Scanner) : Scanner :=
  { s with marked := s.position, cursor := { s.cursor with altered := false } }

/-- The text from the mark to `stop`, which is normalized only if `altered` says
that something may have to change. -/
def sliceTo (s : Scanner) (stop : Cursor) : List Char :=
  match s.text.index? s.marked.offset with
  | none => []
  | some start =>
    let raw := s.text.decodeRange start (min stop.offset.toNat s.text.size)
    if stop.altered then LineBreaks.normalize raw else raw

def slice (s : Scanner) : List Char := s.sliceTo s.cursor

/-- The slice with the character at the cursor in it. -/
def sliceThrough (s : Scanner) : List Char := s.sliceTo s.read.2.cursor

@[simp] theorem read_text (s : Scanner) : s.read.2.text = s.text := rfl

@[simp] theorem read_marked (s : Scanner) : s.read.2.marked = s.marked := rfl

@[simp] theorem mark_text (s : Scanner) : s.mark.text = s.text := rfl

@[simp] theorem mark_position (s : Scanner) : s.mark.position = s.position := rfl

/-- The bytes ahead of the cursor, the measure of everything that reads on. -/
def remaining (s : Scanner) : Nat := (s.text.size - s.cursor.offset).toNat

theorem remaining_read_le (s : Scanner) : s.read.2.remaining ≤ s.remaining := by
  have := Cursor.offset_le_read s.text s.cursor
  simp only [remaining, read_text]
  simp only [read]
  omega

theorem remaining_read_lt {s : Scanner} {char : Char} (h : s.read.1 = some char) :
    s.read.2.remaining < s.remaining := by
  have hread : s.cursor.read s.text = (some char, (s.cursor.read s.text).2) := Prod.ext h rfl
  have hlt := Cursor.offset_lt_read hread
  simp only [remaining, read_text]
  simp only [read]
  omega

end Scanner

end TextScan
