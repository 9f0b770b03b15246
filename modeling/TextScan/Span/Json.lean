import TextScan.Json
import TextScan.Quote
import TextScan.Position

/-! Spans as data of other programs, and as text for people. -/

namespace TextScan

def Position.ofJson? (j : Json) : Option Position := do
  match ← j.record ["offset", "line", "column"] with
  | [some offset, some line, some column] =>
    return ⟨← offset.offset?, ← line.count?, ← column.count?⟩
  | _ => none

def Position.toJson (p : Position) : Json :=
  .object [("offset", .integer p.offset), ("line", .integer p.line),
    ("column", .integer p.column)]

namespace Span

/-- The end of input is `null`, or the field is left out. -/
def charOfJson? : Option Json → Option (Option Char)
  | none => some none
  | some .null => some none
  | some j => j.char?.map some

def ofJson? (j : Json) : Option Span := do
  match ← j.record ["rune", "start", "end"] with
  | [char, some start, some stop] =>
    return ⟨← charOfJson? char, ← Position.ofJson? start, ← Position.ofJson? stop⟩
  | _ => none

def toJson (s : Span) : Json :=
  .object [
    ("rune", match s.char? with
      | some c => .string [c]
      | none => .null),
    ("start", s.start.toJson), ("end", s.stop.toJson)]

instance : ToString Span where
  toString s :=
    match s.char? with
    | some c => s!"{s.start}-{s.stop} " ++ String.ofList (Quote.char Quote.isShown c)
    | none => s!"{s.start} EOF"

end Span

end TextScan
