import TextScan.Fields
import TextScan.Number
import TextScan.Position
import TextScan.Quote
import TextScan.Unicode.Ranges

/-! Positions written as offset, line and column with colons between them.
White space around the whole is ignored, but not around the fields. -/

namespace TextScan

namespace Position

inductive Field where
  | offset | line | column
deriving DecidableEq

def Field.name : Field → String
  | offset => "offset"
  | line => "line"
  | column => "column"

inductive ParseError where
  /-- There are not three fields in this text. -/
  | fieldCount (text : List Char)
  | badField (field : Field) (text : List Char) (cause : NumberError)
deriving DecidableEq

def ParseError.message : ParseError → String
  | fieldCount text =>
    "expected offset:line:column, got " ++ String.ofList (Quote.string Quote.isShown text)
  | badField field text cause =>
    field.name ++ " " ++ String.ofList (Quote.string Quote.isShown text) ++ ": " ++ cause.message

/-- The first bad field from the left is the one that is told. -/
def parse (text : List Char) : Except ParseError Position :=
  match fields ':' (Unicode.trim text) with
  | [offset, line, column] => do
    let o ← (Number.parseOffset offset).mapError (.badField .offset offset)
    let l ← (Number.parseCount line).mapError (.badField .line line)
    let c ← (Number.parseCount column).mapError (.badField .column column)
    return ⟨o, l, c⟩
  | _ => .error (.fieldCount text)

end Position

end TextScan
