import TextScan.Unicode.Lowercase

/-! What is written about a text: every span, the logical lines, or the
normalized text itself. -/

namespace TextScan

inductive Mode where
  | spans | lines | chars
deriving DecidableEq

namespace Mode

def name : Mode → String
  | spans => "spans"
  | lines => "lines"
  | chars => "chars"

/-- The name with a capital, as it stands in logs. -/
def title : Mode → String
  | spans => "Spans"
  | lines => "Lines"
  | chars => "Chars"

def all : List Mode := [spans, lines, chars]

def ofName? (name : String) : Option Mode := all.find? (·.name == name)

@[simp] theorem ofName?_name (m : Mode) : ofName? m.name = some m := by
  cases m <;> rfl

/-- Letter case does not matter. A name that is refused is given back in lower case. -/
def parse (text : List Char) : Except (List Char) Mode :=
  let lower := Unicode.lowercase text
  match ofName? (String.ofList lower) with
  | some m => .ok m
  | none => .error lower

end Mode

end TextScan
