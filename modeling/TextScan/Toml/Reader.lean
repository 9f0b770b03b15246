import TextScan.Toml.DateTime
import TextScan.Toml.Number
import TextScan.Toml.Text
import TextScan.Toml.Value

/-! Reading keys, values and documents. Keys and values may be nested `maxDepth`
deep, which also bounds the recursion; lists of items are bounded by the number
of characters left, as each takes one at least. -/

namespace TextScan.Toml

/-- The most parts of a key, and the most brackets around a value. -/
def maxDepth : Nat := 79

def isBare (c : Char) : Bool := c.isAlphanum || c = '_' || c = '-'

/-- One part of a key. -/
def keyPart? : List Char → Option (String × List Char)
  | '"' :: rest => (basic? rest).map fun (s, rest) => (String.ofList s, rest)
  | '\x27' :: rest => (literal? rest).map fun (s, rest) => (String.ofList s, rest)
  | cs =>
    let bare := cs.takeWhile isBare
    if bare.isEmpty then none else some (String.ofList bare, cs.dropWhile isBare)

/-- A key of up to so many parts, with the spaces around it. -/
def keyWithin? : Nat → List Char → Option (List String × List Char)
  | 0, _ => none
  | n + 1, cs => do
    let (part, rest) ← keyPart? (skipSpaces cs)
    match skipSpaces rest with
    | '.' :: rest =>
      let (parts, rest) ← keyWithin? n rest
      return (part :: parts, rest)
    | rest => return ([part], rest)

def key? (cs : List Char) : Option (List String × List Char) := keyWithin? maxDepth cs

/-- What has been read before `rest` was left. -/
def readBefore (rest cs : List Char) : String :=
  String.ofList (cs.take (cs.length - rest.length))

/-- A value that holds no others. -/
def scalarValue? (cs : List Char) : Option (Value × List Char) :=
  match cs with
  | 't' :: 'r' :: 'u' :: 'e' :: rest => some (.boolean true, rest)
  | 'f' :: 'a' :: 'l' :: 's' :: 'e' :: rest => some (.boolean false, rest)
  | _ =>
    match text? cs with
    | some (s, rest) => some (.string (String.ofList s), rest)
    | none =>
      match dateTime? cs, float? cs with
      | some rest, _ => some (.dateTime (readBefore rest cs), rest)
      | none, some rest => some (.float (readBefore rest cs), rest)
      | none, none => (integer? cs).map fun (n, rest) => (.integer n, rest)

mutual

/-- A value in up to so many brackets. -/
def value? : Nat → List Char → Option (Value × List Char)
  | 0, cs =>
    match cs with
    | '[' :: _ | '\x7b' :: _ => none
    | _ => scalarValue? cs
  | depth + 1, cs =>
    match cs with
    | '[' :: rest => do
      let (items, rest) ← items? depth rest.length rest
      return (.array items, rest)
    | '\x7b' :: rest => do
      let (pairs, rest) ← match skipSpaces rest with
        | '\x7d' :: rest => some ([], rest)
        | _ => pairs? depth rest.length rest
      return (.table .inline (← Entries.insertAll pairs []), rest)
    | _ => scalarValue? cs
termination_by depth _ => (depth, 0)

/-- The items of an array and its closing bracket. -/
def items? : Nat → Nat → List Char → Option (List Value × List Char)
  | _, 0, _ => none
  | depth, n + 1, cs =>
    match skipLayout false cs with
    | ']' :: rest => some ([], rest)
    | cs => do
      let (item, rest) ← value? depth cs
      match skipLayout false rest with
      | ',' :: rest =>
        let (items, rest) ← items? depth n rest
        return (item :: items, rest)
      | ']' :: rest => return ([item], rest)
      | _ => none
termination_by depth n _ => (depth, n)

/-- The pairs of an inline table, one at least, and its closing brace. -/
def pairs? : Nat → Nat → List Char → Option (List (List String × Value) × List Char)
  | _, 0, _ => none
  | depth, n + 1, cs => do
    let (key, rest) ← key? cs
    let (v, rest) ← value? depth (skipSpaces (← char? '=' rest))
    match skipSpaces rest with
    | ',' :: rest =>
      let (pairs, rest) ← pairs? depth n rest
      return ((key, v) :: pairs, rest)
    | '\x7d' :: rest => return ([(key, v)], rest)
    | _ => none
termination_by depth n _ => (depth, n)

end

inductive Statement where
  | pair (key : List String) (v : Value)
  | header (key : List String)
  /-- A header in double brackets. -/
  | listHeader (key : List String)

/-- A statement at the front of a line, and what follows on the next line. -/
def statement? : List Char → Option (Statement × List Char)
  | '[' :: '[' :: rest => do
    let (key, rest) ← key? rest
    return (.listHeader key, ← endLine? (← char? ']' (← char? ']' rest)))
  | '[' :: rest => do
    let (key, rest) ← key? rest
    return (.header key, ← endLine? (← char? ']' rest))
  | cs => do
    let (key, rest) ← key? cs
    let (v, rest) ← value? maxDepth (skipSpaces (← char? '=' rest))
    return (.pair key v, ← endLine? rest)

/-- The statements of up to so many lines. -/
def statements? : Nat → List Char → Option (List Statement)
  | 0, _ => some []
  | n + 1, cs =>
    if cs.isEmpty then some []
    else
      match endLine? cs with
      | some rest => statements? n rest
      | none => do
        let (st, rest) ← statement? (skipSpaces cs)
        return st :: (← statements? n rest)

/-- A header and the pairs under it. -/
structure Section where
  key : List String
  /-- Whether the header is in double brackets. -/
  inList : Bool
  pairs : List (List String × Value)

/-- The pairs before the first header, and the sections. -/
def sections (statements : List Statement) :
    List (List String × Value) × List Section :=
  statements.foldr (fun st (pairs, sections) =>
    match st with
    | .pair key v => ((key, v) :: pairs, sections)
    | .header key => ([], ⟨key, false, pairs⟩ :: sections)
    | .listHeader key => ([], ⟨key, true, pairs⟩ :: sections)) ([], [])

/-- What a section makes of the value that its key has already. -/
def Section.build (s : Section) : Option Value → Option Value
  | none =>
    (Entries.insertAll s.pairs []).map fun e => if s.inList then .tables [e] else .table .header e
  | some (.table .implied e) =>
    if s.inList then none else (Entries.insertAll s.pairs e).map (.table .header)
  | some (.tables ts) =>
    if s.inList then (Entries.insertAll s.pairs []).map fun e => .tables (ts ++ [e]) else none
  | some _ => none

/-- The root table of a document. A byte order mark in front does not count. -/
def read? (document : String) : Option Entries := do
  let cs := match document.toList with
    | '\uFEFF' :: rest => rest
    | cs => cs
  let (pairs, sections) := sections (← statements? cs.length cs)
  sections.foldlM (fun root s => Entries.place s.build s.key root)
    (← Entries.insertAll pairs [])

end TextScan.Toml
