import TextScan.Toml.Layout

/-! TOML strings: in one line or over several, with escapes (between quotation
marks) or literally (between apostrophes). The readers start behind the opening
quotes and give the string with what follows its closing quotes. -/

namespace TextScan.Toml

/-- What a letter behind a backslash stands for. -/
def escapes : List (Char × Char) :=
  [('b', '\x08'), ('t', '\t'), ('n', '\n'), ('f', '\x0c'), ('r', '\r'), ('"', '"'), ('\\', '\\')]

def hexDigit? (c : Char) : Option Nat :=
  if c.isDigit then some (c.toNat - '0'.toNat)
  else if 'a' ≤ c && c ≤ 'f' then some (c.toNat - 'a'.toNat + 10)
  else if 'A' ≤ c && c ≤ 'F' then some (c.toNat - 'A'.toNat + 10)
  else none

/-- The character with this number, which must not be a surrogate. -/
def scalar? (digits : List Char) : Option Char := do
  let n ← digits.foldlM (fun n c => (16 * n + ·) <$> hexDigit? c) 0
  if h : n.isValidChar then some (Char.ofNatAux n h) else none

theorem scalar?_of_value {digits : List Char} {c : Char}
    (h : digits.foldlM (fun n c => (16 * n + ·) <$> hexDigit? c) 0 = some c.toNat) :
    scalar? digits = some c := by
  rw [scalar?, h]
  exact dif_pos c.valid

/-- The character that an escape stands for, its backslash already read. -/
def escape? : List Char → Option (Char × List Char)
  | 'u' :: a :: b :: c :: d :: rest => (scalar? [a, b, c, d]).map (·, rest)
  | 'U' :: a :: b :: c :: d :: e :: f :: g :: h :: rest =>
    (scalar? [a, b, c, d, e, f, g, h]).map (·, rest)
  | c :: rest => (escapes.lookup c).map (·, rest)
  | [] => none

theorem length_lt_of_escape? {cs rest : List Char} {c : Char} (h : escape? cs = some (c, rest)) :
    rest.length < cs.length := by
  unfold escape? at h
  split at h <;> simp at h <;> obtain ⟨_, _, rfl, rfl⟩ := h <;> simp <;> omega

/-- One character between quotation marks, which are not one themselves. -/
def basicChar? : List Char → Option (Char × List Char)
  | '\\' :: rest => escape? rest
  | c :: rest => if isText c && c ≠ '"' then some (c, rest) else none
  | [] => none

theorem length_lt_of_basicChar? {cs rest : List Char} {c : Char}
    (h : basicChar? cs = some (c, rest)) : rest.length < cs.length := by
  unfold basicChar? at h
  split at h
  · have := length_lt_of_escape? h
    simp
    omega
  · simp at h
    simp [h]
  · contradiction

def basic? (cs : List Char) : Option (List Char × List Char) :=
  if cs.head? = some '"' then some ([], cs.tail)
  else
    match _h : basicChar? cs with
    | some (c, rest) => (basic? rest).map fun (s, rest) => (c :: s, rest)
    | none => none
termination_by cs.length
decreasing_by exact length_lt_of_basicChar? _h

/-- A string of several lines ends with three quotes; up to two more before them
belong to it. -/
def closing? (quote : Char) : List Char → Option (List Char × List Char)
  | a :: b :: c :: rest =>
    if a = quote ∧ b = quote ∧ c = quote then
      match rest with
      | d :: e :: rest' =>
        if d = quote ∧ e = quote then some ([quote, quote], rest')
        else if d = quote then some ([quote], e :: rest')
        else some ([], rest)
      | [d] => if d = quote then some ([quote], []) else some ([], rest)
      | [] => some ([], [])
    else none
  | _ => none

/-- A backslash at the end of a line, already read, takes the line break and all
white space behind it along. -/
def continuation? (cs : List Char) : Option (List Char) :=
  (newline? (skipSpaces cs)).map skipBlank

theorem length_le_of_continuation? {cs rest : List Char} (h : continuation? cs = some rest) :
    rest.length ≤ cs.length := by
  obtain ⟨next, hn, rfl⟩ := Option.map_eq_some_iff.mp h
  have h1 := length_lt_of_newline? hn
  have h2 := length_skipBlank_le next
  have h3 := length_skipSpaces_le cs
  omega

/-- A piece of a string of several lines: a character, a quote, a line break, or
nothing where a line goes on. -/
def basicPiece? (cs : List Char) : Option (List Char × List Char) :=
  match newline? cs with
  | some rest => some (['\n'], rest)
  | none =>
    match cs with
    | '"' :: rest => some (['"'], rest)
    | '\\' :: rest =>
      match continuation? rest with
      | some rest => some ([], rest)
      | none => (escape? rest).map fun (c, rest) => ([c], rest)
    | _ => (basicChar? cs).map fun (c, rest) => ([c], rest)

theorem length_lt_of_basicPiece? {cs rest s : List Char} (h : basicPiece? cs = some (s, rest)) :
    rest.length < cs.length := by
  unfold basicPiece? at h
  split at h
  · cases h
    exact length_lt_of_newline? (by assumption)
  · split at h
    · cases h
      simp
    · split at h
      · next hc =>
        cases h
        have := length_le_of_continuation? hc
        simp
        omega
      · obtain ⟨⟨c, r⟩, he, hr⟩ := Option.map_eq_some_iff.mp h
        cases hr
        have := length_lt_of_escape? he
        simp
        omega
    · obtain ⟨⟨c, r⟩, he, hr⟩ := Option.map_eq_some_iff.mp h
      cases hr
      exact length_lt_of_basicChar? he

def longBasic? (cs : List Char) : Option (List Char × List Char) :=
  match closing? '"' cs with
  | some found => some found
  | none =>
    match _h : basicPiece? cs with
    | some (piece, rest) => (longBasic? rest).map fun (s, rest) => (piece ++ s, rest)
    | none => none
termination_by cs.length
decreasing_by exact length_lt_of_basicPiece? _h

def literal? : List Char → Option (List Char × List Char)
  | '\x27' :: rest => some ([], rest)
  | c :: rest =>
    if isText c then (literal? rest).map fun (s, rest) => (c :: s, rest) else none
  | [] => none

def longLiteral? (cs : List Char) : Option (List Char × List Char) :=
  match closing? '\x27' cs with
  | some found => some found
  | none =>
    match cs with
    | '\r' :: '\n' :: rest => (longLiteral? rest).map fun (s, rest) => ('\n' :: s, rest)
    | c :: rest =>
      if isText c || c = '\n' then (longLiteral? rest).map fun (s, rest) => (c :: s, rest)
      else none
    | [] => none

/-- A line break directly behind three opening quotes does not count. -/
def dropFirstNewline (cs : List Char) : List Char := (newline? cs).getD cs

/-- A string with its quotes. -/
def text? : List Char → Option (List Char × List Char)
  | '"' :: '"' :: '"' :: rest => longBasic? (dropFirstNewline rest)
  | '"' :: rest => basic? rest
  | '\x27' :: '\x27' :: '\x27' :: rest => longLiteral? (dropFirstNewline rest)
  | '\x27' :: rest => literal? rest
  | _ => none

end TextScan.Toml
