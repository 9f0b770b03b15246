import TextScan.Toml.Text

/-! Writing strings. A string is written in the first of four styles that shows
it as it is; only where none does are escapes put in. Tabs, which may stand for
themselves, do not count for this choice. -/

namespace TextScan.Toml

inductive QuoteStyle where
  /-- Between quotation marks. -/
  | basic
  /-- Between apostrophes, without escapes. -/
  | literal
  /-- Between three quotation marks, with line breaks as they are. -/
  | longBasic
  /-- Between three apostrophes, with line breaks as they are and without escapes. -/
  | longLiteral
deriving DecidableEq

def isControl (c : Char) : Bool := c < ' ' || c = '\x7f'

/-- The greatest number of `quote`s side by side, `run` of which stand in front. -/
def longestRun (quote : Char) (run : Nat) : List Char → Nat
  | [] => run
  | c :: rest => max run (longestRun quote (if c = quote then run + 1 else 0) rest)

/-- Whether there is a character that no style can show, a line break aside. -/
def hasControl (s : List Char) : Bool := s.any fun c => isControl c && c ≠ '\t' && c ≠ '\n'

/-- Whether a style shows a string without an escape. -/
def QuoteStyle.shows (style : QuoteStyle) (s : List Char) : Bool :=
  !hasControl s &&
    match style with
    | .basic => !s.contains '\\' && !s.contains '"' && !s.contains '\n'
    | .literal => !s.contains '\x27' && !s.contains '\n'
    | .longBasic => !s.contains '\\' && longestRun '"' 0 s ≤ 2
    | .longLiteral => longestRun '\x27' 0 s ≤ 2

/-- The styles in the order in which they are tried. -/
def QuoteStyle.all : List QuoteStyle := [.basic, .literal, .longBasic, .longLiteral]

/-- The style that a string is written in. -/
def styleOf (s : List Char) : QuoteStyle :=
  (QuoteStyle.all.find? (·.shows s)).getD (if s.contains '\n' then .longBasic else .basic)

def upperHexDigit (n : Nat) : Char :=
  Char.ofNat (if n < 10 then '0'.toNat + n else 'A'.toNat + (n - 10))

/-- A character in four hexadecimal digits. -/
def numberEscape (c : Char) : List Char :=
  ['\\', 'u', upperHexDigit (c.toNat / 0x1000 % 16), upperHexDigit (c.toNat / 0x100 % 16),
    upperHexDigit (c.toNat / 0x10 % 16), upperHexDigit (c.toNat % 16)]

/-- A character that may not stand for itself. -/
def escapeOf (c : Char) : List Char :=
  match escapes.find? (·.2 = c) with
  | some (letter, _) => ['\\', letter]
  | none => numberEscape c

def needsEscape (c : Char) : Bool := isControl c || c = '\\'

def writeBasic (s : List Char) : List Char :=
  s.flatMap fun c => if needsEscape c || c = '"' then escapeOf c else [c]

/-- The inside of a long string behind `run` quotation marks. Two may stand side
by side, a third one needs an escape, behind which the count begins anew. -/
def writeLong (run : Nat) : List Char → List Char
  | [] => []
  | c :: rest =>
    if c = '"' then
      if run < 2 then '"' :: writeLong (run + 1) rest else escapeOf c ++ writeLong 0 rest
    else if needsEscape c && c ≠ '\n' then escapeOf c ++ writeLong 0 rest
    else c :: writeLong 0 rest

/-- The line break behind three opening quotes, which does not count, is written
when others follow. -/
def openingBreak (s : List Char) : List Char := if s.contains '\n' then ['\n'] else []

/-- A string with its quotes. -/
def writeText (s : List Char) : List Char :=
  match styleOf s with
  | .basic => '"' :: writeBasic s ++ ['"']
  | .literal => '\x27' :: s ++ ['\x27']
  | .longBasic => ['"', '"', '"'] ++ openingBreak s ++ writeLong 0 s ++ ['"', '"', '"']
  | .longLiteral =>
    ['\x27', '\x27', '\x27'] ++ openingBreak s ++ s ++ ['\x27', '\x27', '\x27']

end TextScan.Toml
