import TextScan.Unicode.Extender
import TextScan.Unicode.Printable

/-! Quoted characters and strings. Line breaks, tabs, backslashes and the quote
itself are written with a backslash, and characters that would not show by their
number. Which ones show is a parameter of everything but `isShown`. -/

namespace TextScan.Quote

/-- The number of a character in lower case hexadecimal digits. -/
def number (c : Char) : List Char :=
  '\\' :: 'u' :: '\x7b' :: Nat.toDigits 16 c.toNat ++ ['\x7d']

/-- A character between two `quote`s. -/
def escape (shown : Char → Bool) (quote c : Char) : List Char :=
  if c = '\x00' then ['\\', '0']
  else if c = '\t' then ['\\', 't']
  else if c = '\n' then ['\\', 'n']
  else if c = '\r' then ['\\', 'r']
  else if c = '\\' || c = quote then ['\\', c]
  else if shown c then [c]
  else number c

def char (shown : Char → Bool) (c : Char) : List Char :=
  '\x27' :: escape shown '\x27' c ++ ['\x27']

def string (shown : Char → Bool) (cs : List Char) : List Char :=
  '"' :: cs.flatMap (escape shown '"') ++ ['"']

/-- Whether a character shows on its own; those of ASCII are looked at first. -/
def isShown (c : Char) : Bool :=
  (' ' ≤ c && c ≤ '~') || (!Unicode.isExtender c && Unicode.isPrintable c)

end TextScan.Quote
