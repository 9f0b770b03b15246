/-! Sequences of characters that steer a terminal, and texts without them. An
escape character begins a sequence. The character behind it says of which kind
the sequence is, and so where it ends. -/

namespace TextScan

/-- The sequence that is open at some place of a text. -/
inductive ControlSequence where
  /-- None at all. -/
  | plain
  | escape
  /-- Intermediate characters, and one more that ends the sequence. -/
  | intermediate
  /-- Numbers and marks, and the letter or sign of a command. -/
  | command
  /-- The head of a device control, first without numbers, then with them, then
  with intermediate characters. -/
  | device
  | deviceNumbers
  | deviceIntermediate
  /-- What a device is told, a heading or a remark. -/
  | message
  /-- A command to the operating system. -/
  | systemCommand
deriving DecidableEq

namespace ControlSequence

def escapeChar : Char := '\x1b'

/-- Cancel and substitute give up any sequence. -/
def cancels (c : Char) : Bool := c = '\x18' || c = '\x1a'

def isIntermediate (c : Char) : Bool := ' ' ≤ c && c ≤ '/'

def isLetterOrSign (c : Char) : Bool := '@' ≤ c && c ≤ '~'

def isFinal (c : Char) : Bool := '0' ≤ c && c ≤ '~'

/-- The octet that ends a message, also where it is part of a character. -/
def terminator : UInt8 := 0x9c

/-- What is open behind a hidden character. -/
def next (s : ControlSequence) (c : Char) : ControlSequence :=
  if c = escapeChar then escape
  else if cancels c then plain
  else
    match s with
    | plain => plain
    | escape =>
      if isIntermediate c then intermediate
      else if c = '[' then command
      else if c = ']' then systemCommand
      else if c = 'P' then device
      else if c = 'X' || c = '^' || c = '_' then message
      else if isFinal c then plain
      else escape
    | intermediate => if isFinal c then plain else intermediate
    | command => if isLetterOrSign c then plain else command
    | device =>
      if isIntermediate c then deviceIntermediate
      else if isLetterOrSign c then message
      else if isFinal c then deviceNumbers
      else device
    | deviceNumbers =>
      if isIntermediate c then deviceIntermediate
      else if '<' ≤ c && c ≤ '~' then message
      else deviceNumbers
    | deviceIntermediate => if isFinal c then message else deviceIntermediate
    | message => if (String.utf8EncodeChar c).contains terminator then plain else message
    | systemCommand => if c = '\x07' then plain else systemCommand

/-- Tabs and breaks, which move the cursor and nothing else. -/
def isLayout (c : Char) : Bool := c = '\t' || c = '\n' || c = '\x0c' || c = '\r'

/-- Whether a character shows that stands inside a sequence, or outside of all. -/
def shows : ControlSequence → Char → Bool
  | plain, c => isLayout c || (' ' ≤ c && c ≠ '\x7f')
  | escape, c | intermediate, c | command, c => isLayout c
  | _, _ => false

/-- A text without its control characters and sequences. A tab or break inside a
sequence only interrupts it: behind it text shows up to the next control
character. There the sequence goes on, unless a character from outside ASCII has
ended it. -/
def strip (s : ControlSequence) (interrupted : Bool) : List Char → List Char
  | [] => []
  | c :: rest =>
    if (if interrupted then plain else s).shows c then
      c :: strip (if c.toNat < 0x80 then s else plain) true rest
    else strip (s.next c) false rest

/-- A text as it shows. -/
def visible (s : String) : String := String.ofList (strip plain false s.toList)

end ControlSequence

end TextScan
