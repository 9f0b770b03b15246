import TextScan.Toml.Text

/-! TOML numbers. Underscores may stand between two digits. Integers fit 64 bits
with a sign; a float may be any decimal number but one too large for a double. -/

namespace TextScan.Toml

/-- The digits at the front, underscores between them left out. -/
def digitRun (isDigit : Char → Bool) : List Char → List Char × List Char
  | [] => ([], [])
  | '_' :: c :: rest =>
    if isDigit c then
      let (digits, rest) := digitRun isDigit rest
      (c :: digits, rest)
    else ([], '_' :: c :: rest)
  | c :: rest =>
    if isDigit c then
      let (digits, rest) := digitRun isDigit rest
      (c :: digits, rest)
    else ([], c :: rest)

/-- Digits of which the first is not led in by an underscore. -/
def digits? (isDigit : Char → Bool) : List Char → Option (List Char × List Char)
  | c :: rest =>
    if isDigit c then
      let (digits, rest) := digitRun isDigit rest
      some (c :: digits, rest)
    else none
  | [] => none

def valueIn (base : Nat) (digits : List Char) : Nat :=
  digits.foldl (fun n c => base * n + (hexDigit? c).getD 0) 0

/-- Whether there is a minus sign, and what follows the sign if there is one. -/
def sign (cs : List Char) : Bool × List Char :=
  match cs with
  | '+' :: rest => (false, rest)
  | '-' :: rest => (true, rest)
  | _ => (false, cs)

/-- Decimal digits that do not begin with a needless zero. -/
def decimal? : List Char → Option (List Char × List Char)
  | '0' :: rest => some (['0'], rest)
  | cs => digits? Char.isDigit cs

def isHexDigit (c : Char) : Bool := (hexDigit? c).isSome

def isOctalDigit (c : Char) : Bool := '0' ≤ c && c ≤ '7'

def isBinaryDigit (c : Char) : Bool := c = '0' || c = '1'

/-- The greatest integer, in 64 bits with a sign. -/
def maxInteger : Nat := 0x7FFFFFFFFFFFFFFF

def magnitude? (base : Nat) (isDigit : Char → Bool) (cs : List Char) :
    Option (Int × List Char) := do
  let (digits, rest) ← digits? isDigit cs
  let n := valueIn base digits
  if n ≤ maxInteger then some (n, rest) else none

def integer? : List Char → Option (Int × List Char)
  | '0' :: 'x' :: rest => magnitude? 16 isHexDigit rest
  | '0' :: 'o' :: rest => magnitude? 8 isOctalDigit rest
  | '0' :: 'b' :: rest => magnitude? 2 isBinaryDigit rest
  | cs => do
    let (negative, rest) := sign cs
    let (digits, rest) ← decimal? rest
    let n := valueIn 10 digits
    if negative then if n ≤ maxInteger + 1 then some (-(n : Int), rest) else none
    else if n ≤ maxInteger then some (n, rest) else none

/-- The least number that no double is nearest to: half a step above the greatest. -/
def floatBound : Nat := (Nat.pow 2 54 - 1) * Nat.pow 2 970

/-- Whether `digits` times ten to the power of `exponent` is too large for a
double. The decimal point is moved behind the first digit, so that most numbers
are decided by their exponent alone. -/
def overflows (digits : List Char) (exponent : Int) : Bool :=
  let digits := digits.dropWhile (· == '0')
  let point := exponent + digits.length
  if digits.isEmpty || point < 309 then false
  else if 309 < point then true
  else
    let n := valueIn 10 digits
    if 0 ≤ exponent then floatBound ≤ n * Nat.pow 10 exponent.toNat
    else floatBound * Nat.pow 10 (-exponent).toNat ≤ n

def exponent? : List Char → Option (Int × List Char)
  | c :: rest =>
    if c = 'e' || c = 'E' then do
      let (negative, rest) := sign rest
      let (digits, rest) ← digits? Char.isDigit rest
      let n := valueIn 10 digits
      some (if negative then -(n : Int) else n, rest)
    else none
  | [] => none

/-- What follows a float. It has a fraction or an exponent, or it is infinite or
no number at all. -/
def float? (cs : List Char) : Option (List Char) :=
  let (negative, unsigned) := sign cs
  match unsigned with
  | 'i' :: 'n' :: 'f' :: rest => some rest
  | 'n' :: 'a' :: 'n' :: rest => some rest
  | _ => do
    let (whole, rest) ← decimal? unsigned
    let (fraction, exponent, rest) ← match rest with
      | '.' :: rest => do
        let (fraction, rest) ← digits? Char.isDigit rest
        let (exponent, rest) := (exponent? rest).getD (0, rest)
        some (fraction, exponent, rest)
      | _ => do
        let (exponent, rest) ← exponent? rest
        some ([], exponent, rest)
    if !negative && overflows (whole ++ fraction) (exponent - fraction.length) then none
    else some rest

end TextScan.Toml
