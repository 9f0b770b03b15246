/-! Decimal numbers with a bound. Digits are read from the left, and reading ends
at the first character that is no digit or that takes the value out of range. -/

namespace TextScan

inductive NumberError where
  | empty
  | invalidDigit
  | tooLarge
  | tooSmall
deriving DecidableEq

namespace NumberError

def message : NumberError → String
  | empty => "cannot parse integer from empty string"
  | invalidDigit => "invalid digit found in string"
  | tooLarge => "number too large to fit in target type"
  | tooSmall => "number too small to fit in target type"

end NumberError

namespace Number

/-- The greatest offset. Offsets are as great as 64 bits with a sign allow. -/
def maxOffset : Nat := 0x7FFFFFFFFFFFFFFF

/-- The greatest line and column, without a sign. -/
def maxCount : Nat := 0xFFFFFFFFFFFFFFFF

/-- Appends digits to `value`, which is not to become greater than `bound`. -/
def digits (bound : Nat) (overflow : NumberError) (value : Nat) :
    List Char → Except NumberError Nat
  | [] => .ok value
  | c :: rest =>
    if c.isDigit then
      let value := 10 * value + (c.toNat - '0'.toNat)
      if value ≤ bound then digits bound overflow value rest else .error overflow
    else .error .invalidDigit

/-- Digits behind an optional plus sign. -/
def parseCount : List Char → Except NumberError Nat
  | [] => .error .empty
  | ['+'] => .error .invalidDigit
  | '+' :: rest => digits maxCount .tooLarge 0 rest
  | cs => digits maxCount .tooLarge 0 cs

/-- Digits behind an optional sign. -/
def parseOffset : List Char → Except NumberError Int
  | [] => .error .empty
  | ['+'] => .error .invalidDigit
  | ['-'] => .error .invalidDigit
  | '+' :: rest => (digits maxOffset .tooLarge 0 rest).map Int.ofNat
  | '-' :: rest => (digits (maxOffset + 1) .tooSmall 0 rest).map fun n : Nat => -(n : Int)
  | cs => (digits maxOffset .tooLarge 0 cs).map Int.ofNat

end Number

end TextScan
