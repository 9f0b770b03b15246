import TextScan.Number

/-! JSON values, as far as positions and spans are read from them. -/

namespace TextScan

inductive Json where
  | null
  | bool (b : Bool)
  | integer (n : Int)
  /-- A number that is not written as an integer. -/
  | fraction
  | string (s : List Char)
  | array (items : List Json)
  | object (fields : List (String × Json))
deriving Inhabited

namespace Json

/-- The fields of a record with these names: an object may hold them in any order
and others too, an array holds just them in this order. -/
def record (names : List String) : Json → Option (List (Option Json))
  | object fields => some (names.map fun name => fields.lookup name)
  | array items => if items.length = names.length then some (items.map some) else none
  | _ => none

def offset? : Json → Option Int
  | integer n => if -(Number.maxOffset + 1 : Int) ≤ n ∧ n ≤ Number.maxOffset then some n else none
  | _ => none

def count? : Json → Option Nat
  | integer n => if 0 ≤ n ∧ n ≤ Number.maxCount then some n.toNat else none
  | _ => none

def char? : Json → Option Char
  | string [c] => some c
  | _ => none

end Json

end TextScan
