/-! TOML values and tables. A table knows how it came to be, since that decides
whether later lines may add to it. -/

namespace TextScan.Toml

inductive Origin where
  /-- Written in braces; complete. -/
  | inline
  /-- Under a header of its own. -/
  | header
  /-- On the way to another header. -/
  | implied
  /-- On the way to a dotted key. -/
  | dotted
deriving DecidableEq

inductive Value where
  | string (s : String)
  | integer (n : Int)
  /-- A float as it is written. -/
  | float (text : String)
  | boolean (b : Bool)
  /-- A date, a time or both, as written. -/
  | dateTime (text : String)
  | array (items : List Value)
  | table (origin : Origin) (entries : List (String × Value))
  /-- The tables under headers in double brackets. -/
  | tables (items : List (List (String × Value)))
deriving Inhabited

abbrev Entries := List (String × Value)

namespace Entries

/-- Gives the key a value, in the place of its old one or at the end. -/
def set (key : String) (v : Value) : Entries → Entries
  | [] => [(key, v)]
  | (k, old) :: rest => if k = key then (k, v) :: rest else (k, old) :: set key v rest

/-- Changes the last of some tables. -/
def changeLast (f : Entries → Option Entries) : List Entries → Option (List Entries)
  | [] => none
  | [t] => do return [← f t]
  | t :: ts => do return t :: (← changeLast f ts)

/-- Adds a value under a dotted key, which must be new. Only tables made by dotted
keys may be added to; they and those implied by headers may be passed through. -/
def insert (v : Value) : List String → Entries → Option Entries
  | [], _ => none
  | [key], t => if (t.lookup key).isSome then none else some (set key v t)
  | key :: next :: path, t => do
    let inner ← match t.lookup key with
      | none => (insert v (next :: path) []).map (.table .dotted)
      | some (.table .dotted e) => (insert v (next :: path) e).map (.table .dotted)
      | some (.table .implied e) => do
        guard (!path.isEmpty)
        (insert v (next :: path) e).map (.table .implied)
      | some (.tables ts) => do
        guard (!path.isEmpty)
        (changeLast (insert v (next :: path)) ts).map .tables
      | some _ => none
    return set key inner t

/-- Puts what `f` makes of the value under the key of a header, passing through
tables that are not inline and the last one of each list of tables. -/
def place (f : Option Value → Option Value) : List String → Entries → Option Entries
  | [], _ => none
  | [key], t => do return set key (← f (t.lookup key)) t
  | key :: next :: path, t => do
    let inner ← match t.lookup key with
      | none => (place f (next :: path) []).map (.table .implied)
      | some (.table .inline _) => none
      | some (.table origin e) => (place f (next :: path) e).map (.table origin)
      | some (.tables ts) => (changeLast (place f (next :: path)) ts).map .tables
      | some _ => none
    return set key inner t

/-- Adds pairs one after the other. -/
def insertAll (pairs : List (List String × Value)) (t : Entries) : Option Entries :=
  pairs.foldlM (fun t (key, v) => insert v key t) t

end Entries

end TextScan.Toml
