import TextScan.Fields
import TextScan.FileError

/-! Trees of files and directories. A path in words is followed one component at
a time, and every component but the last must be a directory that is there. -/

namespace TextScan

inductive Entry where
  | file (content : ByteArray)
  | directory (children : List (String × Entry))
deriving Inhabited

abbrev Children := List (String × Entry)

/-- The components of a path from the root. -/
abbrev Location := List String

namespace Children

/-- What stands at a location below a directory with these children. -/
def entry? (cs : Children) : Location → Option Entry
  | [] => some (.directory cs)
  | [name] => cs.lookup name
  | name :: rest =>
    match cs.lookup name with
    | some (.directory inner) => entry? inner rest
    | _ => none

/-- Gives a name an entry, or none at all. -/
def set (name : String) (e : Option Entry) (cs : Children) : Children :=
  (e.map (name, ·)).toList ++ cs.filter (·.1 ≠ name)

/-- Changes the entry at a location, if it lies in a directory that is there. -/
def put (e : Option Entry) (cs : Children) : Location → Children
  | [] => cs
  | [name] => set name e cs
  | name :: rest =>
    match cs.lookup name with
    | some (.directory inner) => set name (some (.directory (put e inner rest))) cs
    | _ => cs

end Children

/-- The root, which is always a directory. -/
structure FileTree where
  top : Children

namespace FileTree

def empty : FileTree := ⟨[]⟩

def entry? (t : FileTree) (l : Location) : Option Entry := t.top.entry? l

def put (t : FileTree) (l : Location) (e : Option Entry) : FileTree := ⟨t.top.put e l⟩

/-- The greatest sizes of a component and of a path, in bytes. -/
def maxNameSize : Nat := 255
def maxPathSize : Nat := 4095

/-- Follows the components of a path. The last one need not be there. -/
def follow (t : FileTree) (l : Location) : List String → Except FileError Location
  | [] => .ok l
  | name :: rest =>
    match t.entry? l with
    | none => .error .notFound
    | some (.file _) => .error .notDirectory
    | some (.directory _) =>
      if maxNameSize < name.utf8ByteSize then .error .nameTooLong
      else if name = "" ∨ name = "." then follow t l rest
      else if name = ".." then follow t l.dropLast rest
      else follow t (l ++ [name]) rest

def components (path : String) : List String := (fields '/' path.toList).map String.ofList

/-- Where following a path begins: a slash in front leads to the root. -/
def origin (base : Location) (path : String) : Location :=
  if path.toList.head? = some '/' then [] else base

def checkName (path : String) : Except FileError Unit :=
  if path.isEmpty then .error .notFound
  else if path.contains '\x00' then .error .nullInName
  else if maxPathSize < path.utf8ByteSize then .error .nameTooLong
  else .ok ()

/-- The location of a path, whether something is there or not. -/
def locate (t : FileTree) (base : Location) (path : String) : Except FileError Location := do
  checkName path
  t.follow (origin base path) (components path)

def exists? (t : FileTree) (base : Location) (path : String) : Bool :=
  match t.locate base path with
  | .ok l => (t.entry? l).isSome
  | .error _ => false

def read (t : FileTree) (base : Location) (path : String) : Except FileError ByteArray := do
  match t.entry? (← t.locate base path) with
  | some (.file content) => .ok content
  | some (.directory _) => .error .isDirectory
  | none => .error .notFound

/-- Writes a file, new or not. A slash at the end of its path makes it the path of
a directory, and then only the way to the last component is followed. -/
def write (t : FileTree) (base : Location) (path : String) (content : ByteArray) :
    Except FileError FileTree := do
  checkName path
  let names := components path
  if names.getLast? = some "" then
    let way := (names.reverse.dropWhile (· == "")).tail.reverse
    let _ ← t.follow (origin base path) (way ++ ["."])
    .error .isDirectory
  else
    let l ← t.locate base path
    match t.entry? l with
    | some (.directory _) => .error .isDirectory
    | _ => .ok (t.put l (some (.file content)))

/-- Follows the components of a path and makes each directory that is missing. What has
been made stays, also if a later one cannot be made. -/
def makeAlong (t : FileTree) (l : Location) : List String → Except FileError Unit × FileTree
  | [] => (.ok (), t)
  | name :: rest =>
    if maxNameSize < name.utf8ByteSize then (.error .nameTooLong, t)
    else if name = "" ∨ name = "." then makeAlong t l rest
    else if name = ".." then makeAlong t l.dropLast rest
    else
      match t.entry? (l ++ [name]) with
      | some (.directory _) => makeAlong t (l ++ [name]) rest
      | some (.file _) => (.error (if rest.isEmpty then .alreadyExists else .notDirectory), t)
      | none => makeAlong (t.put (l ++ [name]) (some (.directory []))) (l ++ [name]) rest

/-- Makes a directory, and those on the way to it, as far as that goes. -/
def makeDirectories (t : FileTree) (base : Location) (path : String) :
    Except FileError Unit × FileTree :=
  match checkName path with
  | .error e => (.error e, t)
  | .ok _ => t.makeAlong (origin base path) (components path)

/-- The tree with a directory, and those on the way to it, if they can all be made. -/
def makeDirectory (t : FileTree) (base : Location) (path : String) :
    Except FileError FileTree :=
  match t.makeDirectories base path with
  | (.error e, _) => .error e
  | (.ok _, made) => .ok made

/-- Removes a file, if there is one. -/
def remove (t : FileTree) (base : Location) (path : String) : Except FileError FileTree := do
  let l ← t.locate base path
  match t.entry? l with
  | some (.file _) => .ok (t.put l none)
  | some (.directory _) => .error .isDirectory
  | none => .error .notFound

end FileTree

end TextScan
