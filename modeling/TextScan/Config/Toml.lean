import TextScan.Config
import TextScan.Toml.Quoted
import TextScan.Toml.Reader

/-! Configurations as TOML documents. Two sections hold the settings, each of
which may be left out; other keys do not matter. An array may stand for a
section, with the settings in their order. -/

namespace TextScan.Config

open Toml (Value Entries)

/-- The settings of a section by their names. -/
def settings? (names : List String) : Value → Option (List (Option Value))
  | .table _ entries => some (names.map fun name => entries.lookup name)
  | .array items => some (positional items)
  | .tables items => some (positional (items.map (.table .header)))
  | .dateTime _ => some (names.map fun _ => none)
  | _ => none
where
  positional (items : List Value) : List (Option Value) :=
    (List.range names.length).map fun i => items[i]?

/-- A setting, or its default if it is left out. -/
def setting? {α : Type} (read : Value → Option α) (default : α) : Option Value → Option α
  | none => some default
  | some v => read v

def isEmptyValue : Value → Bool
  | .array items => items.isEmpty
  | .table _ entries => entries.isEmpty
  | _ => false

/-- A mode by its name, or as the only key of a table, with nothing under it. -/
def modeOf? : Value → Option Mode
  | .string name => Mode.ofName? name
  | .table _ [(name, v)] => if isEmptyValue v then Mode.ofName? name else none
  | _ => none

def flagOf? : Value → Option Bool
  | .boolean b => some b
  | _ => none

def stringOf? : Value → Option String
  | .string s => some s
  | _ => none

/-- A section of the document, with nothing in it if it is left out. -/
def section? (name : String) (names : List String) (root : Entries) :
    Option (List (Option Value)) :=
  match root.lookup name with
  | none => some (names.map fun _ => none)
  | some v => settings? names v

def ofEntries? (root : Entries) : Option Config := do
  let standard : Config := {}
  match ← section? "output" ["Mode", "ShowEof", "Offsets"] root,
      ← section? "scan" ["Start"] root with
  | [mode, showEnd, offsets], [start] =>
    return {
      mode := ← setting? modeOf? standard.mode mode
      showEnd := ← setting? flagOf? standard.showEnd showEnd
      offsets := ← setting? flagOf? standard.offsets offsets
      start := ← setting? stringOf? standard.start start }
  | _, _ => none

def ofToml? (document : String) : Option Config := do ofEntries? (← Toml.read? document)

def flagName (b : Bool) : String := if b then "true" else "false"

/-- The document of a configuration, with all settings. -/
def toToml (c : Config) : String :=
  "[output]\nMode = \"" ++ c.mode.name ++ "\"\nShowEof = " ++ flagName c.showEnd ++
    "\nOffsets = " ++ flagName c.offsets ++ "\n\n[scan]\nStart = " ++
    String.ofList (Toml.writeText c.start.toList) ++ "\n"

/-- The document that a new configuration file holds. -/
def standardToml : String :=
  "[output]\nMode    = \"spans\"\nShowEof = false\nOffsets = true\n\n[scan]\nStart   = \"0:1:1\"\n"

end TextScan.Config
