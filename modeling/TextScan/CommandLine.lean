import TextScan.Config
import TextScan.Dump

/-! The arguments of the program. An option takes its value from the rest of its
own argument or from the next one; flags stand alone, everything else names a
file, and behind two dashes names of files are all there is.

What has been read of an option or of file names is kept pending until something
else begins. Only then it is found to be incomplete, or to have come before. -/

namespace TextScan

/-- Options that take a value. -/
inductive Setting where
  | logLevel | config | mode | start
deriving DecidableEq

inductive Flag where
  | showEnd | noOffsets | paths
deriving DecidableEq

inductive UsageError where
  | unknownArgument
  /-- An option or a flag stands there twice. -/
  | argumentConflict
  /-- An option without a value, or a file without a name. -/
  | invalidValue
  /-- A flag with a value. -/
  | tooManyValues
  | displayHelp
  | displayVersion
deriving DecidableEq

def UsageError.message : UsageError → String
  | unknownArgument => "there is no such option"
  | argumentConflict => "an option is given twice"
  | invalidValue => "a value is missing"
  | tooManyValues => "a flag takes no value"
  | displayHelp => "help is asked for"
  | displayVersion => "the version is asked for"

structure Arguments where
  files : List String
  values : List (Setting × String)
  flags : List Flag

namespace Arguments

def value? (a : Arguments) (s : Setting) : Option String := a.values.lookup s

def has (a : Arguments) (f : Flag) : Bool := a.flags.contains f

def logLevel (a : Arguments) : String := (a.value? .logLevel).getD "warn"

def readsInput (a : Arguments) : Bool := a.files.isEmpty

/-- What has been read but not been taken into account. -/
inductive Pending where
  | nothing
  | value (s : Setting) (v : Option String)
  | names (names : List String)

structure Reading where
  arguments : Arguments
  pending : Pending

namespace Reading

def begin : Reading := ⟨⟨[], [], []⟩, .nothing⟩

def addValue (r : Arguments) (s : Setting) (v : String) : Except UsageError Arguments :=
  if (r.value? s).isSome then .error .argumentConflict
  else .ok { r with values := r.values ++ [(s, v)] }

/-- Takes into account what is pending. -/
def settle (r : Reading) : Except UsageError Arguments :=
  match r.pending with
  | .nothing => .ok r.arguments
  | .value _ none => .error .invalidValue
  | .value s (some v) => addValue r.arguments s v
  | .names names =>
    if names.contains "" then .error .invalidValue
    else .ok { r.arguments with files := r.arguments.files ++ names }

/-- An option whose value comes next. -/
def openOption (r : Reading) (s : Setting) : Except UsageError Reading := do
  return ⟨← r.settle, .value s none⟩

/-- An option together with its value. -/
def option (r : Reading) (s : Setting) (v : String) : Except UsageError Reading := do
  return ⟨← addValue (← r.settle) s v, .nothing⟩

def flag (r : Reading) (f : Flag) : Except UsageError Reading := do
  let a ← r.settle
  if a.has f then .error .argumentConflict
  else return ⟨{ a with flags := a.flags ++ [f] }, .nothing⟩

/-- Ends the reading with something to display. -/
def display (r : Reading) (e : UsageError) : Except UsageError Reading := do
  let _ ← r.settle
  .error e

def name (r : Reading) (s : String) : Except UsageError Reading :=
  match r.pending with
  | .names names => .ok ⟨r.arguments, .names (names ++ [s])⟩
  | _ => do return ⟨← r.settle, .names [s]⟩

/-- An argument without dashes in front: the value that an option waits for, or
else a name. -/
def plain (r : Reading) (s : String) : Except UsageError Reading :=
  match r.pending with
  | .value setting none => .ok { r with pending := .value setting (some s) }
  | _ => r.name s

def settingOfLetter? : Char → Option Setting
  | 'l' => some .logLevel
  | 'c' => some .config
  | 'm' => some .mode
  | _ => none

def settingOfWord? : String → Option Setting
  | "loglevel" => some .logLevel
  | "config" => some .config
  | "mode" => some .mode
  | "start" => some .start
  | _ => none

/-- What a word without a value does. -/
def actionOfWord? : String → Option (Reading → Except UsageError Reading)
  | "show-eof" => some (·.flag .showEnd)
  | "no-offsets" => some (·.flag .noOffsets)
  | "paths" => some (·.flag .paths)
  | "help" => some (·.display .displayHelp)
  | "version" => some (·.display .displayVersion)
  | _ => none

/-- An argument behind one dash. An equals sign before the value is left out. -/
def letters (r : Reading) : List Char → Except UsageError Reading
  | [] => .ok r
  | 'h' :: _ => r.display .displayHelp
  | 'V' :: _ => r.display .displayVersion
  | c :: rest =>
    match settingOfLetter? c, rest with
    | none, _ => .error .unknownArgument
    | some s, [] => r.openOption s
    | some s, '=' :: v => r.option s (String.ofList v)
    | some s, v => r.option s (String.ofList v)

/-- An argument behind two dashes, with what follows its first equals sign. -/
def word (r : Reading) (cs : List Char) : Except UsageError Reading :=
  let name := String.ofList (cs.takeWhile (· ≠ '='))
  let value? := match cs.dropWhile (· ≠ '=') with
    | _ :: v => some (String.ofList v)
    | [] => none
  match settingOfWord? name, actionOfWord? name, value? with
  | some s, _, some v => r.option s v
  | some s, _, none => r.openOption s
  | none, some _, some _ => .error .tooManyValues
  | none, some act, none => act r
  | none, none, _ => .error .unknownArgument

def argument (r : Reading) (s : String) : Except UsageError Reading :=
  match s.toList with
  | '-' :: '-' :: cs => r.word cs
  | '-' :: c :: cs => r.letters (c :: cs)
  | _ => r.plain s

def run (r : Reading) : List String → Except UsageError Arguments
  | [] => r.settle
  | "--" :: names => do (← names.foldlM name r).settle
  | s :: rest => do (← r.argument s).run rest

end Reading

/-- Reads the arguments behind the name of the program. -/
def parse (args : List String) : Except UsageError Arguments := Reading.begin.run args

end Arguments

/-- What stands on the command line goes before what the configuration says. The
start is looked at first. -/
def Arguments.dumpOptions (a : Arguments) (config : Config) : Except Error Dump.Options := do
  let start ← match a.value? .start with
    | some s => (Position.parse s.toList).mapError .position
    | none => config.startPosition
  let mode ← match a.value? .mode with
    | some s => (Mode.parse s.toList).mapError fun name => .config (.unknownMode name)
    | none => .ok config.mode
  return {
    mode
    showEnd := a.has .showEnd || config.showEnd
    offsets := config.offsets && !a.has .noOffsets
    start }

end TextScan
