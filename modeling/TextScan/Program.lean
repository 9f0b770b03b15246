import TextScan.CommandLine
import TextScan.Config.Files
import TextScan.LogLevel

/-! The whole program, from its arguments to what it writes. -/

namespace TextScan

/-- What the program finds around it. -/
structure Environment where
  /-- The directory of the configuration file. -/
  settings : Option String
  read : ReadFile
  input : ByteArray

/-- What has been written, to either end. -/
structure Output where
  stdout : String
  stderr : String

namespace Output

def append (a b : Output) : Output := ⟨a.stdout ++ b.stdout, a.stderr ++ b.stderr⟩

instance : Append Output := ⟨append⟩

def none : Output := ⟨"", ""⟩

def told (s : String) : Output := ⟨s, ""⟩

@[simp] theorem append_stdout (a b : Output) : (a ++ b).stdout = a.stdout ++ b.stdout := rfl

@[simp] theorem append_stderr (a b : Output) : (a ++ b).stderr = a.stderr ++ b.stderr := rfl

@[simp] theorem none_stdout : none.stdout = "" := rfl

@[simp] theorem told_stdout (s : String) : (told s).stdout = s := rfl

end Output

/-- An exit code with all that has been written before. -/
structure Outcome where
  code : Nat
  output : Output

namespace Program

def programName : String := "rscan"

def version : String := "0.1.0"

/-- A line of the log, if `limit` lets it through. -/
def log (limit level : LogLevel) (message : String) : Output :=
  if level.rank ≤ limit.rank then ⟨"", level.line programName message⟩ else .none

@[simp] theorem log_stdout (limit level : LogLevel) (message : String) :
    (log limit level message).stdout = "" := by
  unfold log
  split
  · rfl
  · rfl

/-- No limit keeps an error from being told. -/
@[simp] theorem log_error_stderr (limit : LogLevel) (message : String) :
    (log limit .error message).stderr = LogLevel.error.line programName message := by
  cases limit <;> rfl

/-- The configuration to start from, and what is logged about it: one that cannot
be loaded is as good as none. -/
def baseConfig (env : Environment) (limit : LogLevel) : Config × Output :=
  match Config.load env.read env.settings with
  | .ok c => (c, .none)
  | .error e => ({}, log limit .error ("Failed to load config, using defaults: " ++ e.message))

/-- The options of the run, and what is logged until they are known. -/
def options (env : Environment) (limit : LogLevel) (a : Arguments) :
    Except Error Dump.Options × Output :=
  let (base, logged) := baseConfig env limit
  let merged : Except Error Config × Output :=
    match a.value? .config with
    | none => (.ok base, .none)
    | some text =>
      match Config.parseOverride env.read text with
      | .error e => (.error e, .none)
      | .ok other =>
        (.ok (base.merge other), log limit .debug ("Merged config override: " ++ text))
  match merged.1 >>= a.dumpOptions with
  | .error e => (.error e, logged ++ merged.2)
  | .ok o => (.ok o, logged ++ merged.2 ++ log limit .debug ("Dump options: " ++ o.describe))

/-- The dump of a file, under a header if it is one of many. -/
def block (options : Dump.Options) (many : Bool) (path text : String) : String :=
  (if many then "==> " ++ path ++ " <==\n" else "") ++
    Dump.render Quote.isShown options (.ofString text)

/-- Dumps the files up to the first one that cannot be read. -/
def dumpFiles (env : Environment) (limit : LogLevel) (options : Dump.Options) (many : Bool) :
    List String → Except Error Unit × Output
  | [] => (.ok (), .none)
  | path :: rest =>
    let begun := log limit .info ("Processing file: " ++ path)
    match env.read.text path with
    | .error e => (.error e, begun)
    | .ok text =>
      let read := log limit .debug s!"Read {text.utf8ByteSize} bytes"
      let (result, later) := dumpFiles env limit options many rest
      (result, begun ++ read ++ .told (block options many path text) ++ later)

def dumpInput (env : Environment) (limit : LogLevel) (options : Dump.Options) :
    Except Error Unit × Output :=
  let begun := log limit .info "Reading from stdin"
  match ReadFile.decode env.input with
  | .error e => (.error (.file e), begun)
  | .ok text => (.ok (), begun ++ .told (Dump.render Quote.isShown options (.ofString text)))

/-- Everything behind the log's first line. -/
def work (env : Environment) (limit : LogLevel) (a : Arguments) : Except Error Unit × Output :=
  match options env limit a with
  | (.error e, logged) => (.error e, logged)
  | (.ok o, logged) =>
    let (result, output) :=
      if a.readsInput then dumpInput env limit o
      else dumpFiles env limit o (decide (1 < a.files.length)) a.files
    (result, logged ++ output)

def paths (env : Environment) : String :=
  let path := match env.settings with
    | some d => Config.pathIn d
    | none => "(not found)"
  "paths:\n  config                " ++ path ++ "\n"

/-- How the program is called. The wording of this and of the help is free: both only say in
this project's own words which options there are, and nothing else depends on them. -/
def usage : String := "Usage: " ++ programName ++ " [OPTIONS] [FILE]...\n"

def help : String :=
  "Dump characters, positions and logical lines of a text\n\n" ++ usage ++
  "\nOptions:\n" ++
  "  -l, --loglevel LEVEL  trace, debug, info, warn or error [default: warn]\n" ++
  "  -c, --config CONFIG   a configuration, or a file that holds one\n" ++
  "  -m, --mode MODE       spans, lines or chars\n" ++
  "      --show-eof        show the end of input among spans\n" ++
  "      --no-offsets      show lines and columns without offsets\n" ++
  "      --start START     where to start, as offset:line:column\n" ++
  "      --paths           show the path of the configuration file\n" ++
  "  -h, --help            show this help\n" ++
  "  -V, --version         show the version\n"

/-- Runs with arguments that could be read. -/
def runWith (env : Environment) (a : Arguments) : Outcome :=
  if a.has .paths then ⟨0, .told (paths env)⟩
  else
    let limit := LogLevel.ofText a.logLevel
    let (result, output) := work env limit a
    let output := log limit .info (programName ++ " v" ++ version) ++ output
    match result with
    | .ok () => ⟨0, output⟩
    | .error e => ⟨1, output ++ log limit .error ("Error: " ++ e.message)⟩

def run (env : Environment) (args : List String) : Outcome :=
  match Arguments.parse args with
  | .ok a => runWith env a
  | .error .displayVersion => ⟨0, .told (programName ++ " " ++ version ++ "\n")⟩
  | .error .displayHelp => ⟨0, .told help⟩
  | .error e => ⟨2, ⟨"", "error: " ++ e.message ++ "\n\n" ++ usage⟩⟩

/-- The paths that a run may read. -/
def reads (settings : Option String) (args : List String) : List String :=
  match Arguments.parse args with
  | .ok a => (settings.map Config.pathIn).toList ++ (a.value? .config).toList ++ a.files
  | .error _ => []

/-- Whether a run reads its standard input. -/
def readsInput (args : List String) : Bool :=
  match Arguments.parse args with
  | .ok a => a.readsInput && !a.has .paths
  | .error _ => false

end Program

end TextScan
