import TextScan.Config.Toml
import TextScan.Error
import TextScan.FileTree

/-! Configurations in files. Loading needs nothing but a way to read files by
their paths; only saving and making the standard file change a tree of files. -/

namespace TextScan

/-- The bytes at a path. -/
abbrev ReadFile := String → Except FileError ByteArray

namespace ReadFile

/-- Whether anything is there, even if it cannot be read. -/
def exists? (read : ReadFile) (path : String) : Bool :=
  match read path with
  | .ok _ => true
  | .error e => !e.isAbsence

def decode (bytes : ByteArray) : Except FileError String :=
  match String.fromUTF8? bytes with
  | some s => .ok s
  | none => .error .notText

def text (read : ReadFile) (path : String) : Except Error String :=
  (read path >>= decode).mapError .file

end ReadFile

namespace Config

def fileName : String := "config.toml"

/-- The path of the configuration file in its directory. -/
def pathIn (directory : String) : String := directory ++ "/" ++ fileName

def loadFrom (read : ReadFile) (path : String) : Except Error Config := do
  match ofToml? (← read.text path) with
  | some c => .ok c
  | none => .error (.config (.badFile path))

/-- The configuration of the file, or the standard one where there is no file. -/
def load (read : ReadFile) (directory : Option String) : Except Error Config :=
  match directory with
  | none => .ok {}
  | some d => if read.exists? (pathIn d) then loadFrom read (pathIn d) else .ok {}

/-- A configuration given by the path of a file or, where there is none, by a
document itself. -/
def parseOverride (read : ReadFile) (text : String) : Except Error Config := do
  let document ← if read.exists? text then read.text text else .ok text
  match ofToml? document with
  | some c => .ok c
  | none => .error (.config .badOverride)

/-- Loads, and puts an override on top if there is one. -/
def loadWithOverride (read : ReadFile) (directory text : Option String) :
    Except Error Config := do
  let config ← load read directory
  match text with
  | none => return config
  | some text => return config.merge (← parseOverride read text)

/-- Puts overrides on top one after the other. One that fails changes nothing. -/
def mergeAll (read : ReadFile) (c : Config) : List String → List (Except Error Config)
  | [] => []
  | text :: rest =>
    let result := (parseOverride read text).map c.merge
    result :: mergeAll read (result.toOption.getD c) rest

/-- Writes a configuration to a file. -/
def save (c : Config) (files : FileTree) (base : Location) (path : String) :
    Except Error FileTree :=
  (files.write base path c.toToml.toUTF8).mapError .file

/-- Makes the configuration file, with its directory, unless it is there already,
and gives its path. What has been made stays, also if the next step fails. -/
def ensureFile (files : FileTree) (base : Location) (directory : Option String) :
    Except Error String × FileTree :=
  match directory with
  | none => (.error (.config .noDirectory), files)
  | some d =>
    match files.makeDirectories base d with
    | (.error e, made) => (.error (.file e), made)
    | (.ok _, made) =>
      if made.exists? base (pathIn d) then (.ok (pathIn d), made)
      else
        match made.write base (pathIn d) standardToml.toUTF8 with
        | .error e => (.error (.file e), made)
        | .ok written => (.ok (pathIn d), written)

end Config

end TextScan
