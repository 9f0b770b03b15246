import TextScan.FileError
import TextScan.Position.Parse

/-! What can go wrong around a scan, which never fails itself, and the words in
which it is told. -/

namespace TextScan

inductive ConfigError where
  /-- No mode has this name, which is in lower case. -/
  | unknownMode (name : List Char)
  | badStart (cause : Position.ParseError)
  /-- An override is no configuration. -/
  | badOverride
  /-- The file at this path holds no configuration. -/
  | badFile (path : String)
  /-- There is no place to look for a configuration in. -/
  | noDirectory
deriving DecidableEq

inductive Error where
  | file (cause : FileError)
  | config (cause : ConfigError)
  | position (cause : Position.ParseError)
deriving DecidableEq

def positionMessage (cause : Position.ParseError) : String :=
  "Invalid position: " ++ cause.message

def ConfigError.message : ConfigError → String
  | unknownMode name =>
    "unknown output mode " ++ String.ofList (Quote.string Quote.isShown name)
  | badStart cause => "Start: " ++ positionMessage cause
  | badOverride => "Override parse error"
  | badFile path => "Parse error in " ++ path
  | noDirectory => "Could not determine config directory"

def Error.message : Error → String
  | file cause => "IO error: " ++ cause.message
  | config cause => "Configuration error: " ++ cause.message
  | position cause => positionMessage cause

end TextScan
