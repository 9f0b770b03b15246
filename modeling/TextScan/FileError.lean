/-! Why a file cannot be read or written. -/

namespace TextScan

inductive FileError where
  | notFound
  | alreadyExists
  | notDirectory
  | isDirectory
  | nameTooLong
  /-- A null character in a name. -/
  | nullInName
  /-- The bytes are no valid UTF-8. -/
  | notText
  /-- Anything else, in the words of the system. -/
  | other (message : String)
deriving DecidableEq

def FileError.message : FileError → String
  | notFound => "No such file or directory (os error 2)"
  | alreadyExists => "File exists (os error 17)"
  | notDirectory => "Not a directory (os error 20)"
  | isDirectory => "Is a directory (os error 21)"
  | nameTooLong => "File name too long (os error 36)"
  | nullInName => "file name contained an unexpected NUL byte"
  | notText => "stream did not contain valid UTF-8"
  | other message => message

/-- Whether a file that cannot be reached for this reason counts as not there. -/
def FileError.isAbsence : FileError → Bool
  | notFound | notDirectory | nameTooLong | nullInName => true
  | _ => false

end TextScan
