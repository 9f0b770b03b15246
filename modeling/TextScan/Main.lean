import TextScan.Program

/-! The command line program: it reads what a run may need, and writes what the
run answers. -/

namespace TextScan

/-- A cause by its number, which some calls give with a minus sign. -/
def FileError.ofNumber? (code : UInt32) : Option FileError :=
  match min code.toNat (-code).toNat with
  | 20 => some .notDirectory
  | 21 => some .isDirectory
  | 36 => some .nameTooLong
  | _ => none

def FileError.ofSystem (e : IO.Error) : FileError :=
  match e with
  | .noFileOrDirectory _ _ _ => .notFound
  | .inappropriateType _ code _ | .invalidArgument _ code _ =>
    (ofNumber? code).getD (.other (toString e))
  | _ => .other (toString e)

def readPath (path : String) : IO (Except FileError ByteArray) := do
  try
    return .ok (← IO.FS.readBinFile path)
  catch e =>
    return .error (.ofSystem e)

partial def readStream (input : IO.FS.Stream) (acc : ByteArray) : IO ByteArray := do
  let part ← input.read 65536
  if part.isEmpty then return acc else readStream input (acc ++ part)

/-- The directory of the configuration file, by the customs of the desktop. -/
def settingsDirectory : IO (Option String) := do
  let inHome := (← IO.getEnv "HOME").filter (· ≠ "") |>.map (· ++ "/.config")
  let chosen := (← IO.getEnv "XDG_CONFIG_HOME").filter fun d => d.toList.head? = some '/'
  return (chosen.or inHome).map (· ++ "/runescan")

end TextScan

open TextScan

def main (args : List String) : IO UInt32 := do
  let settings ← settingsDirectory
  let contents ← (Program.reads settings args).mapM fun path => do
    return (path, ← readPath path)
  let input ← if Program.readsInput args then readStream (← IO.getStdin) .empty else pure .empty
  let read : ReadFile := fun path => (contents.lookup path).getD (.error .notFound)
  let outcome := Program.run ⟨settings, read, input⟩ args
  (← IO.getStderr).putStr outcome.output.stderr
  (← IO.getStdout).putStr outcome.output.stdout
  return outcome.code.toUInt32
