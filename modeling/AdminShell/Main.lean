import AdminShell.Cli.Run
import AdminShell.Batch.Stamp
import Std.Time

/-! # The validator program

Runs the command line over the file system of the process: the environment comes from the
process's environment block, paths are read from the working directory, and reports are
stamped with the current time. What the run gives back is written to standard output and
standard error, and its status is the exit code.
-/

open AdminShell AdminShell.Files System

/-- The failure an operation on the file system reports, by its system error number. -/
def ioErrorOf : IO.Error → IoError
  | .alreadyExists _ c _ | .otherError c _ | .resourceBusy c _ | .resourceVanished c _
  | .unsupportedOperation c _ | .hardwareFault c _ | .unsatisfiedConstraints c _
  | .illegalOperation c _ | .protocolError c _ | .timeExpired c _ | .interrupted _ c _
  | .noFileOrDirectory _ c _ | .invalidArgument _ c _ | .permissionDenied _ c _
  | .resourceExhausted _ c _ | .inappropriateType _ c _ | .noSuchThing _ c _ => .os c.toNat
  | .unexpectedEof | .userError _ => .os 5

instance : FileSystem IO where
  kindAt p := do
    try
      let md ← FilePath.metadata ⟨p⟩
      pure (.ok (match md.type with
        | .dir => EntryKind.directory
        | .file => EntryKind.file
        | _ => EntryKind.other))
    catch e => pure (.error (ioErrorOf e))
  readText p := do
    try
      let bytes ← IO.FS.readBinFile ⟨p⟩
      match String.fromUTF8? bytes with
      | some text => pure (.ok text)
      | none => pure (.error .invalidText)
    catch e => pure (.error (ioErrorOf e))
  list p := do
    try
      let entries ← FilePath.readDir ⟨p⟩
      pure (.ok (entries.toList.map (·.fileName)))
    catch e => pure (.error (ioErrorOf e))
  write p text := do
    try
      IO.FS.writeFile ⟨p⟩ text
      pure (.ok ())
    catch e => pure (.error (ioErrorOf e))

def environmentBlock : IO String := do
  try
    let bytes ← IO.FS.readBinFile ⟨"/proc/self/environ"⟩
    pure ((String.fromUTF8? bytes).getD "")
  catch _ => pure ""

def main (args : List String) : IO UInt32 := do
  let block ← environmentBlock
  let cwd ← IO.currentDir
  let stamp ← Std.Time.Timestamp.now
  let ctx : Cli.RunContext := {
    surroundings := { vars := variablesOfBlock block, workingDirectory := cwd.toString }
    now := Batch.utcStamp stamp.toNanosecondsSinceUnixEpoch.val
    depthLimit := 4096 }
  let outcome ← Cli.run ctx args
  IO.print outcome.stdout
  IO.eprint outcome.stderr
  pure outcome.status.toUInt32
