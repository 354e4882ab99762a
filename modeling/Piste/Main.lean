import Piste.CommandLine
import Piste.Firmware.Stamp

/-!
# The program

Runs a command line on the real machine. External programs are not started from here; a command that
needs one reports so.
-/

namespace Piste.Main

/-- The number of an error of the operating system, which some operations report with a
minus sign. -/
def systemNumber (code : UInt32) : Int :=
  code.toInt32.toInt.natAbs

/-- The error of an operation on files. -/
def errorOf : IO.Error → Host.IoError
  | .alreadyExists _ number _ | .interrupted _ number _ | .noFileOrDirectory _ number _
  | .invalidArgument _ number _ | .permissionDenied _ number _ | .resourceExhausted _ number _
  | .inappropriateType _ number _ | .noSuchThing _ number _ | .otherError number _
  | .resourceBusy number _ | .resourceVanished number _ | .unsupportedOperation number _
  | .hardwareFault number _ | .unsatisfiedConstraints number _ | .illegalOperation number _
  | .protocolError number _ | .timeExpired number _ => .system (systemNumber number)
  | .unexpectedEof => .other "failed to fill whole buffer"
  | .userError text => .other text

/-- The result of an action, or its error. -/
def attempt {α : Type} (action : IO α) : IO (Except Host.IoError α) := do
  try
    return .ok (← action)
  catch e =>
    return .error (errorOf e)

/-- The time in milliseconds, as the file system has it. -/
def milliseconds : IO Nat := do
  let (_, path) ← IO.FS.createTempFile
  let time := (← path.metadata).modified
  IO.FS.removeFile path
  return time.sec.toNat * 1000 + time.nsec.toNat / 1000000

instance : Host IO where
  home := IO.getEnv "HOME"
  readFile path := attempt do return (← IO.FS.readBinFile path).toList
  writeFile path content := attempt (IO.FS.writeBinFile path (ByteArray.mk content.toArray))
  pathExists path := return (← attempt (IO.FS.realPath path)).toBool
  createDirectories path := attempt (IO.FS.createDirAll path)
  copyFile source target := attempt do
    IO.FS.writeBinFile target (← IO.FS.readBinFile source)
  run _ _ := return .error (.other "external programs cannot be started from here")
  print text := IO.print text
  newStamp := do
    let random := (← IO.getRandomBytes 10).toList.foldl (fun n byte => n * 256 + byte.toNat) 0
    return Firmware.Stamp.ofParts (← milliseconds) random

end Piste.Main

/-- Runs the command line and ends with its exit code. -/
def main (arguments : List String) : IO UInt32 := do
  let outcome ← Piste.CommandLine.execute (m := IO) arguments
  IO.eprint outcome.errorOutput
  return outcome.exitCode.toUInt32
