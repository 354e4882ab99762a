import Piste.Firmware.Flags
import Piste.Report

/-!
# Commands of a firmware build

The commands that embed a certificate, print compiler flags, and make a package.
-/

namespace Piste

open Firmware Text

namespace Firmware

variable {m : Type → Type} [Monad m] [Host m]

/-- The source for the certificate at `input`, from what reading it gave. -/
def sourceOfInput (input name : String) (style : CertificateStyle) :
    Except Host.IoError (List UInt8) → Except CertificateError String
  | .error e => .error (if e = .noEntry then .inputNotFound input else .unreadable input e)
  | .ok content => certificateSource content name style

/-- Reads the certificate at `input` and writes the source for it to `output`. -/
def embedCertificate (input output name : String) (style : CertificateStyle) :
    m (Except CertificateError Unit) := do
  match sourceOfInput input name style (← Host.readFile input) with
  | .error e => return .error e
  | .ok source =>
    return (← Host.writeFile output (Utf8.encode source)).mapError (.unwritable output)

end Firmware

namespace Command

variable {m : Type → Type} [Monad m] [Host m]

/-- Prints a line. -/
def printLine (line : String) : m Unit :=
  Host.print (line ++ "\n")

/-- Where a certificate is read from by default. -/
def defaultInput : String := "certs/ca_cert.pem"

/-- Where the source for a certificate is written to by default. -/
def defaultOutput : String := "src/ca_cert.c"

/-- The variable that holds a certificate by default. -/
def defaultVariable : String := "ca_cert_pem"

/-- Writes C source that holds a certificate. -/
def embedCertificate (input output name : String) (style : CertificateStyle) :
    m (Except CommandError Unit) := do
  let home ← Host.home
  let embedded ← Firmware.embedCertificate (Host.Path.expandHome home input)
    (Host.Path.expandHome home output) name style
  match embedded with
  | .error e => return .error (.certificate e)
  | .ok () =>
    printLine ("Certificate embedded in " ++ output ++ " successfully.")
    return .ok ()

/-- Prints the C++ flags to add for the frameworks of a build. -/
def flags (frameworks : List String) : m (Except CommandError Unit) := do
  printLine (" ".intercalate (extraCxxFlags frameworks))
  return .ok ()

/-- Prints that a file has been written. -/
def printDone (what path : String) : m Unit :=
  printLine (renderSpans [Style.green.span "ok:", " " ++ what ++ " " ++ path])

/-- Makes a package of the firmware of a project, under a new stamp. -/
def packageFirmware (project environment : String) (tool : Esptool) :
    m (Except CommandError Unit) := do
  let paths := BuildPaths.forProject (Host.Path.expandHome (← Host.home) project) environment
  let stamp ← Host.newStamp
  printLine ("Stamp:       " ++ stamp)
  printLine ("App binary:  " ++ paths.application)
  printLine ("Bootloader:  " ++ paths.bootloader)
  printLine ("Partition:   " ++ paths.partitionTable)
  match ← makePackage paths tool stamp with
  | .error e => return .error (.package e)
  | .ok package =>
    printDone "OTA firmware copied to" package.copy
    printDone "merged firmware created at" package.merged
    return .ok ()

end Command

end Piste
