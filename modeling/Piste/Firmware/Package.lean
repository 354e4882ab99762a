import Piste.Host.Basic
import Piste.Text.Blank
import Piste.Text.Utf8

/-!
# Firmware packages

After a build the application image is copied to the output directory, under a name with a stamp,
and `esptool.py` merges bootloader, partition table and application into one image that can be
flashed at offset 0. Nothing is written unless all three inputs exist.
-/

namespace Piste.Firmware

/-- Where the images of one build environment are, and where packages go. -/
structure BuildPaths where
  application : String
  bootloader : String
  partitionTable : String
  outputDirectory : String
  deriving DecidableEq, Repr

namespace BuildPaths

open Host

/-- The directory of packages within a project. -/
def packageDirectory : String := "OTAbuilds"

/-- The paths of a build environment of a PlatformIO project. -/
def forProject (project environment : String) : BuildPaths where
  application :=
    Path.join (Path.join (Path.join (Path.join project ".pio") "build") environment) "firmware.bin"
  bootloader := Path.join (Path.join project "bootloader") "bootloader.bin"
  partitionTable := Path.join (Path.join project "partition_table") "partition-table.bin"
  outputDirectory := Path.join project packageDirectory

/-- The images that a package is made of. -/
def inputs (paths : BuildPaths) : List String :=
  [paths.application, paths.bootloader, paths.partitionTable]

/-- The copy of the application image for a stamp. -/
def copy (paths : BuildPaths) (stamp : String) : String :=
  Path.join paths.outputDirectory ("firmware_" ++ stamp ++ ".bin")

/-- The merged image for a stamp. -/
def merged (paths : BuildPaths) (stamp : String) : String :=
  Path.join paths.outputDirectory ("merged_firmware_" ++ stamp ++ ".bin")

end BuildPaths

/-- How `esptool.py` is called. -/
structure Esptool where
  program : String
  chip : String
  deriving DecidableEq, Repr

namespace Esptool

/-- The name under which `esptool.py` is installed. -/
def defaultProgram : String := "esptool.py"

/-- The chip that firmware is built for. -/
def defaultChip : String := "esp32"

/-- The arguments that merge the images of a build into one file, each at its offset. -/
def mergeArguments (tool : Esptool) (paths : BuildPaths) (merged : String) : List String :=
  ["--chip", tool.chip, "merge_bin", "-o", merged, "0x1000", paths.bootloader, "0x8000",
    paths.partitionTable, "0x10000", paths.application]

end Esptool

/-- Why no package is made. -/
inductive PackageError where
  | missingInputs (paths : List String)
  | createDirectory (path : String) (error : Host.IoError)
  | copy (source target : String) (error : Host.IoError)
  | start (program : String) (error : Host.IoError)
  /-- The program has failed; its error output is that without the blanks at its ends. -/
  | failed (program errorOutput : String)
  deriving DecidableEq, Repr

/-- The cause in one line. -/
def PackageError.message : PackageError → String
  | missingInputs paths => "required binaries not found: " ++ ", ".intercalate paths
  | createDirectory path error => "failed to create " ++ path ++ ": " ++ error.message
  | copy source target error =>
    "failed to copy " ++ source ++ " to " ++ target ++ ": " ++ error.message
  | start program error => "failed to execute " ++ program ++ ": " ++ error.message
  | failed program errorOutput => program ++ " failed: " ++ errorOutput

/-- The files of a package. -/
structure Package where
  copy : String
  merged : String
  deriving DecidableEq, Repr

variable {m : Type → Type} [Monad m] [Host m]

/-- The paths that do not exist. -/
def missing : List String → m (List String)
  | [] => pure []
  | path :: rest => do
    let found ← Host.pathExists path
    let others ← missing rest
    pure (if found then others else path :: others)

/-- How the run of the tool that merges the images ended. -/
def Package.ofExit (package : Package) (program : String) :
    Except Host.IoError Exit → Except PackageError Package
  | .error e => .error (.start program e)
  | .ok exit =>
    if exit.success then .ok package
    else .error (.failed program
      (String.ofList (Text.trim (Text.Utf8.decodeLossy exit.errorOutput))))

/-- Makes a package under the given stamp. -/
def makePackage (paths : BuildPaths) (tool : Esptool) (stamp : String) :
    m (Except PackageError Package) := do
  match ← missing paths.inputs with
  | path :: more => return .error (.missingInputs (path :: more))
  | [] =>
    match ← Host.createDirectories paths.outputDirectory with
    | .error e => return .error (.createDirectory paths.outputDirectory e)
    | .ok () =>
      let package : Package := { copy := paths.copy stamp, merged := paths.merged stamp }
      match ← Host.copyFile paths.application package.copy with
      | .error e => return .error (.copy paths.application package.copy e)
      | .ok () =>
        return package.ofExit tool.program
          (← Host.run tool.program (tool.mergeArguments paths package.merged))

end Piste.Firmware
