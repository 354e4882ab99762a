import Piste.Host.Machine
import Piste.Shell.Run

/-!
# Installed programs

How a program is found and run on a modelled machine: as a file that may be executed, which is a
script for another program, or as one that is installed everywhere. Packaging calls a program by a
path that the user gives, so that a script may stand in for the tool that merges images.
-/

namespace Piste.Host

namespace Installed

/-- The directories of installed programs. -/
def directories : List String := ["/bin", "/usr/bin"]

/-- The shells. -/
def shells : List String := ["sh", "dash", "bash"]

/-- The programs that take any arguments. -/
def indifferent : List String := ["true", "false", "echo", "printf"]

/-- The programs that refuse options they do not know, with the statuses other than one. -/
def particular : List String :=
  ["base64", "cat", "chmod", "chown", "cksum", "comm", "cp", "cut", "date", "dd", "df", "du", "env",
    "expand", "find", "fold", "head", "id", "install", "join", "ln", "ls", "md5sum", "mkdir",
    "mktemp", "mv", "nl", "od", "paste", "readlink", "realpath", "rm", "rmdir", "seq", "sha1sum",
    "sha256sum", "shuf", "sleep", "sort", "split", "stat", "sync", "tac", "tail", "tee", "touch",
    "tr", "truncate", "tsort", "uname", "uniq", "wc", "whoami", "yes"]

/-- The name of an installed program that is called by its name or its path. -/
def named? (program : String) : Option String :=
  let known := shells ++ indifferent ++ particular
  if program.toList.contains '/' then
    known.find? fun name => directories.any fun directory => Path.join directory name = program
  else known.find? (· = program)

/-- The first argument that is an option in full. -/
def longOption? (arguments : List String) : Option String :=
  arguments.find? (·.startsWith "--")

/-- The first line of a file that names another program for it: that program, and its option. -/
def interpreter? (content : List UInt8) : Option (String × Option String) :=
  match content with
  | 0x23 :: 0x21 :: rest =>
    let line := Text.Utf8.decodeLossy (rest.takeWhile (· ≠ 10))
    let isBlank := fun c => c = ' ' || c = '\t'
    let line := (line.dropWhile isBlank).reverse.dropWhile isBlank |>.reverse
    let option := (line.dropWhile (!isBlank ·)).dropWhile isBlank
    if line.isEmpty then none
    else some (String.ofList (line.takeWhile (!isBlank ·)),
      if option.isEmpty then none else some (String.ofList option))
  | _ => none

/-- A program that ends without a word. -/
def silent (success : Bool) : Exit := { success, errorOutput := [] }

/-- A program that fails. -/
def failing (text : String) : Exit :=
  { success := false, errorOutput := Text.Utf8.encode (text ++ "\n") }

/-- Runs a shell: with options and then a script. -/
def runShell (environment : Table String String) (tree : FileTree) (directory : Location)
    (program : String) (arguments : List String) : Exit × FileTree :=
  let options := arguments.takeWhile (·.startsWith "-")
  match options.find? (·.startsWith "--"), arguments.drop options.length with
  | some _, _ => (failing (program ++ ": 0: Illegal option --"), tree)
  | none, [] => (silent true, tree)
  | none, script :: rest =>
    match tree.read directory script with
    | .ok content =>
      Shell.runScript environment tree directory options script
        (String.ofList (Text.Utf8.decodeLossy content)) rest
    | .error _ => (failing s!"{program}: 0: cannot open {script}: No such file", tree)

/-- Runs an installed program. -/
def runNamed (environment : Table String String) (tree : FileTree) (directory : Location)
    (name program : String) (arguments : List String) : Exit × FileTree :=
  if shells.contains name then runShell environment tree directory program arguments
  else if name = "env" && (arguments.head?.bind named?).any shells.contains then
    runShell environment tree directory (arguments.head?.getD "") (arguments.drop 1)
  else if indifferent.contains name then (silent (name ≠ "false"), tree)
  else match longOption? arguments with
    | some option =>
      (failing (Shell.Place.unknownOption program option), tree)
    | none => (silent true, tree)

/-- Runs a program with a slash in its name. A script is run by the program that its first line
names. -/
def runPath (environment : Table String String) (tree : FileTree) (directory : Location)
    (program : String) (arguments : List String) : Except IoError Exit × FileTree :=
  let ran (name program : String) (arguments : List String) :=
    let (exit, tree) := runNamed environment tree directory name program arguments
    ((.ok exit, tree) : Except IoError Exit × FileTree)
  match named? program, tree.find directory program with
  | some name, .error _ => ran name program arguments
  | none, .error e => (.error e, tree)
  | _, .ok (_, .file content executable) =>
    if !executable then (.error .denied, tree)
    else match interpreter? content with
      | none => (.error .noExecutable, tree)
      | some (interpreter, option) =>
        match named? interpreter, tree.find directory interpreter with
        | some name, _ => ran name interpreter (option.toList ++ program :: arguments)
        | none, .error e => (.error e, tree)
        | none, .ok _ => (.error .denied, tree)
  | _, .ok _ => (.error .denied, tree)

/-- The external programs of a machine. A program without a slash in its name is looked for where
programs are installed, where the names of directories are those of no programs. Scripts start with
the variables of the environment. -/
def programs (environment : Table String String) : Programs :=
  fun tree directory program arguments =>
  if (program :: arguments).any (·.toList.contains '\x00') then
    (.error (.other "nul byte found in provided data"), tree)
  else if program.toList.contains '/' then runPath environment tree directory program arguments
  else if program = "." || program = ".." then (.error .denied, tree)
  else if FileTree.maxNameSize < program.utf8ByteSize then (.error .tooLong, tree)
  else match named? program with
    | some name =>
      let (exit, tree) := runNamed environment tree directory name program arguments
      (.ok exit, tree)
    | none => (.error .noEntry, tree)

end Installed

end Piste.Host
