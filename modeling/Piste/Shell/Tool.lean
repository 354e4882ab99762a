import Piste.Shell.Condition
import Piste.Shell.Escape

/-!
# Tools

Programs that scripts call: those that are installed everywhere, as far as they look at nothing but
their arguments, their input and files.
-/

namespace Piste.Shell

open Host

/-- What a tool finds: a tree, its working directory, and its input. -/
structure Place where
  tree : FileTree
  directory : Location
  input : List UInt8

/-- What a tool does. Remarks are told by the shell, which puts the place in the script in front. -/
structure ToolResult where
  tree : FileTree
  output : List UInt8
  errors : List String
  remarks : List String
  status : Nat

namespace Place

/-- A tool that writes bytes. -/
def writes (place : Place) (bytes : List UInt8) : ToolResult :=
  { tree := place.tree, output := bytes, errors := [], remarks := [], status := 0 }

/-- A tool that does nothing but end with a status. -/
def ends (place : Place) (status : Nat) : ToolResult :=
  { place.writes [] with status }

/-- A tool that fails. -/
def fails (place : Place) (text : String) : ToolResult :=
  { place.writes [] with errors := [text], status := 1 }

/-- The text of an error, without its number. -/
def errorText : IoError → String
  | .system number => systemText number
  | .other text => text

/-- Does something for each of some operands. The results are taken together. -/
def forEach (place : Place) (step : Place → String → ToolResult) (operands : List String) :
    ToolResult :=
  operands.foldl (fun result operand =>
    let next := step { place with tree := result.tree } operand
    { tree := next.tree, output := result.output ++ next.output,
      errors := result.errors ++ next.errors, remarks := result.remarks ++ next.remarks,
      status := max result.status next.status }) (place.ends 0)

/-- A change of the tree, which may fail. -/
def changes (place : Place) (message : String) (tree : Except IoError FileTree) : ToolResult :=
  match tree with
  | .ok tree => { place.writes [] with tree }
  | .error e => place.fails (message ++ ": " ++ errorText e)

/-- Splits arguments into options and operands. -/
def splitOptions : List String → List String × List String
  | "--" :: rest => ([], rest)
  | argument :: rest =>
    if argument.startsWith "-" && argument.length > 1 then
      let (options, operands) := splitOptions rest
      (argument :: options, operands)
    else ([], argument :: rest)
  | [] => ([], [])

/-- Whether one of the options has a letter. -/
def hasLetter (options : List String) (letter : Char) : Bool :=
  options.any (·.toList.contains letter)

/-- The last name of a path. -/
def lastName (path : String) : String :=
  ((Path.components path).getLast?).getD "/"

/-- A path without its last name. -/
def parentOf (path : String) : String :=
  let names := (Path.components path).dropLast
  if Path.isAbsolute path then "/" ++ "/".intercalate names
  else if names.isEmpty then "." else "/".intercalate names

/-- The path of a file in a target that may be a directory. -/
def targetIn (place : Place) (source target : String) : String :=
  match place.tree.find place.directory target with
  | .ok (_, .directory) => Path.join target (lastName source)
  | _ => target

/-- The content of an operand. A minus sign stands for the input. -/
def content (place : Place) (operand : String) : Except IoError (List UInt8) :=
  if operand = "-" then .ok place.input else place.tree.read place.directory operand

/-- Writes the contents of files one after another. -/
def cat (place : Place) (operands : List String) : ToolResult :=
  place.forEach (fun place operand =>
    match place.content operand with
    | .ok bytes => place.writes bytes
    | .error e => place.fails s!"cat: {operand}: {errorText e}")
    (if operands.isEmpty then ["-"] else operands)

/-- Copies a file. A link that leads nowhere is not written through. -/
def copy (place : Place) (target source : String) : ToolResult :=
  let target := place.targetIn source target
  match place.tree.find place.directory source with
  | .error e => place.fails s!"cp: cannot stat '{source}': {errorText e}"
  | .ok (location, .file bytes executable) =>
    if place.tree.isLink place.directory target && !(place.tree.find place.directory target).toBool then
      place.fails s!"cp: not writing through dangling symlink '{target}'"
    else match place.tree.target place.directory target with
    | .error e => place.fails s!"cp: cannot create regular file '{target}': {errorText e}"
    | .ok (other, formerly) =>
      if other = location then place.fails s!"cp: '{source}' and '{target}' are the same file"
      else
        let executable := if (place.tree.at? other).isSome then formerly else executable
        { place.writes [] with tree := place.tree.put other (.file bytes executable) }
  | .ok _ => place.fails s!"cp: -r not specified; omitting directory '{source}'"

/-- Moves a file, or a link as it is. -/
def move (place : Place) (target source : String) : ToolResult :=
  let target := place.targetIn source target
  let free : Except IoError Location := do
    let other ← place.tree.locateLast place.directory target
    if Path.endsInSlash target || place.tree.at? other = some .directory then .error .isDirectory
    else .ok other
  match place.tree.findLast place.directory source, free with
  | .error e, _ => place.fails s!"mv: cannot stat '{source}': {errorText e}"
  | _, .error e => place.fails s!"mv: cannot move '{source}' to '{target}': {errorText e}"
  | .ok (location, entry), .ok other =>
    if other = location then
      place.fails s!"mv: '{source}' and '{target}' are the same file"
    else { place.writes [] with tree := (place.tree.remove location).put other entry }

/-- Makes a symbolic link that holds a path, in place of a file if `force` says so. -/
def link (force : Bool) (place : Place) (path held : String) : ToolResult :=
  let path := place.targetIn held path
  let tree := match force, place.tree.findLast place.directory path with
    | true, .ok (location, entry) =>
      if entry = Entry.directory then place.tree else place.tree.remove location
    | _, _ => place.tree
  place.changes s!"ln: failed to create symbolic link '{path}'"
    (tree.createLink place.directory path held)

/-- Does something with sources and a target. -/
def transfer (place : Place) (name : String) (step : Place → String → String → ToolResult)
    (operands : List String) : ToolResult :=
  let hint := s!"Try '{name} --help' for more information."
  match operands.getLast?, operands.dropLast with
  | none, _ => place.fails s!"{name}: missing file operand\n{hint}"
  | some only, [] => place.fails s!"{name}: missing destination file operand after '{only}'\n{hint}"
  | some target, sources => place.forEach (fun place source => step place target source) sources

/-- Creates a directory, with those above it if `all` says so. -/
def makeDirectory (all : Bool) (place : Place) (path : String) : ToolResult :=
  let above := (place.tree.find place.directory (parentOf path)).map fun _ => place.tree
  let free : Except IoError FileTree :=
    if (place.tree.find place.directory path).toBool then .error .alreadyExists else above
  let created := place.tree.createDirectories place.directory path
  place.changes s!"mkdir: cannot create directory '{path}'"
    (if all then created else free.bind fun _ => created)

/-- Creates a file that does not exist. -/
def touch (place : Place) (path : String) : ToolResult :=
  if (place.tree.find place.directory path).toBool then place.ends 0
  else place.changes s!"touch: cannot touch '{path}'"
    (place.tree.write place.directory path [])

/-- Removes a file or a link, or a directory if `all` says so. -/
def erase (all force : Bool) (place : Place) (path : String) : ToolResult :=
  match place.tree.findLast place.directory path with
  | .error e =>
    if force then place.ends 0 else place.fails s!"rm: cannot remove '{path}': {errorText e}"
  | .ok (location, entry) =>
    if entry = .directory && !all then
      place.fails s!"rm: cannot remove '{path}': Is a directory"
    else { place.writes [] with tree := place.tree.remove location }

/-- Lets a file be executed, or not. -/
def permit (executable : Bool) (place : Place) (path : String) : ToolResult :=
  match place.tree.find place.directory path with
  | .error e => place.fails s!"chmod: cannot access '{path}': {errorText e}"
  | .ok (location, .file bytes _) =>
    { place.writes [] with tree := place.tree.put location (.file bytes executable) }
  | .ok _ => place.ends 0

/-- Lists a file by its path. -/
def listFile (place : Place) (path : String) : ToolResult :=
  match place.tree.find place.directory path with
  | .error e => { place.fails s!"ls: cannot access '{path}': {errorText e}" with status := 2 }
  | .ok _ => place.writes (Text.Utf8.encode (path ++ "\n"))

/-- The names in a directory, line by line. -/
def listed (place : Place) (path : String) : List UInt8 :=
  match place.tree.locate place.directory path with
  | .error _ => []
  | .ok location => (place.tree.names location).flatMap fun name =>
      if name.startsWith "." then [] else Text.Utf8.encode (name ++ "\n")

/-- Lists files, and then the names in each directory, below its path if it is not alone. -/
def listNames (place : Place) (operands : List String) : ToolResult :=
  let isDirectory := fun path =>
    (place.tree.find place.directory path).toOption.any (·.2 = .directory)
  let (directories, files) := operands.partition isDirectory
  let result := place.forEach listFile files
  let blocks := directories.map fun path =>
    if operands.length = 1 then place.listed path
    else Text.Utf8.encode (path ++ ":\n") ++ place.listed path
  let blocks := if result.output.isEmpty then blocks else result.output :: blocks
  { result with output := [10].intercalate blocks }

/-- Bytes in lines, each with its line feed. -/
def byteLines (bytes : List UInt8) : List (List UInt8) :=
  (bytes.splitOn 10).dropLast.map (· ++ [10]) ++
    (match (bytes.splitOn 10).getLast? with
      | some (b :: rest) => [b :: rest]
      | _ => [])

/-- The number after an option, whether it is the next argument or not, and the operands. -/
def countOption (arguments : List String) : Char × Nat × List String :=
  let number (text : String) := (text.toNat?).getD 10
  match arguments with
  | "-n" :: count :: rest => ('n', number count, rest)
  | "-c" :: count :: rest => ('c', number count, rest)
  | argument :: rest =>
    match argument.toList with
    | '-' :: 'n' :: digits => ('n', number (String.ofList digits), rest)
    | '-' :: 'c' :: digits => ('c', number (String.ofList digits), rest)
    | '-' :: d :: digits => ('n', number (String.ofList (d :: digits)), rest)
    | _ => ('n', 10, arguments)
  | [] => ('n', 10, [])

/-- The first or the last lines or bytes of an operand. -/
def portion (place : Place) (name : String) (arguments : List String) : ToolResult :=
  let (unit, count, operands) := countOption arguments
  let operand := operands.head?.getD "-"
  match place.content operand with
  | .error e => place.fails s!"{name}: cannot open '{operand}' for reading: {errorText e}"
  | .ok bytes =>
    let lines := byteLines bytes
    place.writes (match name, unit with
      | "head", 'c' => bytes.take count
      | "head", _ => (lines.take count).flatten
      | _, 'c' => bytes.drop (bytes.length - count)
      | _, _ => (lines.drop (lines.length - count)).flatten)

/-- Counts the bytes, lines or words of an operand. -/
def counts (place : Place) (options operands : List String) : ToolResult :=
  let operand := operands.head?.getD "-"
  match place.content operand with
  | .error e => place.fails s!"wc: {operand}: {errorText e}"
  | .ok bytes =>
    let words := (bytes.splitOnP fun b => b = 32 || (9 ≤ b && b ≤ 13)).filter (!·.isEmpty)
    let numbers := (if hasLetter options 'l' then [bytes.count 10] else []) ++
      (if hasLetter options 'w' then [words.length] else []) ++
      (if hasLetter options 'c' then [bytes.length] else [])
    let names := if operands.isEmpty then [] else [operand]
    place.writes (Text.Utf8.encode (" ".intercalate (numbers.map toString ++ names) ++ "\n"))

/-- The numbers from one to another. -/
def sequence (place : Place) (operands : List String) : ToolResult :=
  let numbers := operands.filterMap String.toInt?
  let upTo (first last : Int) := place.writes
    ((List.range (last - first + 1).toNat).flatMap fun (i : Nat) =>
      Text.Utf8.encode s!"{first + i}\n")
  match numbers with
  | [last] => upTo 1 last
  | [first, last] => upTo first last
  | _ => place.fails "seq: missing operand\nTry 'seq --help' for more information."

/-- Tells by its status whether a condition holds. -/
def test (place : Place) (name : String) (arguments : List String) : ToolResult :=
  let wrong (text : String) : ToolResult :=
    { place.ends 2 with remarks := [s!"{name}: {text}"] }
  let arguments? :=
    if name = "test" then some arguments
    else if arguments.getLast? = some "]" then some arguments.dropLast
    else none
  match arguments? with
  | none => wrong "missing ]"
  | some arguments =>
    match Condition.holds? place.tree place.directory arguments with
    | .ok holds => place.ends (if holds then 0 else 1)
    | .error text => wrong text

/-- Runs a tool whose options are known. -/
def runKnown? (place : Place) (name : String) (arguments : List String) : Option ToolResult :=
  let (options, operands) := splitOptions arguments
  let line (text : String) := some (place.writes (Text.Utf8.encode (text ++ "\n")))
  match name, operands with
  | "true", _ | "sleep", _ | "sync", _ => some (place.ends 0)
  | "false", _ => some (place.ends 1)
  | "echo", _ => some (place.writes (echoed arguments))
  | "printf", format :: rest =>
    some (place.writes (formatted format (rest.length + 1) rest))
  | "test", _ | "[", _ => some (place.test name arguments)
  | "cat", _ => some (place.cat operands)
  | "cp", _ => some (place.transfer "cp" copy operands)
  | "mv", _ => some (place.transfer "mv" move operands)
  | "ln", [held] =>
    if hasLetter options 's' then some (place.link (hasLetter options 'f') "." held) else none
  | "ln", _ =>
    if hasLetter options 's' then some (place.transfer "ln" (link (hasLetter options 'f')) operands)
    else none
  | "mkdir", _ => some (place.forEach (makeDirectory (hasLetter options 'p')) operands)
  | "touch", _ => some (place.forEach touch operands)
  | "rm", _ => some (place.forEach
      (erase (hasLetter options 'r' || hasLetter options 'R') (hasLetter options 'f')) operands)
  | "chmod", _ =>
    let mode := (arguments.head?.getD "").toList
    let odd := mode.any fun c => c.isDigit && (c.toNat - '0'.toNat) % 2 = 1
    some (place.forEach (permit (mode.contains '+' || odd)) (arguments.drop 1))
  | "ls", _ => some (place.listNames (if operands.isEmpty then ["."] else operands))
  | "head", _ | "tail", _ => some (place.portion name arguments)
  | "wc", _ => some (place.counts options operands)
  | "seq", _ => some (place.sequence operands)
  | "basename", [path] => line (lastName path)
  | "basename", [path, ending] =>
    let name := lastName path
    line (if name ≠ ending && name.endsWith ending then
      String.ofList (name.toList.take (name.length - ending.length)) else name)
  | "dirname", [path] => line (parentOf path)
  | "tee", paths =>
    let written := place.forEach (fun place path =>
      place.changes s!"tee: {path}" (place.tree.write place.directory path place.input)) paths
    some { written with output := place.input }
  | _, _ => none

/-- The tools that are programs of their own. -/
def toolNames : List String :=
  ["basename", "cat", "chmod", "cp", "dirname", "head", "ln", "ls", "mkdir", "mv", "rm", "seq",
    "sleep", "sync", "tail", "tee", "touch", "wc"]

/-- What programs say of an option in full that they do not know. -/
def unknownOption (program option : String) : String :=
  s!"{program}: unrecognized option '{option}'\nTry '{program} --help' for more information."

/-- Runs a tool. -/
def run? (place : Place) (name : String) (arguments : List String) : Option ToolResult :=
  match (arguments.takeWhile (· ≠ "--")).find? (·.startsWith "--") with
  | some option =>
    if toolNames.contains name then some (place.fails (unknownOption name option))
    else place.runKnown? name arguments
  | none => place.runKnown? name arguments

end Place

end Piste.Shell
