import Piste.Host.IoError
import Piste.Host.Path
import Piste.Table

/-!
# File trees

Files, directories and symbolic links, and the operations on them by path. A path is followed name
by name. Each name but the last has to lead to a directory, and a link stands for the path that it
holds. A file stands at one place: there are no hard links.
-/

namespace Piste.Host

/-- A place in the tree: the names on the way from it up to the root. -/
abbrev Location := List String

/-- What stands at a place. -/
inductive Entry where
  | file (content : List UInt8) (executable : Bool)
  | directory
  | link (path : String)
  deriving DecidableEq, Repr

/-- Whether an entry is a link. -/
def Entry.isLink : Entry → Bool
  | link _ => true
  | _ => false

/-- What stands at the places of a tree. The root is a directory. -/
structure FileTree where
  entries : Table Location Entry

namespace FileTree

/-- The tree of the root alone. -/
def empty : FileTree := ⟨∅⟩

/-- What stands at a place. -/
def at? (tree : FileTree) (location : Location) : Option Entry :=
  if location = [] then some .directory else tree.entries.get? location

/-- Puts an entry at a place. -/
def put (tree : FileTree) (location : Location) (entry : Entry) : FileTree :=
  ⟨tree.entries.insert location entry⟩

/-- Takes away what stands at a place and below. -/
def remove (tree : FileTree) (location : Location) : FileTree :=
  ⟨tree.entries.filterKeys fun key => !location.isSuffixOf key⟩

/-- Greatest number of bytes of a name. -/
def maxNameSize : Nat := 255

/-- Greatest number of bytes of a path. -/
def maxPathSize : Nat := 4095

/-- The place that a name leads to from a directory. -/
def enter (directory : Location) (name : String) : Except IoError Location :=
  if name = "." then .ok directory
  else if name = ".." then .ok directory.tail
  else if maxNameSize < name.utf8ByteSize then .error .tooLong
  else .ok (name :: directory)

/-- Where the names of a path are followed from. -/
def origin (directory : Location) (path : String) : Location :=
  if Path.isAbsolute path then [] else directory

/-- The names that a link stands for. A path that ends in a slash is that of a directory. -/
def linkNames (path : String) : List String :=
  Path.components path ++ (if Path.endsInSlash path then ["."] else [])

/-- The place that names lead to from a directory. All of them but the last have to lead to
directories; where the last one leads something need not stand. From a link on, `again` follows the
names that it stands for and those after it. -/
def follow (tree : FileTree) (again : Location → List String → Except IoError Location)
    (directory : Location) : List String → Except IoError Location
  | [] => .ok directory
  | name :: rest => do
    let location ← enter directory name
    match tree.at? location with
    | none => if rest.isEmpty then .ok location else .error .noEntry
    | some (.file _ _) => if rest.isEmpty then .ok location else .error .notDirectory
    | some .directory => tree.follow again location rest
    | some (.link path) => again (origin location.tail path) (linkNames path ++ rest)

/-- Greatest number of links on the way of a path. -/
def maxLinks : Nat := 40

/-- The place that names lead to from a directory, over so many links at most. -/
def walk (tree : FileTree) : Nat → Location → List String → Except IoError Location
  | 0 => tree.follow fun _ _ => .error .tooManyLinks
  | links + 1 => tree.follow (tree.walk links)

/-- What is wrong with the text of a path, wherever it leads. -/
def checkPath (path : String) : Except IoError Unit :=
  if path.toList.contains '\x00' then .error .nulInPath
  else if path.isEmpty then .error .noEntry
  else if maxPathSize < path.utf8ByteSize then .error .tooLong
  else .ok ()

/-- The place that a path leads to from `directory`. Something need not stand there. -/
def locate (tree : FileTree) (directory : Location) (path : String) : Except IoError Location := do
  checkPath path
  tree.walk maxLinks (origin directory path) (Path.components path)

/-- The place of the last name of a path. A link that stands there is not followed. -/
def locateLast (tree : FileTree) (directory : Location) (path : String) :
    Except IoError Location := do
  checkPath path
  let names := Path.components path
  let above ← tree.walk maxLinks (origin directory path) names.dropLast
  match names.getLast?, tree.at? above with
  | none, _ => .ok above
  | some name, some .directory => enter above name
  | some _, some _ => .error .notDirectory
  | some _, none => .error .noEntry

/-- What stands at the place of a path. A path that ends in a slash is that of a directory. -/
def found (tree : FileTree) (path : String) (location : Location) :
    Except IoError (Location × Entry) :=
  match tree.at? location with
  | none => .error .noEntry
  | some entry =>
    if Path.endsInSlash path && entry ≠ .directory then .error .notDirectory
    else .ok (location, entry)

/-- What a path leads to, with its place. -/
def find (tree : FileTree) (directory : Location) (path : String) :
    Except IoError (Location × Entry) := do
  tree.found path (← tree.locate directory path)

/-- What stands under the last name of a path, with its place. -/
def findLast (tree : FileTree) (directory : Location) (path : String) :
    Except IoError (Location × Entry) := do
  tree.found path (← tree.locateLast directory path)

/-- Whether a link stands under the last name of a path. -/
def isLink (tree : FileTree) (directory : Location) (path : String) : Bool :=
  (tree.findLast directory path).toOption.any (·.2.isLink)

/-- The content of a file. -/
def read (tree : FileTree) (directory : Location) (path : String) :
    Except IoError (List UInt8) := do
  match (← tree.find directory path).2 with
  | .file content _ => .ok content
  | .directory => .error .isDirectory
  | .link _ => .error .tooManyLinks

/-- The place of a file to be written, which is created if need be. -/
def target (tree : FileTree) (directory : Location) (path : String) :
    Except IoError (Location × Bool) := do
  let location ← tree.locate directory path
  if Path.endsInSlash path then .error .isDirectory
  else match tree.at? location with
    | none => .ok (location, false)
    | some (.file _ executable) => .ok (location, executable)
    | some .directory => .error .isDirectory
    | some (.link _) => .error .tooManyLinks

/-- Writes a file, in place of its former content. -/
def write (tree : FileTree) (directory : Location) (path : String) (content : List UInt8) :
    Except IoError FileTree := do
  let (location, executable) ← tree.target directory path
  .ok (tree.put location (.file content executable))

/-- Creates the directories that names lead to. A link to a directory is as good as one; a link that
leads nowhere is in the way. -/
def createAll (tree : FileTree) (directory : Location) : List String → Except IoError FileTree
  | [] => .ok tree
  | name :: rest => do
    let location ← enter directory name
    match tree.at? location with
    | none => (tree.put location .directory).createAll location rest
    | some .directory => tree.createAll location rest
    | some (.file _ _) => .error (if rest.isEmpty then .alreadyExists else .notDirectory)
    | some (.link _) =>
      match tree.walk maxLinks directory [name] with
      | .error e => .error (if rest.isEmpty || e = .noEntry then .alreadyExists else e)
      | .ok location =>
        match tree.at? location with
        | some .directory => tree.createAll location rest
        | some (.file _ _) => .error (if rest.isEmpty then .alreadyExists else .notDirectory)
        | _ => .error .alreadyExists

/-- Creates a directory with the directories above it. -/
def createDirectories (tree : FileTree) (directory : Location) (path : String) :
    Except IoError FileTree :=
  if path.toList.contains '\x00' then .error .nulInPath
  else if maxPathSize < path.utf8ByteSize then .error .tooLong
  else tree.createAll (origin directory path) (Path.components path)

/-- Creates a link where nothing stands. -/
def createLink (tree : FileTree) (directory : Location) (path held : String) :
    Except IoError FileTree := do
  checkPath held
  let location ← tree.locateLast directory path
  if (tree.at? location).isSome then .error .alreadyExists
  else .ok (tree.put location (.link held))

/-- The error of a copy whose source is no file. -/
def noSourceFile : IoError :=
  .other "the source path is neither a regular file nor a symlink to a regular file"

/-- Copies a file with its permissions. The target is emptied first, so that a file copied onto
itself is empty. -/
def copy (tree : FileTree) (directory : Location) (source target : String) :
    Except IoError FileTree := do
  match ← tree.find directory source with
  | (sourceLocation, .file content executable) =>
    let (location, _) ← tree.target directory target
    let content := if location = sourceLocation then [] else content
    .ok (tree.put location (.file content executable))
  | _ => .error noSourceFile

/-- Names in a directory, in the order of their characters. -/
def names (tree : FileTree) (location : Location) : List String :=
  (tree.entries.keys.filterMap fun key =>
    match key with
    | name :: parent => if parent = location then some name else none
    | [] => none).mergeSort

end FileTree

end Piste.Host
