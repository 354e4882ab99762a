import Piste.Host.FileTree
import Piste.Shell.Pattern

/-!
# Fields

The fields that expanded words make. Text that is not quoted is split at blanks, and is a pattern
for the paths of files if it holds characters with a meaning in patterns.
-/

namespace Piste.Shell

open Host

/-- A piece of an expanded word: text, or fields that stay apart. -/
inductive Piece where
  | text (text : String) (quoted : Bool)
  | fields (fields : List String)

/-- Text of which all characters are quoted or none. -/
def marked (text : String) (quoted : Bool) : Pattern :=
  text.toList.map (·, quoted)

/-- Splits text at blanks, after the field begun. The last field is begun then. -/
def splitBlanks (begun : Option Pattern) : List Char → List Pattern × Option Pattern
  | [] => ([], begun)
  | c :: rest =>
    if c = ' ' || c = '\t' || c = '\n' then
      let (fields, last) := splitBlanks none rest
      (begun.toList ++ fields, last)
    else splitBlanks (some (begun.getD [] ++ [(c, false)])) rest

/-- The fields that pieces make, after the field begun. -/
def fieldsOf (begun : Option Pattern) : List Piece → List Pattern
  | [] => begun.toList
  | .text text true :: rest => fieldsOf (some (begun.getD [] ++ marked text true)) rest
  | .text text false :: rest =>
    let (fields, last) := splitBlanks begun text.toList
    fields ++ fieldsOf last rest
  | .fields [] :: rest => fieldsOf begun rest
  | .fields [only] :: rest => fieldsOf (some (begun.getD [] ++ marked only true)) rest
  | .fields (first :: more) :: rest =>
    (begun.getD [] ++ marked first true) :: more.dropLast.map (marked · true) ++
      fieldsOf (more.getLast?.map (marked · true)) rest

/-- The text of pieces as one field. -/
def joined (pieces : List Piece) : String :=
  String.join (pieces.map fun
    | .text text _ => text
    | .fields fields => " ".intercalate fields)

/-- The pattern that pieces write. -/
def patternOf (pieces : List Piece) : Pattern :=
  pieces.flatMap fun
    | .text text quoted => marked text quoted
    | .fields fields => marked (" ".intercalate fields) true

namespace Pattern

/-- The text of a pattern. -/
def text (pattern : Pattern) : String :=
  String.ofList (pattern.map Prod.fst)

/-- Whether a pattern stands for more than its text. -/
def isOpen (pattern : Pattern) : Bool :=
  pattern.any fun (c, quoted) => !quoted && "*?[".toList.contains c

/-- The paths that lead from some directories to files whose names the patterns stand for. Names
that begin with a point are left out, unless the pattern begins with one. -/
def paths (tree : FileTree) (directory : Location) (found : List String) :
    List Pattern → List String
  | [] => found
  | name :: rest =>
    let below (path : String) : List String :=
      let join (name : String) := if path.isEmpty then name else Path.join path name
      if name.isOpen then
        match tree.find directory (if path.isEmpty then "." else path) with
        | .ok (location, .directory) =>
          ((tree.names location).filter fun candidate =>
            (!candidate.startsWith "." || name.text.startsWith ".") &&
              name.matchesText candidate.toList).map join
        | _ => []
      else
        let path := join name.text
        if (tree.find directory path).toBool then [path] else []
    paths tree directory (found.flatMap below) rest

/-- The fields for a pattern: the paths of the files that it stands for, or its text if there are
none. -/
def fields (tree : FileTree) (directory : Location) (pattern : Pattern) : List String :=
  if pattern.isOpen then
    let names := (pattern.splitOnP fun (c, _) => c = '/').filter (!·.isEmpty)
    let start := if pattern.head?.any (·.1 = '/') then "/" else ""
    match paths tree directory [start] names with
    | [] => [pattern.text]
    | found => found
  else [pattern.text]

end Pattern

end Piste.Shell
