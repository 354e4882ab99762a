/-!
# Paths

Paths as text, with slashes between their parts.
-/

namespace Piste.Host.Path

/-- A path that starts at the root. -/
def isAbsolute (path : String) : Bool :=
  path.toList.head? == some '/'

/-- A path that ends in a slash. -/
def endsInSlash (path : String) : Bool :=
  path.toList.getLast? == some '/'

/-- The path of `part` as seen from `base`. An absolute part stands alone; a slash comes between,
unless the base is empty or ends in one. -/
def join (base part : String) : String :=
  if isAbsolute part then part
  else if base.isEmpty || endsInSlash base then base ++ part
  else base ++ "/" ++ part

/-- The names between the slashes. -/
def components (path : String) : List String :=
  ((path.toList.splitOn '/').filter (!·.isEmpty)).map String.ofList

/-- Replaces a tilde that is the first part of the path by the home directory. -/
def expandHome (home : Option String) (path : String) : String :=
  match home, path.toList with
  | some home, '~' :: rest =>
    if rest.isEmpty || rest.head? == some '/' then home ++ String.ofList rest else path
  | _, _ => path

end Piste.Host.Path
