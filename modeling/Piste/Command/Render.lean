import Piste.LayoutFile.Read
import Piste.Report

/-!
# Drawing the sets of a layout file

The command that prints the diagrams of a layout file. Nothing is printed unless every set asked for
can be drawn.
-/

namespace Piste

open Diagram Text

/-- Writes a set: a line with its name, the lines of its diagram, and an empty line. -/
def writeSet {m : Type → Type} [Monad m] (out : Host.Writer m) (set : RenderedSet) :
    ExceptT Host.IoError m Unit := do
  out.write (Style.bold.span set.name).render
  out.write ":\n"
  set.lines.forM fun line => do
    out.write line
    out.write "\n"
  out.write "\n"

/-- Writes sets one after another, up to the first write that fails. In the end what the writer has
held back is written out. -/
def writeSets {m : Type → Type} [Monad m] (out : Host.Writer m) (sets : List RenderedSet) :
    ExceptT Host.IoError m Unit := do
  sets.forM (writeSet out)
  out.flush

namespace Command

variable {m : Type → Type} [Monad m] [Host m]

/-- The error of a file that is not UTF-8. -/
def notUtf8 : Host.IoError := .other "stream did not contain valid UTF-8"

/-- The layout file with the given content, or with the given error of reading it. -/
def parseLayoutFile (path : String) :
    Except Host.IoError (List UInt8) → Except LayoutFileError LayoutFile
  | .error e => .error (if e = .noEntry then .notFound path else .unreadable e)
  | .ok content =>
    match Utf8.decode? content with
    | none => .error (.unreadable notUtf8)
    | some text => LayoutFile.ofYaml text

/-- Loads the layout file at the path that the user gives. -/
def loadLayoutFile (path : String) : m (Except CommandError LayoutFile) := do
  let file := Host.Path.expandHome (← Host.home) path
  return (parseLayoutFile file (← Host.readFile file)).mapError (.layoutFile path)

/-- The diagrams of the named sets of a layout file, or of all its sets if none is named. -/
def diagrams (path : String) (names : List String) (file : LayoutFile) :
    Except CommandError (List RenderedSet) := do
  let layout ← file.layout.mapError (.layoutFile path)
  let sets ← (file.selectSets names).mapError (.layoutFile path)
  (layout.drawSets sets).mapError fun (set, error) => .draw path set error

/-- Prints diagrams, or that there are none. -/
def printDiagrams (path : String) : List RenderedSet → m (Except CommandError Unit)
  | [] => do
    Host.print ("No connection sets in " ++ path ++ "\n")
    return .ok ()
  | sets => do
    let written ← (writeSets Host.standardOutput sets).run
    return written.mapError (.io "failed to write diagram")

/-- Prints the diagrams of the named sets of a layout file, or of all its sets if none is named. -/
def render (path : String) (names : List String) : m (Except CommandError Unit) := do
  match (← loadLayoutFile path).bind (diagrams path names) with
  | .error e => return .error e
  | .ok sets => printDiagrams path sets

end Command

end Piste
