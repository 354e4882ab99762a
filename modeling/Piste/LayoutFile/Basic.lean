import Piste.Diagram.Draw
import Piste.Host.IoError
import Piste.Yaml.Decode

/-!
# Layout files

What a layout file says: terminals in display order, the distances between neighbours, and sets of
connections to draw.
-/

namespace Piste

open Diagram

/-- The content of a layout file. -/
structure LayoutFile where
  terminals : List String
  /-- The terminal that stands at column `center`. -/
  anchor : String
  center : Nat
  /-- Columns per millimetre. -/
  scale : Float
  distances : List (String × String × Float)
  /-- Widths of labels that are not as wide as the id of their terminal. -/
  labelWidths : Table String Nat
  connectionSets : List ConnectionSet
  deriving DecidableEq

/-- Why a layout file cannot be loaded or used. -/
inductive LayoutFileError where
  | notFound (path : String)
  | unreadable (error : Host.IoError)
  | invalid (error : Yaml.ReadError)
  | unknownLabelTerminal (id : String)
  | duplicateSet (name : String)
  | unknownSet (name : String)
  | layout (error : LayoutError)

/-- The cause in one line. -/
def LayoutFileError.message : LayoutFileError → String
  | notFound path => "layout file not found: " ++ path
  | unreadable error => "failed to read layout file: " ++ error.message
  | invalid error => "failed to parse layout file: " ++ error.message
  | unknownLabelTerminal id => s!"label width given for unknown terminal '{id}'"
  | duplicateSet name => s!"connection set '{name}' is defined more than once"
  | unknownSet name => s!"no connection set named '{name}'"
  | layout error => error.message

namespace LayoutFile

/-- The anchor where the file names none. -/
def defaultAnchor : String := "Piste"

/-- The column of the anchor where the file gives none. -/
def defaultCenter : Nat := 50

/-- The scale where the file gives none. -/
def defaultScale : Float := 0.5

/-- The least of the strings, in the order of their characters. -/
def least? : List String → Option String
  | [] => none
  | s :: rest =>
    match least? rest with
    | none => some s
    | some t => some (if t < s then t else s)

/-- Terminals that have a label width but are not listed. -/
def unknownLabels (file : LayoutFile) : List String :=
  file.labelWidths.keys.filter fun id => id ∉ file.terminals

/-- Checks that every label width is that of a terminal and that set names do not repeat. Of several
unknown terminals the least is reported. -/
def validate (file : LayoutFile) : Except LayoutFileError Unit :=
  match least? file.unknownLabels with
  | some id => .error (.unknownLabelTerminal id)
  | none =>
    match firstRepeat? [] (file.connectionSets.map ConnectionSet.name) with
    | some name => .error (.duplicateSet name)
    | none => .ok ()

/-- The distances, entered in file order. -/
def distanceTable (file : LayoutFile) : DistanceTable :=
  .ofList file.distances

/-- The label width of a terminal: the one given, or the length of its id. -/
def labelWidth (file : LayoutFile) (id : String) : Nat :=
  (file.labelWidths.get? id).getD id.length

/-- The label width of every terminal. -/
def allLabelWidths (file : LayoutFile) : Table String Nat :=
  .ofList (file.terminals.map fun id => (id, file.labelWidth id))

/-- The terminals at their columns. -/
def layout (file : LayoutFile) : Except LayoutFileError Layout :=
  (Layout.solve file.terminals file.distanceTable file.scale
    { terminal := file.anchor, column := file.center } file.allLabelWidths).mapError .layout

/-- The first set with the given name. -/
def findSet (file : LayoutFile) (name : String) : Except LayoutFileError ConnectionSet :=
  match file.connectionSets.find? (·.name = name) with
  | some set => .ok set
  | none => .error (.unknownSet name)

/-- The sets to draw: the named ones in the order asked for, or all in file order if none
is named. -/
def selectSets (file : LayoutFile) (names : List String) :
    Except LayoutFileError (List ConnectionSet) :=
  if names.isEmpty then .ok file.connectionSets else names.mapM file.findSet

end LayoutFile

end Piste
