import Piste.LayoutFile.Basic

/-!
# Reading layout files

A layout file is a YAML mapping with fields of its own. Fields may be left out, except the list of
terminals and the name of a set, but neither repeated nor invented. A connection is a short list or
a mapping; it is read from a value, so that its texts have to be texts.
-/

namespace Piste.LayoutFile

open Diagram Yaml

/-! ## Connections -/

/-- The mark of a resistor in a connection of three texts. -/
def resistorMark : String := "R"

/-- A field of a connection that is a mapping. -/
inductive ConnectionField where
  | source
  | target
  | resistor
  | other
  deriving DecidableEq

/-- The field that a key names. Fields may be given by number. -/
def connectionField? : Value → Option ConnectionField
  | .text "from" | .nat 0 => some .source
  | .text "to" | .nat 1 => some .target
  | .text "resistor" | .nat 2 => some .resistor
  | .text _ | .nat _ => some .other
  | _ => none

/-- The fields read so far of a connection that is a mapping. -/
structure ConnectionDraft where
  source : Option String
  target : Option String
  resistor : Option Bool

/-- Reads one more field, which must not have been read before. Other fields are passed over. -/
def ConnectionDraft.add? (draft : ConnectionDraft) (entry : Value × Value) :
    Option ConnectionDraft := do
  match ← connectionField? entry.1, entry.2 with
  | .source, .text id => if draft.source.isSome then none else some { draft with source := id }
  | .target, .text id => if draft.target.isSome then none else some { draft with target := id }
  | .resistor, .bool b =>
    if draft.resistor.isSome then none else some { draft with resistor := b }
  | .other, _ => some draft
  | _, _ => none

/-- A connection that is a mapping. -/
def connectionOfEntries? (entries : List (Value × Value)) : Option Connection := do
  let draft ← entries.foldlM ConnectionDraft.add?
    { source := none, target := none, resistor := none }
  some { source := ← draft.source, target := ← draft.target, resistor := draft.resistor.getD false }

/-- A connection from a value: two texts, three texts of which the last is the mark of a resistor,
or a mapping. -/
def connectionOfValue : Value → Except Fault Connection
  | .sequence [.text source, .text target] => .ok { source, target, resistor := false }
  | .sequence [.text source, .text target, .text marker] =>
    if marker = resistorMark then .ok { source, target, resistor := true }
    else .error (.unknownMarker marker source target resistorMark)
  | .mapping entries =>
    match connectionOfEntries? entries with
    | some connection => .ok connection
    | none => .error .noConnection
  | _ => .error .noConnection

/-- Collections around a connection: the file, its list of sets, a set, and its list
of connections. -/
def connectionDepth : Nat := 4

/-- Connections. One that is no connection is reported at the place of the list. -/
def readConnections (document : Document) (place : Place) (node : Node) :
    Reader (List Connection) := do
  (← Reader.items document "a sequence" place node).mapM fun (itemPlace, item) => do
    let value ← Reader.value document (Reader.maxDepth - connectionDepth) itemPlace item
    match connectionOfValue value with
    | .ok connection => return connection
    | .error fault => Reader.fail place fault

/-! ## Sets, distances and label widths -/

/-- A field, which must not have been read before. -/
def readOnce {α : Type} (place : Place) (name : String) (earlier : Option α) (read : Reader α) :
    Reader (Option α) := do
  if earlier.isSome then Reader.fail place (.duplicateField name) else return some (← read)

/-- A field that must not be left out. -/
def required {α : Type} (place : Place) (name : String) : Option α → Reader α
  | some value => return value
  | none => Reader.fail place (.missingField name)

/-- The fields read so far of a connection set. -/
structure SetDraft where
  name : Option String
  connections : Option (List Connection)

/-- A connection set. -/
def readSet (document : Document) (place : Place) (node : Node) : Reader ConnectionSet := do
  let entries ← Reader.entries document "struct ConnectionSetConfig" place node
  let draft ← entries.foldlM (fun (draft : SetDraft) (key, node) => do
    let field ← Reader.text document "field identifier" place key
    let inner := Reader.valuePlace place key
    match field with
    | "name" =>
      let name ← readOnce place field draft.name (Reader.text document "a string" inner node)
      return { draft with name }
    | "connections" =>
      let connections ← readOnce place field draft.connections
        (readConnections document inner node)
      return { draft with connections }
    | _ => Reader.fail place (.unknownField field ["name", "connections"]))
    { name := none, connections := none }
  return { name := ← required place "name" draft.name, connections := draft.connections.getD [] }

/-- A distance: two terminals and the millimetres between them. -/
def readDistance (document : Document) (place : Place) (node : Node) :
    Reader (String × String × Float) := do
  let expected := "a tuple of size 3"
  match ← Reader.items document expected place node with
  | [] => Reader.fail place (.wrongLength 0 expected)
  | (leftPlace, left) :: more =>
    let left ← Reader.text document "a string" leftPlace left
    match more with
    | [] => Reader.fail place (.wrongLength 1 expected)
    | (rightPlace, right) :: more =>
      let right ← Reader.text document "a string" rightPlace right
      match more with
      | [] => Reader.fail place (.wrongLength 2 expected)
      | (mmPlace, mm) :: more =>
        let mm ← Reader.float document mmPlace mm
        if more.isEmpty then return (left, right, mm)
        else Reader.fail place (.wrongLength (3 + more.length) "sequence of 3 elements")

/-- Label widths by terminal. A later one replaces an earlier one. -/
def readLabelWidths (document : Document) (place : Place) (node : Node) :
    Reader (Table String Nat) := do
  let entries ← Reader.entries document "a map" place node
  let widths ← entries.mapM fun (key, node) => do
    let id ← Reader.text document "a string" place key
    return (id, ← Reader.nat document (Reader.valuePlace place key) node)
  return .ofList widths

/-! ## The file -/

/-- The fields read so far of a layout file. -/
structure Draft where
  terminals : Option (List String)
  anchor : Option String
  center : Option Nat
  scale : Option Float
  distances : Option (List (String × String × Float))
  labelWidths : Option (Table String Nat)
  connectionSets : Option (List ConnectionSet)

/-- A draft without fields. -/
def Draft.empty : Draft := ⟨none, none, none, none, none, none, none⟩

/-- The fields of a layout file. -/
def fieldNames : List String :=
  ["terminals", "anchor", "center", "scale", "distances", "label_widths", "connection_sets"]

/-- Reads one more field. -/
def Draft.add (document : Document) (draft : Draft) (entry : Node × Node) : Reader Draft := do
  let (key, node) := entry
  let field ← Reader.text document "field identifier" [] key
  let place := Reader.valuePlace [] key
  match field with
  | "terminals" =>
    let terminals ← readOnce [] field draft.terminals
      (Reader.list document (Reader.text document "a string") place node)
    return { draft with terminals }
  | "anchor" =>
    let anchor ← readOnce [] field draft.anchor (Reader.text document "a string" place node)
    return { draft with anchor }
  | "center" =>
    let center ← readOnce [] field draft.center (Reader.nat document place node)
    return { draft with center }
  | "scale" =>
    let scale ← readOnce [] field draft.scale (Reader.float document place node)
    return { draft with scale }
  | "distances" =>
    let distances ← readOnce [] field draft.distances
      (Reader.list document (readDistance document) place node)
    return { draft with distances }
  | "label_widths" =>
    let labelWidths ← readOnce [] field draft.labelWidths (readLabelWidths document place node)
    return { draft with labelWidths }
  | "connection_sets" =>
    let connectionSets ← readOnce [] field draft.connectionSets
      (Reader.list document (readSet document) place node)
    return { draft with connectionSets }
  | _ => Reader.fail [] (.unknownField field fieldNames)

/-- Reads a layout file from a document. An empty document has no fields. -/
def read (document : Document) : Reader LayoutFile := do
  let entries ← match document.root with
    | some root => Reader.entries document "struct LayoutConfig" [] root
    | none => pure []
  let draft ← entries.foldlM (Draft.add document) .empty
  return {
    terminals := ← required [] "terminals" draft.terminals
    anchor := draft.anchor.getD defaultAnchor
    center := draft.center.getD defaultCenter
    scale := draft.scale.getD defaultScale
    distances := draft.distances.getD []
    labelWidths := draft.labelWidths.getD ∅
    connectionSets := draft.connectionSets.getD [] }

/-- Reads a layout file from its text and checks it. -/
def ofYaml (text : String) : Except LayoutFileError LayoutFile := do
  let file ← (Reader.run read text).mapError .invalid
  file.validate
  return file

end Piste.LayoutFile
