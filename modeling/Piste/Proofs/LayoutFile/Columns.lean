import Mathlib.Order.Bounds.Defs
import Piste.LayoutFile.Basic
import Piste.Proofs.Diagram.Assembly
import Piste.Proofs.Diagram.Wires

/-!
# The layout of a layout file

A layout file has a layout exactly if its terminals can be placed (`Places.exists_layout`,
`exists_places_of_layout`): the label widths of the file are those of its terminals, so nothing that
comes after the solver can fail (`layout_eq_error_iff`). `LaysOut` says what the layout holds.
-/

namespace Piste.LayoutFile

open Diagram Outcome

variable {file : LayoutFile}

/-- The terminal that the columns are counted from. -/
def startingPoint (file : LayoutFile) : Anchor :=
  ⟨file.anchor, file.center⟩

/-- The columns of the terminals. -/
def columns (file : LayoutFile) : Except LayoutError Positions :=
  Positions.solve file.terminals file.distanceTable file.scale file.startingPoint

theorem get?_allLabelWidths {id : String} (hid : id ∈ file.terminals) :
    file.allLabelWidths.get? id = some (file.labelWidth id) :=
  Table.get?_ofList_map hid

/-- The placements of the terminals of a file. -/
def Places (file : LayoutFile) (entries : List (String × Nat)) : Prop :=
  Positions.Placement file.terminals file.distanceTable file.scale file.startingPoint entries

/-- Every placement gives a layout. -/
theorem Places.exists_layout {entries : List (String × Nat)} (h : file.Places entries) :
    ∃ layout, file.layout = .ok layout ∧
      layout.terminals = Layout.terminalsOf file.labelWidth entries := by
  obtain ⟨layout, hsolve, hterminals⟩ :=
    Layout.exists_solve_of_placement (fun _ hid => get?_allLabelWidths hid) h
  exact ⟨layout, mapError_eq_ok_iff.2 hsolve, hterminals⟩

/-- There are no other layouts. -/
theorem exists_places_of_layout {layout : Layout} (h : file.layout = .ok layout) :
    ∃ entries, file.Places entries ∧
      layout.terminals = Layout.terminalsOf file.labelWidth entries :=
  Layout.exists_placement_of_solve (fun _ hid => get?_allLabelWidths hid) (mapError_eq_ok_iff.1 h)

/-- Only the solver keeps a file from having a layout. -/
theorem layout_eq_error_iff {e : LayoutFileError} :
    file.layout = .error e ↔ ∃ cause, file.columns = .error cause ∧ e = .layout cause := by
  have hwidths : Layout.withoutWidth? file.allLabelWidths file.terminals = none := by
    rw [Layout.withoutWidth?, List.find?_eq_none]
    intro id hid
    rw [get?_allLabelWidths hid]
    simp
  rw [LayoutFile.layout, mapError_eq_error_iff]
  refine exists_congr fun cause => and_congr_left fun _ => ?_
  rw [Layout.solve_eq_error_iff, hwidths]
  simp [columns, startingPoint]

/-- `layout` shows the terminals of `file` in file order, each at its column in `positions`. A label
is as wide as the file says, or else as its id has characters. -/
structure LaysOut (file : LayoutFile) (positions : Positions) (layout : Layout) : Prop where
  ids : layout.terminals.map Terminal.id = file.terminals
  columns : ∀ t ∈ layout.terminals, positions.get? t.id = some t.position
  widths : ∀ t ∈ layout.terminals, ∀ width, file.labelWidths.get? t.id = some width →
    t.labelWidth = width
  lengths : ∀ t ∈ layout.terminals, file.labelWidths.get? t.id = none → t.labelWidth = t.id.length
  greatest : IsGreatest {column | ∃ id, positions.get? id = some column} layout.maxPosition

theorem Places.laysOut {layout : Layout} {entries : List (String × Nat)}
    (hplacement : file.Places entries)
    (hterminals : layout.terminals = Layout.terminalsOf file.labelWidth entries) :
    file.LaysOut (Table.ofList entries) layout := by
  have hdistinct : (entries.map Prod.fst).Nodup := hplacement.ids ▸ hplacement.distinct
  -- The columns of the table are those of the terminals of the layout.
  have hget : ∀ id column, (Table.ofList entries).get? id = some column ↔
      ⟨id, file.labelWidth id, column⟩ ∈ layout.terminals := by
    intro id column
    rw [Table.get?_eq_some_iff, Table.entries_ofList hdistinct, hterminals, Layout.terminalsOf]
    simp
  have hwidth : ∀ t ∈ layout.terminals, t = ⟨t.id, file.labelWidth t.id, t.position⟩ := by
    intro t ht
    rw [hterminals, Layout.terminalsOf] at ht
    obtain ⟨entry, -, rfl⟩ := List.mem_map.1 ht
    rfl
  have hcolumn : ∀ t ∈ layout.terminals, (Table.ofList entries).get? t.id = some t.position := by
    intro t ht
    rw [hget, ← hwidth t ht]
    exact ht
  refine ⟨?_, hcolumn, ?_, ?_, ?_, ?_⟩
  · rw [hterminals, Layout.map_id_terminalsOf, hplacement.ids]
  · intro t ht width hgiven
    rw [hwidth t ht, labelWidth, hgiven, Option.getD_some]
  · intro t ht hdefault
    rw [hwidth t ht, labelWidth, hdefault, Option.getD_none]
  · exact ⟨_, hcolumn _ (List.getLast_mem layout.nonempty)⟩
  · rintro column ⟨id, hid⟩
    exact Layout.position_le_maxPosition ((hget id column).1 hid)

/-- A file has a layout exactly if its terminals have columns, and it is missed for no other cause
than these. With label widths of any origin there is one more cause, a label without a width, of
which the first is reported. -/
theorem layout_ok_iff_columns (file : LayoutFile) :
    ((∃ layout, file.layout = .ok layout) ↔ ∃ positions, file.columns = .ok positions) ∧
    (∀ e, file.layout = .error e ↔ ∃ cause, file.columns = .error cause ∧ e = .layout cause) ∧
    (∀ layout positions, file.layout = .ok layout → file.columns = .ok positions →
      file.LaysOut positions layout) ∧
    ∀ order distances scale anchor labelWidths e,
      Layout.solve order distances scale anchor labelWidths = .error e ↔
        Positions.solve order distances scale anchor = .error e ∨
          ∃ positions id, Positions.solve order distances scale anchor = .ok positions ∧
            Layout.withoutWidth? labelWidths order = some id ∧ e = .missingLabelWidth id := by
  refine ⟨?_, fun e => layout_eq_error_iff, ?_, ?_⟩
  · cases hcolumns : file.columns with
    | error cause =>
      have herror := layout_eq_error_iff.2 ⟨cause, hcolumns, rfl⟩
      simp [herror]
    | ok positions =>
      cases hlayout : file.layout with
      | ok layout => simp
      | error e =>
        obtain ⟨cause, herror, -⟩ := layout_eq_error_iff.1 hlayout
        rw [hcolumns] at herror
        cases herror
  · intro layout positions hlayout hcolumns
    obtain ⟨entries, hplacement, hterminals⟩ := exists_places_of_layout hlayout
    have hsolve : file.columns = .ok (Table.ofList entries) :=
      Positions.solve_eq_ok_iff.2 ⟨entries, hplacement, rfl⟩
    rw [hsolve] at hcolumns
    cases hcolumns
    exact hplacement.laysOut hterminals
  · intro order distances scale anchor labelWidths e
    exact Layout.solve_eq_error_iff

/-- A file that gives a label width for a terminal it does not list. -/
def unchecked : LayoutFile where
  terminals := ["Ä→", "B"]
  anchor := "B"
  center := 10
  scale := 1.0
  distances := [("B", "Ä→", 4.0)]
  labelWidths := .ofList [("B", 7), ("Z", 1)]
  connectionSets := []

/-- The label of the first terminal is two columns wide, by characters and not by bytes. -/
theorem laysOut_unchecked :
    ∃ layout, unchecked.layout = .ok layout ∧
      unchecked.LaysOut (.ofList [("Ä→", 6), ("B", 10)]) layout ∧
      layout.terminals = [⟨"Ä→", 2, 6⟩, ⟨"B", 7, 10⟩] := by
  have hcolumns : unchecked.columns = .ok (.ofList [("Ä→", 6), ("B", 10)]) := rfl
  obtain ⟨layout, hlayout⟩ := (layout_ok_iff_columns unchecked).1.2 ⟨_, hcolumns⟩
  refine ⟨layout, hlayout, (layout_ok_iff_columns unchecked).2.2.1 _ _ hlayout hcolumns, ?_⟩
  have hterminals : unchecked.layout.map (·.terminals) = .ok [⟨"Ä→", 2, 6⟩, ⟨"B", 7, 10⟩] := rfl
  rw [hlayout] at hterminals
  exact Except.ok.inj hterminals

end Piste.LayoutFile
