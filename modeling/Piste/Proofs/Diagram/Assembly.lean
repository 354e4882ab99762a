import Piste.Proofs.Diagram.Placement
import Piste.Proofs.Diagram.Row

/-!
# Layouts of solved columns

The solver and the assembly of a layout check the same bounds in two ways. This module says that
they agree: on solved columns the assembly can only miss the width of a label.

* `Assembling` is what holds halfway through the assembly. `Assembling.place` is one step of it, and
  `Assembling.assemble_eq_ok` and `Assembling.assemble_eq_missing` are the two ways it ends.
* `exists_solve_of_placement` and `exists_placement_of_solve` say that the layouts are the
  placements, `solve_eq_error_iff` why there may be none.
-/

namespace Piste.Diagram.Layout

open Positions

/-- Terminals at their columns, with the width that each label has by its id. -/
def terminalsOf (labelWidth : String → Nat) (entries : List (String × Nat)) : List Terminal :=
  entries.map fun entry => ⟨entry.1, labelWidth entry.1, entry.2⟩

@[simp]
theorem map_id_terminalsOf (labelWidth : String → Nat) (entries : List (String × Nat)) :
    (terminalsOf labelWidth entries).map Terminal.id = entries.map Prod.fst := by
  simp [terminalsOf, Function.comp_def]

/-- The first of some terminals whose label has no width. -/
def withoutWidth? (labelWidths : Table String Nat) (order : List String) : Option String :=
  order.find? fun id => (labelWidths.get? id).isNone

/-! ## The assembly -/

/-- The terminals in `entries` can follow those of a row: their columns are known, in bounds and
increasing, and their ids are new. -/
structure Assembling (positions : Positions) (row : Row) (entries : List (String × Nat)) :
    Prop where
  columns : ∀ entry ∈ entries, positions.get? entry.1 = some entry.2
  bounded : ∀ entry ∈ entries, entry.2 ≤ maxColumn
  distinct : (entries.map Prod.fst).Nodup
  increasing : entries.Pairwise fun a b => a.2 < b.2
  fresh : ∀ entry ∈ entries, row.index.get? entry.1 = none
  follows : ∀ last ∈ row.terminals.getLast?, ∀ entry ∈ entries, last.position < entry.2

section Assembly

variable {positions : Positions} {labelWidths : Table String Nat} {row : Row}
  {entry : String × Nat} {entries : List (String × Nat)}

/-- A terminal with a label width takes its place. -/
theorem Assembling.place_eq_ok {width : Nat} (h : Assembling positions row (entry :: entries))
    (hwidth : labelWidths.get? entry.1 = some width) :
    place positions labelWidths row entry.1 = .ok ⟨entry.1, width, entry.2⟩ := by
  rw [place_eq_ok_iff]
  refine ⟨rfl, h.columns entry List.mem_cons_self, hwidth, h.bounded entry List.mem_cons_self,
    h.fresh entry List.mem_cons_self, ?_⟩
  intro last hlast
  exact h.follows last hlast entry List.mem_cons_self

/-- A terminal without a label width is reported, whatever has been placed. -/
theorem Assembling.place_eq_missing (h : Assembling positions row (entry :: entries))
    (hwidth : labelWidths.get? entry.1 = none) :
    place positions labelWidths row entry.1 = .error (.missingLabelWidth entry.1) := by
  have hcolumn := h.columns entry List.mem_cons_self
  simp only [place, hcolumn, hwidth]

/-- After a terminal has taken its place, the others can follow it. -/
theorem Assembling.place (h : Assembling positions row (entry :: entries)) (width : Nat) :
    Assembling positions (row.push ⟨entry.1, width, entry.2⟩) entries := by
  obtain ⟨hcolumns, hbounded, hdistinct, hincreasing, hfresh, -⟩ := h
  rw [List.map_cons, List.nodup_cons] at hdistinct
  rw [List.pairwise_cons] at hincreasing
  rw [List.forall_mem_cons] at hcolumns hbounded hfresh
  refine ⟨hcolumns.2, hbounded.2, hdistinct.2, hincreasing.2, ?_, ?_⟩
  · intro other hother
    rw [Row.push, Table.get?_insert, if_neg]
    · exact hfresh.2 other hother
    · exact fun hid => hdistinct.1 (List.mem_map.2 ⟨other, hother, hid⟩)
  · intro last hlast other hother
    rw [Row.push, List.getLast?_concat] at hlast
    cases hlast
    exact hincreasing.1 other hother

/-- Where every label has a width, all terminals take their places. -/
theorem Assembling.assemble_eq_ok {labelWidth : String → Nat}
    (h : Assembling positions row entries)
    (hwidths : ∀ entry ∈ entries, labelWidths.get? entry.1 = some (labelWidth entry.1)) :
    assemble positions labelWidths row (entries.map Prod.fst) =
      .ok (row.pushAll (terminalsOf labelWidth entries)) := by
  induction entries generalizing row with
  | nil => rfl
  | cons entry entries ih =>
    rw [List.forall_mem_cons] at hwidths
    have hmore := ih (h.place (labelWidth entry.1)) hwidths.2
    rw [List.map_cons, assemble, h.place_eq_ok hwidths.1]
    exact hmore

/-- Otherwise the first terminal without a width is reported. -/
theorem Assembling.assemble_eq_missing {id : String} (h : Assembling positions row entries)
    (hmissing : withoutWidth? labelWidths (entries.map Prod.fst) = some id) :
    assemble positions labelWidths row (entries.map Prod.fst) =
      .error (.missingLabelWidth id) := by
  induction entries generalizing row with
  | nil => cases hmissing
  | cons entry entries ih =>
    rw [withoutWidth?, List.map_cons, List.find?_cons] at hmissing
    rw [List.map_cons, assemble]
    cases hwidth : labelWidths.get? entry.1 with
    | none =>
      simp only [hwidth, Option.isNone_none, Option.some.injEq] at hmissing
      subst hmissing
      rw [h.place_eq_missing hwidth]
      rfl
    | some width =>
      simp only [hwidth, Option.isNone_some] at hmissing
      rw [h.place_eq_ok hwidth]
      exact ih (h.place width) hmissing

end Assembly

/-! ## Layouts -/

section Layouts

variable {order : List String} {distances : DistanceTable} {scale : Float} {anchor : Anchor}
  {positions : Positions} {labelWidths : Table String Nat} {entries : List (String × Nat)}

theorem ofParts_eq_ok_iff {layout : Layout} :
    ofParts order positions labelWidths = .ok layout ↔
      order ≠ [] ∧ assemble positions labelWidths .empty order = .ok layout.toRow := by
  rw [ofParts]
  by_cases hne : order = []
  · simp [hne]
  rw [dif_neg hne, and_iff_right hne]
  obtain ⟨row, _, _⟩ := layout
  split
  · rename_i e herror
    simp [herror]
  · rename_i found hfound
    simp [hfound]

theorem ofParts_eq_error_iff {e : LayoutError} (hne : order ≠ []) :
    ofParts order positions labelWidths = .error e ↔
      assemble positions labelWidths .empty order = .error e := by
  rw [ofParts, dif_neg hne]
  split
  · rename_i e' herror
    simp [herror]
  · rename_i found hfound
    simp [hfound]

theorem exists_ofParts {row : Row} (hne : order ≠ [])
    (hassemble : assemble positions labelWidths .empty order = .ok row) :
    ∃ layout, ofParts order positions labelWidths = .ok layout ∧ layout.toRow = row := by
  cases hparts : ofParts order positions labelWidths with
  | error e =>
    rw [ofParts_eq_error_iff hne, hassemble] at hparts
    cases hparts
  | ok layout =>
    have hrow := (ofParts_eq_ok_iff.1 hparts).2
    rw [hassemble] at hrow
    exact ⟨layout, rfl, (Except.ok.inj hrow).symm⟩

/-- The columns of a placement pass every check of the assembly. -/
theorem assembling_of_placement (h : Placement order distances scale anchor entries) :
    Assembling (Table.ofList entries) .empty entries := by
  obtain ⟨rfl, hdistinct, -, -, -, hspaced, hbounded⟩ := h
  refine ⟨?_, hbounded, hdistinct, pairwise_lt_of_isChain hspaced, fun _ _ => rfl, nofun⟩
  intro entry hentry
  rw [Table.get?_eq_some_iff, Table.entries_ofList hdistinct]
  exact hentry

theorem ne_nil_of_placement (h : Placement order distances scale anchor entries) :
    order ≠ [] := by
  rw [← h.ids]
  exact List.ne_nil_of_mem (List.mem_map_of_mem h.anchored)

section Widths

variable {labelWidth : String → Nat}
  (hwidths : ∀ id ∈ order, labelWidths.get? id = some (labelWidth id))

include hwidths

theorem assemble_of_placement (h : Placement order distances scale anchor entries) :
    assemble (Table.ofList entries) labelWidths .empty order =
      .ok (Row.empty.pushAll (terminalsOf labelWidth entries)) := by
  have hassembling := assembling_of_placement h
  rw [← h.ids] at hwidths ⊢
  exact hassembling.assemble_eq_ok fun entry hentry =>
    hwidths entry.1 (List.mem_map_of_mem hentry)

/-- Every placement gives a layout, if every label has a width. -/
theorem exists_solve_of_placement (h : Placement order distances scale anchor entries) :
    ∃ layout, solve order distances scale anchor labelWidths = .ok layout ∧
      layout.terminals = terminalsOf labelWidth entries := by
  obtain ⟨layout, hparts, hrow⟩ :=
    exists_ofParts (ne_nil_of_placement h) (assemble_of_placement hwidths h)
  refine ⟨layout, ?_, ?_⟩
  rotate_left
  · rw [hrow, Row.terminals_pushAll]
    rfl
  rw [solve, Outcome.bind_eq_ok_iff]
  exact ⟨_, solve_eq_ok_iff.2 ⟨entries, h, rfl⟩, hparts⟩

/-- There are no other layouts. -/
theorem exists_placement_of_solve {layout : Layout}
    (h : solve order distances scale anchor labelWidths = .ok layout) :
    ∃ entries, Placement order distances scale anchor entries ∧
      layout.terminals = terminalsOf labelWidth entries := by
  rw [solve, Outcome.bind_eq_ok_iff] at h
  obtain ⟨positions, hsolve, hparts⟩ := h
  obtain ⟨entries, hplacement, rfl⟩ := solve_eq_ok_iff.1 hsolve
  have hrow := (ofParts_eq_ok_iff.1 hparts).2
  rw [assemble_of_placement hwidths hplacement] at hrow
  refine ⟨entries, hplacement, ?_⟩
  rw [← Except.ok.inj hrow, Row.terminals_pushAll]
  rfl

end Widths

/-- With any label widths at all, a layout is missed by the solver or else by the first terminal
whose label has no width. -/
theorem solve_eq_error_iff {e : LayoutError} :
    solve order distances scale anchor labelWidths = .error e ↔
      Positions.solve order distances scale anchor = .error e ∨
        ∃ positions id, Positions.solve order distances scale anchor = .ok positions ∧
          withoutWidth? labelWidths order = some id ∧ e = .missingLabelWidth id := by
  cases hsolve : Positions.solve order distances scale anchor with
  | error cause => simp [solve, hsolve, bind, Except.bind]
  | ok positions =>
    have hparts : solve order distances scale anchor labelWidths =
        ofParts order positions labelWidths := by
      rw [solve, hsolve]
      rfl
    obtain ⟨entries, hplacement, rfl⟩ := solve_eq_ok_iff.1 hsolve
    have hassembling := assembling_of_placement hplacement
    have hne := ne_nil_of_placement hplacement
    rw [hparts, ofParts_eq_error_iff hne, ← hplacement.ids]
    cases hmissing : withoutWidth? labelWidths (entries.map Prod.fst) with
    | some id =>
      rw [hassembling.assemble_eq_missing hmissing]
      simp [eq_comm]
    | none =>
      obtain ⟨labelWidth, hwidths⟩ : ∃ labelWidth : String → Nat, ∀ entry ∈ entries,
          labelWidths.get? entry.1 = some (labelWidth entry.1) := by
        refine ⟨fun id => (labelWidths.get? id).getD 0, fun entry hentry => ?_⟩
        rw [withoutWidth?, List.find?_eq_none] at hmissing
        have hsome := hmissing entry.1 (List.mem_map_of_mem hentry)
        rw [Bool.not_eq_true, Option.isNone_eq_false_iff, Option.isSome_iff_exists] at hsome
        obtain ⟨width, hwidth⟩ := hsome
        simp only [hwidth, Option.getD_some]
      rw [hassembling.assemble_eq_ok hwidths]
      simp

end Layouts

end Piste.Diagram.Layout
