import Mathlib.Data.Nat.Digits.Defs
import Mathlib.Order.Bounds.Basic
import Piste.Command.Positions
import Piste.Proofs.Diagram.Row
import Piste.Proofs.Text.Rendition

/-!
# The table of positions

The table has an entry for every terminal, in display order, and its columns are aligned: ids are
padded to the longest of them, and four characters are enough for every column of a layout
(`table_aligned`). The label of the anchor is in bold together with its padding, and no other label
is.
-/

namespace Piste

open Diagram Text

/-! ## Entries -/

/-- As many blanks as `count` says. -/
def blanks (count : Nat) : String :=
  String.ofList (List.replicate count ' ')

theorem length_blanks (count : Nat) : (blanks count).length = count := by
  rw [blanks, String.length_ofList, List.length_replicate]

/-- An entry of the table. -/
structure TableEntry where
  terminal : Terminal
  /-- Number of blanks after the id. -/
  padding : Nat
  /-- Number of blanks before the column. -/
  indent : Nat

namespace TableEntry

/-- The id with its padding. -/
def label (entry : TableEntry) : String :=
  entry.terminal.id ++ blanks entry.padding

/-- The column, aligned right. -/
def column (entry : TableEntry) : String :=
  blanks entry.indent ++ toString entry.terminal.position

/-- The label width. -/
def width (entry : TableEntry) : String :=
  "w=" ++ toString entry.terminal.labelWidth

/-- The entry without styles. -/
def plain (entry : TableEntry) : String :=
  entry.label ++ "  " ++ entry.column ++ "  " ++ entry.width ++ "\n"

/-- The entry as it goes to the terminal. -/
def styled (anchor : String) (entry : TableEntry) : String :=
  (if entry.terminal.id = anchor then Style.bold.apply entry.label else entry.label) ++ "  " ++
    entry.column ++ "  " ++ Style.dimmed.apply entry.width ++ "\n"

/-- Whether the parts of the entry begin and end where they do in every other entry. -/
structure Aligned (idWidth : Nat) (entry : TableEntry) : Prop where
  label : entry.label.length = idWidth
  column : entry.column.length = 4
  columnEnd : (entry.label ++ "  " ++ entry.column).length = idWidth + 6

end TableEntry

namespace Diagram.Layout

variable (layout : Layout) (anchor : String)

/-- The entry of a terminal. -/
def entry (terminal : Terminal) : TableEntry where
  terminal
  padding := layout.idWidth - terminal.id.length
  indent := 4 - (toString terminal.position).length

/-! ## Alignment -/

/-- Ids are as wide as the longest of them. -/
theorem isGreatest_idWidth :
    IsGreatest {n | ∃ terminal ∈ layout.terminals, terminal.id.length = n} layout.idWidth := by
  have hne : layout.terminals.map (fun t => t.id.length) ≠ [] := by
    rw [ne_eq, List.map_eq_nil_iff]
    exact layout.nonempty
  obtain ⟨width, hwidth⟩ := Option.isSome_iff_exists.1 (List.isSome_max?_of_ne_nil hne)
  have hfold : layout.idWidth = width := by
    rw [idWidth, List.foldl_max, hwidth, Option.getD_some, Nat.zero_max]
  obtain ⟨hmem, hle⟩ := List.max?_eq_some_iff.1 hwidth
  rw [hfold]
  constructor
  · exact List.mem_map.1 hmem
  · rintro _ ⟨terminal, hterminal, rfl⟩
    exact hle _ (List.mem_map_of_mem hterminal)

/-- The last column of a canvas has four digits. -/
theorem length_position_le {terminal : Terminal} (hterminal : terminal ∈ layout.terminals) :
    (toString terminal.position).length ≤ 4 := by
  have hbound : terminal.position ≤ 4096 := layout.bounded terminal hterminal
  exact Nat.repr_length terminal.position 4 (by omega) (by omega)

theorem aligned_entry {terminal : Terminal} (hterminal : terminal ∈ layout.terminals) :
    (layout.entry terminal).Aligned layout.idWidth := by
  have hid : terminal.id.length ≤ layout.idWidth :=
    layout.isGreatest_idWidth.2 ⟨terminal, hterminal, rfl⟩
  have hposition := layout.length_position_le hterminal
  have hlabel : (layout.entry terminal).label.length = layout.idWidth := by
    simp only [TableEntry.label, entry, String.length_append, length_blanks]
    omega
  have hcolumn : (layout.entry terminal).column.length = 4 := by
    simp only [TableEntry.column, entry, String.length_append, length_blanks]
    omega
  refine ⟨hlabel, hcolumn, ?_⟩
  rw [String.length_append, String.length_append, hlabel, hcolumn]
  rfl

/-! ## The text of the table -/

/-- The line of a terminal in the table is its entry. -/
theorem tableLine_eq (terminal : Terminal) :
    layout.tableLine anchor terminal =
      let entry := layout.entry terminal
      [if terminal.id = anchor then Style.bold.span entry.label else entry.label,
        "  " ++ entry.column ++ "  ", Style.dimmed.span entry.width, "\n"] :=
  rfl

theorem glyphs_tableLine (terminal : Terminal) :
    glyphs (layout.tableLine anchor terminal) = (layout.entry terminal).plain.toList := by
  rw [tableLine_eq, TableEntry.plain]
  split <;> simp [glyphs, Span.plain, Style.span]

theorem renderSpans_tableLine (terminal : Terminal) :
    renderSpans (layout.tableLine anchor terminal) = (layout.entry terminal).styled anchor := by
  have hterminal : (layout.entry terminal).terminal = terminal := rfl
  rw [tableLine_eq, TableEntry.styled, hterminal]
  split <;> simp [renderSpans, Span.render, Span.plain, Style.span, String.append_assoc]

theorem renderSpans_table :
    renderSpans (layout.table anchor) =
      String.join (layout.terminals.map fun terminal =>
        renderSpans (layout.tableLine anchor terminal)) := by
  rw [← String.toList_inj, table]
  simp only [renderSpans, String.toList_join, List.flatMap_map, List.flatMap_assoc]

/-- The table is complete and aligned. Without styles it shows the ids, the columns, which all end
at the same place, and the label widths; the label of the anchor is in bold, if it is a terminal. -/
theorem table_aligned :
    ∃ (idWidth : Nat) (entries : List TableEntry),
      IsGreatest {n | ∃ terminal ∈ layout.terminals, terminal.id.length = n} idWidth ∧
      entries.map TableEntry.terminal = layout.terminals ∧
      (∀ entry ∈ entries, entry.Aligned idWidth) ∧
      glyphs (layout.table anchor) = (String.join (entries.map TableEntry.plain)).toList ∧
      renderSpans (layout.table anchor) = String.join (entries.map (TableEntry.styled anchor)) ∧
      (entries.map fun entry => entry.terminal.id).count anchor =
        if anchor ∈ layout.terminals.map Terminal.id then 1 else 0 := by
  refine ⟨layout.idWidth, layout.terminals.map layout.entry, layout.isGreatest_idWidth, ?_, ?_, ?_,
    ?_, ?_⟩
  · rw [List.map_map]
    exact List.map_id _
  · intro entry hentry
    obtain ⟨terminal, hterminal, rfl⟩ := List.mem_map.1 hentry
    exact layout.aligned_entry hterminal
  · rw [String.toList_join, List.map_map, List.flatMap_map, table, glyphs, List.flatMap_assoc]
    exact congrArg (List.flatMap · _) (funext (layout.glyphs_tableLine anchor))
  · rw [renderSpans_table, List.map_map]
    exact congrArg (fun line => String.join (layout.terminals.map line))
      (funext (layout.renderSpans_tableLine anchor))
  · rw [List.map_map]
    exact List.Nodup.count layout.distinct

/-- The ids `A` and `Piste`, of which the second is the anchor. -/
example :
    let layout : Layout := .ofTerminals [⟨"A", 1, 40⟩, ⟨"Piste", 5, 50⟩]
      (by decide) (by decide) (by decide) (by decide)
    glyphs (layout.table "Piste") = "A        40  w=1\nPiste    50  w=5\n".toList := by
  decide

end Diagram.Layout

end Piste
