import Mathlib.Data.List.Nodup
import Piste.Proofs.Diagram.Painting
import Piste.Proofs.Diagram.Row
import Piste.Proofs.Outcome

/-!
# Wires

A connection names two terminals; its wire runs between their columns. `Layout.Joins` says this
without a look-up, and `resolve_eq_ok_iff` that the look-ups find exactly such wires.

The glyphs of a wire have a closed form. `Wire.glyphCount` columns are filled, more than there are
between the ends if a resistor needs them, and `Wire.glyphAt?` is the glyph in a column. The lemmas
on strokes say what a wire leaves in each of the four rows.
-/

namespace Piste.Diagram

/-! ## Looking terminals up -/

namespace Layout

variable {layout : Layout}

/-- `wire` runs between the two terminals that `connection` names. -/
def Joins (layout : Layout) (connection : Connection) (wire : Wire) : Prop :=
  ∃ i j a b, layout.terminals[i]? = some a ∧ a.id = connection.source ∧
    layout.terminals[j]? = some b ∧ b.id = connection.target ∧ i ≠ j ∧
    wire.left = min a.position b.position ∧ wire.right = max a.position b.position ∧
    wire.adjacent = decide (i + 1 = j ∨ j + 1 = i) ∧ wire.resistor = connection.resistor

theorem find_eq_ok_iff {id : String} {i : Nat} {terminal : Terminal} :
    layout.find id = .ok (i, terminal) ↔
      layout.terminals[i]? = some terminal ∧ terminal.id = id := by
  rw [← get?_eq_some_iff, find]
  cases layout.get? id with
  | none => simp
  | some found => simp

/-- A connection is resolved exactly if it names two different terminals. -/
theorem resolve_eq_ok_iff {connection : Connection} {wire : Wire} :
    layout.resolve connection = .ok wire ↔ layout.Joins connection wire := by
  rw [resolve, Outcome.bind_eq_ok_iff]
  constructor
  · rintro ⟨⟨i, a⟩, ha, h⟩
    obtain ⟨⟨j, b⟩, hb, h⟩ := Outcome.bind_eq_ok_iff.1 h
    obtain ⟨hi, hsource⟩ := find_eq_ok_iff.1 ha
    obtain ⟨hj, htarget⟩ := find_eq_ok_iff.1 hb
    dsimp only at h
    by_cases hij : i = j
    · rw [if_pos hij] at h
      cases h
    · rw [if_neg hij] at h
      cases h
      exact ⟨i, j, a, b, hi, hsource, hj, htarget, hij, rfl, rfl, rfl, rfl⟩
  · rintro ⟨i, j, a, b, hi, hsource, hj, htarget, hij, hleft, hright, hadjacent, hresistor⟩
    refine ⟨(i, a), find_eq_ok_iff.2 ⟨hi, hsource⟩, Outcome.bind_eq_ok_iff.2 ?_⟩
    refine ⟨(j, b), find_eq_ok_iff.2 ⟨hj, htarget⟩, ?_⟩
    obtain ⟨left, right, adjacent, resistor⟩ := wire
    dsimp only at hleft hright hadjacent hresistor ⊢
    rw [if_neg hij, ← hleft, ← hright, ← hadjacent, ← hresistor]

/-- Later terminals stand further right. -/
theorem position_lt {i j : Nat} {a b : Terminal} (hi : layout.terminals[i]? = some a)
    (hj : layout.terminals[j]? = some b) (hlt : i < j) : a.position < b.position := by
  obtain ⟨hilt, rfl⟩ := List.getElem?_eq_some_iff.1 hi
  obtain ⟨hjlt, rfl⟩ := List.getElem?_eq_some_iff.1 hj
  exact List.pairwise_iff_getElem.1 layout.increasing i j hilt hjlt hlt

/-- Terminals that stand further right come later. -/
theorem index_lt {i j : Nat} {a b : Terminal} (hi : layout.terminals[i]? = some a)
    (hj : layout.terminals[j]? = some b) (hlt : a.position < b.position) : i < j := by
  rcases Nat.lt_trichotomy i j with hij | rfl | hji
  · exact hij
  · rw [hi] at hj
    cases hj
    omega
  · have := position_lt hj hi hji
    omega

/-- The columns of a wire are those of two terminals of the layout, and they differ. -/
theorem Joins.left_lt_right {connection : Connection} {wire : Wire}
    (h : layout.Joins connection wire) : wire.left < wire.right := by
  obtain ⟨i, j, a, b, hi, -, hj, -, hij, hleft, hright, -⟩ := h
  rcases Nat.lt_or_gt_of_ne hij with hlt | hgt
  · have := position_lt hi hj hlt
    omega
  · have := position_lt hj hi hgt
    omega

/-- The last column is the greatest. -/
theorem position_le_maxPosition {terminal : Terminal} (hmem : terminal ∈ layout.terminals) :
    terminal.position ≤ layout.maxPosition := by
  obtain ⟨i, hi, rfl⟩ := List.getElem_of_mem hmem
  rw [maxPosition, List.getLast_eq_getElem]
  rcases Nat.lt_or_ge i (layout.terminals.length - 1) with hlt | hge
  · exact Nat.le_of_lt (List.pairwise_iff_getElem.1 layout.increasing _ _ hi (by omega) hlt)
  · have hindex : i = layout.terminals.length - 1 := by omega
    subst hindex
    exact Nat.le_refl _

theorem Joins.right_le_maxPosition {connection : Connection} {wire : Wire}
    (h : layout.Joins connection wire) : wire.right ≤ layout.maxPosition := by
  obtain ⟨i, j, a, b, hi, -, hj, -, -, -, hright, -⟩ := h
  rw [hright]
  exact Nat.max_le.2 ⟨position_le_maxPosition (List.mem_of_getElem? hi),
    position_le_maxPosition (List.mem_of_getElem? hj)⟩

/-- Every wire of a diagram joins two terminals. -/
theorem exists_joins_of_mem {connections : List Connection} {wires : List Wire}
    (hwires : List.Forall₂ layout.Joins connections wires) {wire : Wire} (hmem : wire ∈ wires) :
    ∃ connection, layout.Joins connection wire := by
  obtain ⟨i, hi, rfl⟩ := List.getElem_of_mem hmem
  exact ⟨_, hwires.get (by rw [hwires.length_eq]; exact hi) hi⟩

/-- A diagram is drawn if every connection has a wire. -/
theorem draw_eq_ok {connections : List Connection} {wires : List Wire}
    (hwires : List.Forall₂ layout.Joins connections wires) :
    layout.draw connections = .ok (layout.canvas.paint (layout.strokes wires)).lines := by
  rw [draw, Outcome.bind_eq_ok_iff]
  refine ⟨wires, Outcome.mapM_eq_ok_iff.2 ?_, rfl⟩
  exact hwires.imp fun _ _ hjoins => resolve_eq_ok_iff.2 hjoins

/-- Whatever is drawn has four lines. -/
theorem length_of_draw {connections : List Connection} {lines : List String}
    (h : layout.draw connections = .ok lines) : lines.length = rowCount := by
  rw [draw, Outcome.bind_eq_ok_iff] at h
  obtain ⟨wires, -, h⟩ := h
  cases h
  exact Canvas.length_lines _

end Layout

/-! ## The glyphs of a wire -/

/-- Number of glyphs in a gap: a resistor takes three columns in a narrower gap too. -/
def glyphCount (gap : Nat) (resistor : Bool) : Nat :=
  if resistor then max gap 3 else gap

/-- A wire is dashes, with the resistor in the middle, or left of it if the middle is between two
columns. -/
theorem getElem?_connectorGlyphs (gap : Nat) (resistor : Bool) (j : Nat) :
    (connectorGlyphs gap resistor)[j]? =
      if j < glyphCount gap resistor then
        some (if resistor = true ∧ j = (glyphCount gap resistor - 1) / 2 then 'R' else '-')
      else none := by
  cases resistor with
  | false => simp [connectorGlyphs, glyphCount, wireGlyph, List.getElem?_replicate]
  | true =>
    have hcount : glyphCount gap true = gap - 3 + 3 := by
      simp only [glyphCount, if_true]
      omega
    rw [hcount, connectorGlyphs, if_pos rfl]
    simp only [resistorGlyphs, List.length_cons, List.length_nil, wireGlyph]
    generalize gap - 3 = padding
    rcases Nat.lt_or_ge j (padding / 2) with hleft | hleft
    · rw [List.getElem?_append_left (by simp; omega), List.getElem?_append_left (by simpa using hleft),
        List.getElem?_replicate, if_pos hleft, if_pos (by omega), if_neg (by omega)]
    obtain ⟨k, rfl⟩ := Nat.exists_eq_add_of_le hleft
    rw [List.append_assoc, List.getElem?_append_right (by simp), List.length_replicate,
      Nat.add_sub_cancel_left]
    match k with
    | 0 =>
      rw [if_pos (by omega), if_neg (by omega)]
      rfl
    | 1 =>
      rw [if_pos (by omega), if_pos ⟨trivial, by omega⟩]
      rfl
    | 2 =>
      rw [if_pos (by omega), if_neg (by omega)]
      rfl
    | k + 3 =>
      rw [List.getElem?_append_right (by simp)]
      simp only [List.length_cons, List.length_nil, Nat.add_sub_cancel, List.getElem?_replicate]
      rcases Nat.lt_or_ge k (padding - padding / 2) with hright | hright
      · rw [if_pos hright, if_pos (by omega), if_neg (by omega)]
      · rw [if_neg (by omega), if_neg (by omega)]

namespace Wire

/-- Number of glyphs of the wire. -/
def count (wire : Wire) : Nat :=
  glyphCount (wire.right - wire.left - 1) wire.resistor

/-- Number of columns between the ends of the wire. -/
def gap (wire : Wire) : Nat :=
  wire.right - wire.left - 1

theorem gap_le_count (wire : Wire) : wire.gap ≤ wire.count := by
  unfold gap count glyphCount
  split <;> omega

theorem count_le_max (wire : Wire) : wire.count ≤ max wire.gap 3 := by
  unfold gap count glyphCount
  split <;> omega

theorem count_of_resistor {wire : Wire} (hresistor : wire.resistor = true) :
    wire.count = max wire.gap 3 := by
  simp [count, glyphCount, hresistor, gap]

/-- A wire fills its gap and no more, if there is room for a resistor where it has one. -/
theorem count_eq_gap {wire : Wire} (hroom : wire.resistor = true → 3 ≤ wire.gap) :
    wire.count = wire.gap := by
  by_cases hresistor : wire.resistor = true
  · rw [count_of_resistor hresistor]
    exact Nat.max_eq_left (hroom hresistor)
  · simp [count, glyphCount, hresistor, gap]

/-- The glyph of the wire in a column. Its glyphs begin right of its left end. -/
def glyphAt? (wire : Wire) (column : Nat) : Option Char :=
  if wire.left + 1 ≤ column ∧ column < wire.left + 1 + wire.count then
    some (if wire.resistor = true ∧ column - (wire.left + 1) = (wire.count - 1) / 2 then 'R' else '-')
  else none

/-- A resistor may run past the right end of its wire, but not far. -/
theorem left_add_count_le {wire : Wire} (hlt : wire.left < wire.right) :
    wire.left + wire.count ≤ wire.right + 2 := by
  simp only [count, glyphCount]
  split <;> omega

/-! ## The strokes of a wire, row by row -/

/-- The glyphs of a wire stand in one row. -/
theorem findSomeRev?_glyphStrokes (wire : Wire) (strokeRow row column : Nat) :
    (wire.glyphStrokes strokeRow).findSomeRev? (Stroke.glyphAt? row column) =
      if strokeRow = row then wire.glyphAt? column else none := by
  rw [glyphStrokes, findSomeRev?_strokesFrom]
  by_cases hrow : strokeRow = row
  · rw [if_pos hrow, glyphAt?]
    by_cases hstart : wire.left + 1 ≤ column
    · have hindex : ((column : Int) - (wire.left + 1)).toNat = column - (wire.left + 1) := by omega
      rw [if_pos ⟨hrow, by omega⟩, hindex, getElem?_connectorGlyphs, ← count]
      by_cases hin : wire.left + 1 ≤ column ∧ column < wire.left + 1 + wire.count
      · rw [if_pos hin, if_pos (by omega)]
      · rw [if_neg hin, if_neg (by omega)]
    · rw [if_neg (by omega), if_neg (by omega)]
  · rw [if_neg hrow, if_neg (by tauto)]

/-- A riser stands in two rows. -/
theorem findSomeRev?_riserStrokes (riser row column : Nat) :
    (riserStrokes riser).findSomeRev? (Stroke.glyphAt? row column) =
      if (row = riserRow ∨ row = busRow) ∧ riser = column then some riserGlyph else none := by
  rw [riserStrokes, findSomeRev?_cons, findSomeRev?_cons]
  simp only [List.findSomeRev?, Option.none_or, Stroke.glyphAt?, Int.natCast_inj]
  by_cases hcolumn : riser = column
  · by_cases hriser : riserRow = row
    · subst hriser
      simp [hcolumn, riserRow, busRow]
    · by_cases hbus : busRow = row
      · subst hbus
        simp [hcolumn]
      · simp [hcolumn, hriser, hbus, Ne.symm hriser, Ne.symm hbus]
  · simp [hcolumn]

/-- Only a wire between neighbours is seen in the row of the labels, beside these. -/
theorem findSomeRev?_strokes_labelRow (terminals : List Terminal) (wire : Wire) (column : Nat) :
    (wire.strokes terminals).findSomeRev? (Stroke.glyphAt? labelRow column) =
      if wire.adjacent = true ∧ ¬∃ t ∈ terminals, t.Covers column then wire.glyphAt? column
      else none := by
  rw [strokes]
  by_cases hadjacent : wire.adjacent = true
  · rw [if_pos hadjacent, findSomeRev?_filter_column
      (fun other => terminals.all fun terminal => ¬terminal.Covers other),
      findSomeRev?_glyphStrokes, if_pos rfl]
    by_cases hcovered : ∃ t ∈ terminals, t.Covers column
    · rw [if_neg (by simpa using hcovered), if_neg fun h => h.2 hcovered]
    · rw [if_pos (by simpa using hcovered), if_pos ⟨hadjacent, hcovered⟩]
  · rw [if_neg hadjacent, if_neg (by tauto), findSomeRev?_append, findSomeRev?_append,
      findSomeRev?_glyphStrokes, findSomeRev?_riserStrokes, findSomeRev?_riserStrokes]
    rfl

/-- Below the labels nothing is seen of a wire between neighbours. -/
theorem findSomeRev?_strokes_of_adjacent {terminals : List Terminal} {wire : Wire} {row : Nat}
    (hadjacent : wire.adjacent = true) (hrow : row ≠ labelRow) (column : Nat) :
    (wire.strokes terminals).findSomeRev? (Stroke.glyphAt? row column) = none := by
  rw [strokes, if_pos hadjacent, findSomeRev?_filter_column
    (fun other => terminals.all fun terminal => ¬terminal.Covers other),
    findSomeRev?_glyphStrokes, if_neg hrow.symm, ite_self]

/-- Of any other wire the ends are seen in the row of the risers. -/
theorem findSomeRev?_strokes_riserRow {terminals : List Terminal} {wire : Wire}
    (hadjacent : wire.adjacent = false) (column : Nat) :
    (wire.strokes terminals).findSomeRev? (Stroke.glyphAt? riserRow column) =
      if wire.left = column ∨ wire.right = column then some riserGlyph else none := by
  rw [strokes, if_neg (by simp [hadjacent]), findSomeRev?_append, findSomeRev?_append,
    findSomeRev?_glyphStrokes, findSomeRev?_riserStrokes, findSomeRev?_riserStrokes,
    if_neg (by decide), Option.none_or]
  by_cases hleft : wire.left = column <;> by_cases hright : wire.right = column <;>
    simp [hleft, hright]

/-- In the row below, its glyphs are seen before its ends. -/
theorem findSomeRev?_strokes_busRow {terminals : List Terminal} {wire : Wire}
    (hadjacent : wire.adjacent = false) (column : Nat) :
    (wire.strokes terminals).findSomeRev? (Stroke.glyphAt? busRow column) =
      (wire.glyphAt? column).or
        (if wire.left = column ∨ wire.right = column then some riserGlyph else none) := by
  rw [strokes, if_neg (by simp [hadjacent]), findSomeRev?_append, findSomeRev?_append,
    findSomeRev?_glyphStrokes, findSomeRev?_riserStrokes, findSomeRev?_riserStrokes, if_pos rfl]
  by_cases hleft : wire.left = column <;> by_cases hright : wire.right = column <;>
    simp [hleft, hright]

/-- The lowest row stays free. -/
theorem findSomeRev?_strokes_of_busRow_lt (terminals : List Terminal) (wire : Wire) {row : Nat}
    (hrow : busRow < row) (column : Nat) :
    (wire.strokes terminals).findSomeRev? (Stroke.glyphAt? row column) = none := by
  have hlabel : row ≠ labelRow := by
    rintro rfl
    exact absurd hrow (by decide)
  have hriser : row ≠ riserRow := by
    rintro rfl
    exact absurd hrow (by decide)
  by_cases hadjacent : wire.adjacent = true
  · exact findSomeRev?_strokes_of_adjacent hadjacent hlabel column
  · rw [strokes, if_neg hadjacent, findSomeRev?_append, findSomeRev?_append,
      findSomeRev?_glyphStrokes, findSomeRev?_riserStrokes, findSomeRev?_riserStrokes,
      if_neg (Nat.ne_of_lt hrow), if_neg (by omega), if_neg (by omega)]
    rfl

end Wire

/-- The glyphs of a wire may run past the last terminal, but not far. -/
theorem Layout.Joins.left_add_count_le {layout : Layout} {connection : Connection} {wire : Wire}
    (hjoins : layout.Joins connection wire) : wire.left + wire.count ≤ layout.maxPosition + 2 := by
  have hcount := Wire.left_add_count_le hjoins.left_lt_right
  have hright := hjoins.right_le_maxPosition
  omega

end Piste.Diagram
