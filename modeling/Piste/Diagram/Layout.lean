import Piste.Diagram.Positions

/-!
# Layouts

Terminals in display order, each with its column and the width of its label. A layout has at least
one terminal; its terminals have different ids and stand at increasing columns, none beyond the last
one. `Layout.ofParts` builds a layout from columns that are known, `Layout.solve` from distances.

Beside the terminals a layout keeps the index of every id. Both grow together, one terminal after the
other, and `Row.Sound.indexed` says how they are tied. `Row.Sound.push` is one step of this,
`sound_of_assemble` all of them. So every index that is looked up is one of a terminal.
-/

namespace Piste.Diagram

/-- A number as one of 64 signed bits, which it wraps around to. -/
def signed64 (n : Int) : Int :=
  Int.bmod n 0x10000000000000000

/-- A terminal at its column. -/
structure Terminal where
  id : String
  labelWidth : Nat
  position : Nat
  deriving DecidableEq, Repr

namespace Terminal

/-- First column of the label, which is centred on the terminal and may begin left of the canvas. -/
def labelStart (terminal : Terminal) : Int :=
  signed64 (signed64 terminal.position - signed64 (terminal.labelWidth / 2 : Nat))

/-- Column behind the label. -/
def labelEnd (terminal : Terminal) : Int :=
  signed64 (terminal.labelStart + signed64 terminal.labelWidth)

/-- Whether a column lies within the label. -/
def Covers (terminal : Terminal) (column : Int) : Prop :=
  terminal.labelStart ≤ column ∧ column < terminal.labelEnd

instance (terminal : Terminal) (column : Int) : Decidable (terminal.Covers column) :=
  inferInstanceAs (Decidable (_ ∧ _))

end Terminal

/-- Terminals in display order, and the index of each id among them. -/
structure Row where
  terminals : List Terminal
  index : Table String Nat

namespace Row

/-- A row without terminals. -/
def empty : Row := ⟨[], ∅⟩

/-- Adds a terminal at the end. Its index is the number of terminals before it. -/
def push (row : Row) (terminal : Terminal) : Row where
  terminals := row.terminals ++ [terminal]
  index := row.index.insert terminal.id row.terminals.length

/-- What holds of a row whose terminals have been placed one after the other. -/
structure Sound (row : Row) : Prop where
  increasing : row.terminals.Pairwise fun a b => a.position < b.position
  distinct : (row.terminals.map Terminal.id).Nodup
  bounded : ∀ t ∈ row.terminals, t.position ≤ maxColumn
  /-- An id has the index at which it stands in the row, and other ids have none. -/
  indexed : ∀ id i, row.index.get? id = some i ↔ (row.terminals.map Terminal.id)[i]? = some id

variable {row : Row} {terminal : Terminal} {id : String}

theorem sound_empty : empty.Sound :=
  ⟨.nil, .nil, by simp [empty], fun _ _ => ⟨nofun, nofun⟩⟩

theorem Sound.get?_eq_none_iff (h : row.Sound) :
    row.index.get? id = none ↔ id ∉ row.terminals.map Terminal.id := by
  rw [Option.eq_none_iff_forall_ne_some, List.mem_iff_getElem?, not_exists]
  exact forall_congr' fun i => not_congr (h.indexed id i)

/-- No index is out of range. -/
theorem Sound.lt_of_get? (h : row.Sound) {i : Nat} (hindex : row.index.get? id = some i) :
    i < row.terminals.length := by
  obtain ⟨hlt, -⟩ := List.getElem?_eq_some_iff.1 ((h.indexed id i).1 hindex)
  rwa [List.length_map] at hlt

theorem getElem?_concat_eq_some_iff {names : List String} {name other : String} {i : Nat} :
    (names ++ [name])[i]? = some other ↔
      names[i]? = some other ∨ i = names.length ∧ name = other := by
  rw [List.getElem?_append]
  split
  · rename_i hlt
    simp [Nat.ne_of_lt hlt]
  · rename_i hle
    rw [List.getElem?_singleton, List.getElem?_eq_none (Nat.not_lt.1 hle)]
    have hlast : i - names.length = 0 ↔ i = names.length := by omega
    simp [hlast]

/-- The index that a new id gets is that of its terminal, and the other ids keep theirs. -/
theorem Sound.indexed_push (h : row.Sound) (hid : terminal.id ∉ row.terminals.map Terminal.id)
    (other : String) (i : Nat) :
    (row.push terminal).index.get? other = some i ↔
      ((row.push terminal).terminals.map Terminal.id)[i]? = some other := by
  rw [Row.push, Table.get?_insert, List.map_append, List.map_singleton,
    getElem?_concat_eq_some_iff, List.length_map]
  by_cases hsame : other = terminal.id
  · rw [if_pos hsame, hsame]
    constructor
    · intro hi
      exact Or.inr ⟨(Option.some.inj hi).symm, rfl⟩
    · rintro (hi | ⟨rfl, -⟩)
      · exact absurd (List.mem_of_getElem? hi) hid
      · rfl
  · rw [if_neg hsame, h.indexed, or_iff_left]
    rintro ⟨-, rfl⟩
    exact hsame rfl

/-- All terminals stand left of one that is right of the last. -/
theorem Sound.lt_of_last (h : row.Sound) {column : Nat}
    (hlast : ∀ last ∈ row.terminals.getLast?, last.position < column) :
    ∀ t ∈ row.terminals, t.position < column := by
  intro t ht
  rcases List.eq_nil_or_concat row.terminals with hnil | ⟨before, last, hrow⟩
  · rw [hnil] at ht
    cases ht
  rw [List.concat_eq_append] at hrow
  have hincreasing := h.increasing
  rw [hrow] at ht hincreasing hlast
  have hfinal : last.position < column := hlast last (by simp)
  rcases List.mem_append.1 ht with ht | ht
  · exact Nat.lt_trans ((List.pairwise_append.1 hincreasing).2.2 t ht last (by simp)) hfinal
  · rwa [List.mem_singleton.1 ht]

/-- A row stays sound when a terminal with a new id is added right of the last one. -/
theorem Sound.push (h : row.Sound) (hid : row.index.get? terminal.id = none)
    (hbounded : terminal.position ≤ maxColumn)
    (hlast : ∀ last ∈ row.terminals.getLast?, last.position < terminal.position) :
    (row.push terminal).Sound := by
  rw [h.get?_eq_none_iff] at hid
  refine ⟨?_, ?_, ?_, h.indexed_push hid⟩
  · refine List.pairwise_append.2 ⟨h.increasing, List.pairwise_singleton _ _, ?_⟩
    intro t ht other hother
    rw [List.mem_singleton.1 hother]
    exact h.lt_of_last hlast t ht
  · rw [Row.push, List.map_append, List.map_singleton]
    refine List.nodup_append.2 ⟨h.distinct, by simp, ?_⟩
    intro a ha b hb hab
    rw [List.mem_singleton.1 hb] at hab
    exact hid (hab ▸ ha)
  · intro t ht
    rcases List.mem_append.1 ht with ht | ht
    · exact h.bounded t ht
    · rwa [List.mem_singleton.1 ht]

end Row

/-- A row of at least one terminal. -/
structure Layout extends Row where
  nonempty : terminals ≠ []
  sound : toRow.Sound

namespace Layout

theorem increasing (layout : Layout) :
    layout.terminals.Pairwise fun a b => a.position < b.position :=
  layout.sound.increasing

theorem distinct (layout : Layout) : (layout.terminals.map Terminal.id).Nodup :=
  layout.sound.distinct

theorem bounded (layout : Layout) : ∀ t ∈ layout.terminals, t.position ≤ maxColumn :=
  layout.sound.bounded

/-- The next terminal after those of a row. -/
def place (positions : Positions) (labelWidths : Table String Nat) (row : Row) (id : String) :
    Except LayoutError Terminal :=
  match positions.get? id, labelWidths.get? id with
  | none, _ => .error (.unknownTerminal id)
  | some _, none => .error (.missingLabelWidth id)
  | some position, some labelWidth =>
    if maxColumn < position then .error (.tooWide id position)
    else if row.index.contains id then .error (.duplicateTerminal id)
    else match row.terminals.getLast? with
      | none => .ok { id, labelWidth, position }
      | some last =>
        if position ≤ last.position then
          .error (.nonPositiveStep last.id id ((position : Int) - last.position))
        else .ok { id, labelWidth, position }

/-- A row with the terminals of some ids added. -/
def assemble (positions : Positions) (labelWidths : Table String Nat) (row : Row) :
    List String → Except LayoutError Row
  | [] => .ok row
  | id :: rest => do
    let terminal ← place positions labelWidths row id
    assemble positions labelWidths (row.push terminal) rest

section Assembly

variable {positions : Positions} {labelWidths : Table String Nat} {row final : Row} {id : String}
  {order rest : List String} {terminal : Terminal}

/-- A terminal that can be placed has the id, column and width asked for and passes every check. -/
theorem place_eq_ok_iff :
    place positions labelWidths row id = .ok terminal ↔
      terminal.id = id ∧ positions.get? id = some terminal.position ∧
        labelWidths.get? id = some terminal.labelWidth ∧ terminal.position ≤ maxColumn ∧
        row.index.get? id = none ∧
        ∀ last ∈ row.terminals.getLast?, last.position < terminal.position := by
  obtain ⟨tid, width, column⟩ := terminal
  unfold place
  rcases hp : positions.get? id with _ | position
  · simp
  rcases hw : labelWidths.get? id with _ | labelWidth
  · simp
  simp only
  by_cases hcolumn : maxColumn < position
  · simp only [hcolumn, if_true]
    constructor
    · intro h; cases h
    · rintro ⟨-, hc, -, hle, -⟩
      cases hc
      omega
  by_cases hid : row.index.contains id = true
  · have hsome : row.index.get? id ≠ none := Option.isSome_iff_ne_none.1 hid
    simp [hcolumn, hid, hsome]
  have hnone : row.index.get? id = none := by
    rwa [Table.contains, Bool.not_eq_true, Option.isSome_eq_false_iff, Option.isNone_iff_eq_none]
      at hid
  rcases hl : row.terminals.getLast? with _ | last
  · simp only [hcolumn, hid, if_false]
    constructor
    · intro h
      cases h
      exact ⟨rfl, rfl, rfl, by omega, hnone, by simp⟩
    · rintro ⟨rfl, hc, hw', -⟩
      cases hc
      cases hw'
      rfl
  · simp only [hcolumn, hid, if_false]
    by_cases hlast : position ≤ last.position
    · simp only [hlast, if_true]
      constructor
      · intro h; cases h
      · rintro ⟨-, hc, -, -, -, hlt⟩
        cases hc
        have := hlt last rfl
        omega
    · simp only [hlast, if_false]
      constructor
      · intro h
        cases h
        refine ⟨rfl, rfl, rfl, by omega, hnone, ?_⟩
        intro l hl'
        cases hl'
        omega
      · rintro ⟨rfl, hc, hw', -⟩
        cases hc
        cases hw'
        rfl

theorem assemble_cons_eq_ok
    (h : assemble positions labelWidths row (id :: rest) = .ok final) :
    ∃ terminal, place positions labelWidths row id = .ok terminal ∧
      assemble positions labelWidths (row.push terminal) rest = .ok final := by
  rw [assemble] at h
  rcases hp : place positions labelWidths row id with e | terminal
  · rw [hp] at h; cases h
  · rw [hp] at h
    exact ⟨terminal, rfl, h⟩

/-- Placing a terminal keeps a row sound. -/
theorem sound_of_place (h : row.Sound)
    (hplace : place positions labelWidths row id = .ok terminal) : (row.push terminal).Sound := by
  obtain ⟨rfl, -, -, hbounded, hid, hlast⟩ := place_eq_ok_iff.1 hplace
  exact h.push hid hbounded hlast

/-- And so does placing one after the other. -/
theorem sound_of_assemble (h : row.Sound)
    (hassemble : assemble positions labelWidths row order = .ok final) : final.Sound := by
  induction order generalizing row with
  | nil => cases hassemble; exact h
  | cons id rest ih =>
    obtain ⟨terminal, hplace, hrest⟩ := assemble_cons_eq_ok hassemble
    exact ih (sound_of_place h hplace) hrest

theorem map_id_of_assemble (hassemble : assemble positions labelWidths row order = .ok final) :
    final.terminals.map Terminal.id = row.terminals.map Terminal.id ++ order := by
  induction order generalizing row with
  | nil => cases hassemble; simp
  | cons id rest ih =>
    obtain ⟨terminal, hplace, hrest⟩ := assemble_cons_eq_ok hassemble
    rw [ih hrest, Row.push, List.map_append, List.map_singleton, (place_eq_ok_iff.1 hplace).1,
      List.append_assoc, List.singleton_append]

end Assembly

/-- The layout of the terminals in `order`, with columns and label widths from two tables. -/
def ofParts (order : List String) (positions : Positions) (labelWidths : Table String Nat) :
    Except LayoutError Layout :=
  if hne : order = [] then .error .noTerminals
  else match h : assemble positions labelWidths .empty order with
    | .error e => .error e
    | .ok row => .ok {
        toRow := row
        nonempty := fun hnil => hne (by simpa [hnil, Row.empty] using (map_id_of_assemble h).symm)
        sound := sound_of_assemble Row.sound_empty h }

/-- The layout of the terminals in `order`, with columns from the distances between them. -/
def solve (order : List String) (distances : DistanceTable) (scale : Float) (anchor : Anchor)
    (labelWidths : Table String Nat) : Except LayoutError Layout := do
  let positions ← Positions.solve order distances scale anchor
  ofParts order positions labelWidths

/-- A terminal with its index in display order. -/
def get? (layout : Layout) (id : String) : Option (Nat × Terminal) :=
  match h : layout.index.get? id with
  | none => none
  | some i => some (i, layout.terminals.get ⟨i, layout.sound.lt_of_get? h⟩)

/-- The greatest column, that of the last terminal. -/
def maxPosition (layout : Layout) : Nat :=
  (layout.terminals.getLast layout.nonempty).position

/-- Number of terminals. -/
def size (layout : Layout) : Nat :=
  layout.terminals.length

end Layout

end Piste.Diagram
