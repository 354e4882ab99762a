import Mathlib.Order.Bounds.Basic
import Piste.Proofs.Diagram.Assembly
import Piste.Proofs.Diagram.Wires

/-!
# Layouts of given columns

A layout is made of an order of ids and two tables, one with their columns and one with the widths
of their labels. `Admissible` says of these, as a whole, what a layout needs. `Refusal` says what is
wrong with one id that follows others, in the order in which the checks are made.

* `Placed` ties a row of terminals to the ids that they were placed for. `place_eq_error_iff` and
  `Placed.step` are one step of the assembly.
* `assemble_eq_error_iff` and `Placed.assemble` are all steps: they end at the first id that is
  refused, or they place all ids and the order was admissible.
* `Represents` says what a layout knows about the order that it is made of. Its indices are those of
  the order, which comes of the invariant of its row.

The result is `ofParts_ok_iff_admissible`.
-/

namespace Piste.Diagram.Layout

section Order

variable (positions : Positions) (labelWidths : Table String Nat)

/-- The ids can be placed in this order: each has a column on the canvas and a label width, none
repeats, and the columns increase. -/
structure Admissible (order : List String) : Prop where
  placed : ∀ id ∈ order, ∃ column, positions.get? id = some column ∧ column ≤ maxColumn
  labelled : ∀ id ∈ order, ∃ width, labelWidths.get? id = some width
  distinct : order.Nodup
  increasing : order.Pairwise fun left right =>
    ∀ a ∈ positions.get? left, ∀ b ∈ positions.get? right, a < b

/-- Why an id cannot follow the ones before it. An id that is among them is refused as such,
wherever its column lies. -/
inductive Refusal (before : List String) (id : String) : LayoutError → Prop where
  | unknown (hcolumn : positions.get? id = none) : Refusal before id (.unknownTerminal id)
  | unlabelled {column : Nat} (hcolumn : positions.get? id = some column)
      (hwidth : labelWidths.get? id = none) : Refusal before id (.missingLabelWidth id)
  | tooWide {column width : Nat} (hcolumn : positions.get? id = some column)
      (hwidth : labelWidths.get? id = some width) (hwide : maxColumn < column) :
    Refusal before id (.tooWide id column)
  | duplicate {column width : Nat} (hcolumn : positions.get? id = some column)
      (hwidth : labelWidths.get? id = some width) (hbounded : column ≤ maxColumn)
      (hid : id ∈ before) : Refusal before id (.duplicateTerminal id)
  | tooClose {column width previous : Nat} {last : String}
      (hcolumn : positions.get? id = some column) (hwidth : labelWidths.get? id = some width)
      (hbounded : column ≤ maxColumn) (hid : id ∉ before) (hlast : before.getLast? = some last)
      (hprevious : positions.get? last = some previous) (hclose : column ≤ previous) :
    Refusal before id (.nonPositiveStep last id ((column : Int) - previous))

/-- What is wrong with the first id that cannot be placed. -/
def FirstRefusal (order : List String) (e : LayoutError) : Prop :=
  ∃ before id after, order = before ++ id :: after ∧ Admissible positions labelWidths before ∧
    Refusal positions labelWidths before id e

/-- `row` has the terminals of the ids in `before`. -/
structure Placed (before : List String) (row : Row) : Prop where
  sound : row.Sound
  ids : row.terminals.map Terminal.id = before
  columns : ∀ terminal ∈ row.terminals, positions.get? terminal.id = some terminal.position
  widths : ∀ terminal ∈ row.terminals, labelWidths.get? terminal.id = some terminal.labelWidth

/-- What a layout knows of the order and the tables that it is made of. -/
structure Represents (layout : Layout) (order : List String) : Prop where
  ids : layout.terminals.map Terminal.id = order
  columns : ∀ terminal ∈ layout.terminals, positions.get? terminal.id = some terminal.position
  widths : ∀ terminal ∈ layout.terminals, labelWidths.get? terminal.id = some terminal.labelWidth
  /-- The index of an id is its place in the order, -/
  indexed : ∀ id i, layout.index.get? id = some i ↔ order[i]? = some id
  /-- which is the place of a terminal. -/
  inRange : ∀ id i, layout.index.get? id = some i → i < layout.terminals.length
  found : ∀ id i terminal, layout.get? id = some (i, terminal) ↔
    order[i]? = some id ∧ layout.terminals[i]? = some terminal
  notFound : ∀ id, layout.get? id = none ↔ id ∉ order
  size : layout.size = order.length
  greatest : IsGreatest {column | ∃ terminal ∈ layout.terminals, terminal.position = column}
    layout.maxPosition

end Order

variable {positions : Positions} {labelWidths : Table String Nat} {before order rest : List String}
  {row final : Row} {id : String} {e : LayoutError}

/-! ## One step -/

theorem admissible_nil : Admissible positions labelWidths [] :=
  ⟨by simp, by simp, .nil, .nil⟩

theorem placed_nil : Placed positions labelWidths [] .empty :=
  ⟨Row.sound_empty, rfl, by simp [Row.empty], by simp [Row.empty]⟩

/-- The id placed last is that of the last terminal. -/
theorem Placed.getLast? (h : Placed positions labelWidths before row) :
    before.getLast? = row.terminals.getLast?.map Terminal.id := by
  rw [← h.ids, List.getLast?_map]

/-- The ids that have an index are those that have been placed. -/
theorem Placed.contains_iff (h : Placed positions labelWidths before row) :
    row.index.contains id = true ↔ id ∈ before := by
  rw [Table.contains, Option.isSome_iff_ne_none, ne_eq, h.sound.get?_eq_none_iff, Decidable.not_not,
    h.ids]

/-- The checks are made in the order of `Refusal`, so an id that is not placed fails one of them and
passes those before it. -/
theorem Placed.refusal_of_place (h : Placed positions labelWidths before row)
    (hplace : place positions labelWidths row id = .error e) :
    Refusal positions labelWidths before id e := by
  unfold place at hplace
  rcases hcolumn : positions.get? id with _ | column
  · simp only [hcolumn] at hplace
    cases hplace
    exact .unknown hcolumn
  rcases hwidth : labelWidths.get? id with _ | width
  · simp only [hcolumn, hwidth] at hplace
    cases hplace
    exact .unlabelled hcolumn hwidth
  simp only [hcolumn, hwidth] at hplace
  split at hplace
  · rename_i hwide
    cases hplace
    exact .tooWide hcolumn hwidth hwide
  rename_i hbounded
  rw [Nat.not_lt] at hbounded
  split at hplace
  · rename_i hid
    cases hplace
    exact .duplicate hcolumn hwidth hbounded (h.contains_iff.1 hid)
  rename_i hid
  rw [h.contains_iff] at hid
  split at hplace
  · cases hplace
  rename_i last hlast
  split at hplace
  · rename_i hclose
    cases hplace
    have hprevious := h.columns last (List.mem_of_getLast? hlast)
    refine .tooClose hcolumn hwidth hbounded hid ?_ hprevious hclose
    rw [h.getLast?, hlast, Option.map_some]
  · cases hplace

theorem Placed.place_of_refusal (h : Placed positions labelWidths before row)
    (hrefusal : Refusal positions labelWidths before id e) :
    place positions labelWidths row id = .error e := by
  unfold place
  cases hrefusal with
  | unknown hcolumn => simp only [hcolumn]
  | unlabelled hcolumn hwidth => simp only [hcolumn, hwidth]
  | tooWide hcolumn hwidth hwide => simp only [hcolumn, hwidth, if_pos hwide]
  | duplicate hcolumn hwidth hbounded hid =>
    simp only [hcolumn, hwidth, if_neg (Nat.not_lt.2 hbounded), if_pos (h.contains_iff.2 hid)]
  | tooClose hcolumn hwidth hbounded hid hlast hprevious hclose =>
    obtain ⟨last, hhead, rfl⟩ := Option.map_eq_some_iff.1 (h.getLast?.symm.trans hlast)
    rw [h.columns last (List.mem_of_getLast? hhead)] at hprevious
    cases hprevious
    simp only [hcolumn, hwidth, if_neg (Nat.not_lt.2 hbounded), if_neg (mt h.contains_iff.1 hid),
      hhead, if_pos hclose]

theorem place_eq_error_iff (h : Placed positions labelWidths before row) :
    place positions labelWidths row id = .error e ↔
      Refusal positions labelWidths before id e :=
  ⟨h.refusal_of_place, h.place_of_refusal⟩

/-- An order with an id that is refused is not admissible, whatever follows. -/
theorem Refusal.not_admissible (h : Refusal positions labelWidths before id e) :
    ¬Admissible positions labelWidths (before ++ id :: rest) := by
  rintro ⟨hplaced, hlabelled, hdistinct, hincreasing⟩
  have hmem : id ∈ before ++ id :: rest := by simp
  obtain ⟨column, hcolumn, hbounded⟩ := hplaced id hmem
  obtain ⟨width, hwidth⟩ := hlabelled id hmem
  cases h with
  | unknown hnone => simp [hcolumn] at hnone
  | unlabelled _ hnone => simp [hwidth] at hnone
  | tooWide hwide _ hlt =>
    rw [hcolumn] at hwide
    cases hwide
    omega
  | duplicate _ _ _ hid => exact (List.nodup_append.1 hdistinct).2.2 id hid id (by simp) rfl
  | tooClose hclose _ _ _ hlast hprevious hle =>
    rw [hcolumn] at hclose
    cases hclose
    have hlt := (List.pairwise_append.1 hincreasing).2.2 _ (List.mem_of_getLast? hlast) id
      (by simp) _ hprevious _ hcolumn
    omega

/-- An id with a column right of the last one can be placed next. -/
theorem Admissible.concat {column width : Nat} (h : Admissible positions labelWidths before)
    (hcolumn : positions.get? id = some column) (hwidth : labelWidths.get? id = some width)
    (hbounded : column ≤ maxColumn) (hid : id ∉ before)
    (hnext : ∀ last ∈ before.getLast?, ∀ a ∈ positions.get? last, a < column) :
    Admissible positions labelWidths (before ++ [id]) := by
  obtain ⟨hplaced, hlabelled, hdistinct, hincreasing⟩ := h
  -- Every earlier column is at most the last one.
  have hless : ∀ earlier ∈ before, ∀ a ∈ positions.get? earlier, a < column := by
    intro earlier hearlier a ha
    have hlast := List.getLast?_eq_some_getLast (List.ne_nil_of_mem hearlier)
    generalize before.getLast _ = last at hlast
    obtain ⟨init, rfl⟩ := List.getLast?_eq_some_iff.1 hlast
    rcases List.mem_append.1 hearlier with hinit | hsame
    · obtain ⟨b, hb, -⟩ := hplaced last (by simp)
      have hab := (List.pairwise_append.1 hincreasing).2.2 earlier hinit last (by simp) a ha b hb
      exact Nat.lt_trans hab (hnext last hlast b hb)
    · rw [List.mem_singleton.1 hsame] at ha
      exact hnext last hlast a ha
  constructor
  · rw [List.forall_mem_append, List.forall_mem_singleton]
    exact ⟨hplaced, column, hcolumn, hbounded⟩
  · rw [List.forall_mem_append, List.forall_mem_singleton]
    exact ⟨hlabelled, width, hwidth⟩
  · rw [← List.concat_eq_append]
    exact hdistinct.concat hid
  · rw [List.pairwise_append]
    refine ⟨hincreasing, List.pairwise_singleton _ _, ?_⟩
    intro earlier hearlier next hnext a ha b hb
    rw [List.mem_singleton.1 hnext, hcolumn] at hb
    cases hb
    exact hless earlier hearlier a ha

/-- An id that can be placed is placed, and the order so far stays admissible. -/
theorem Placed.step {terminal : Terminal} (h : Placed positions labelWidths before row)
    (hbefore : Admissible positions labelWidths before)
    (hplace : place positions labelWidths row id = .ok terminal) :
    Placed positions labelWidths (before ++ [id]) (row.push terminal) ∧
      Admissible positions labelWidths (before ++ [id]) := by
  have hsound := sound_of_place h.sound hplace
  obtain ⟨rfl, hcolumn, hwidth, hbounded, hid, hnext⟩ := place_eq_ok_iff.1 hplace
  constructor
  · refine ⟨hsound, ?_, ?_, ?_⟩
    · rw [Row.push, List.map_append, List.map_singleton, h.ids]
    · rw [Row.push, List.forall_mem_append, List.forall_mem_singleton]
      exact ⟨h.columns, hcolumn⟩
    · rw [Row.push, List.forall_mem_append, List.forall_mem_singleton]
      exact ⟨h.widths, hwidth⟩
  · rw [h.sound.get?_eq_none_iff, h.ids] at hid
    refine hbefore.concat hcolumn hwidth hbounded hid ?_
    intro last hlast a ha
    rw [h.getLast?] at hlast
    obtain ⟨previous, hfinal, rfl⟩ := Option.map_eq_some_iff.1 hlast
    rw [h.columns previous (List.mem_of_getLast? hfinal)] at ha
    cases ha
    exact hnext previous hfinal

/-! ## All steps -/

/-- The assembly fails at the first id that is refused. -/
theorem assemble_eq_error_iff (h : Placed positions labelWidths before row)
    (hbefore : Admissible positions labelWidths before) :
    assemble positions labelWidths row rest = .error e ↔
      ∃ walked id after, rest = walked ++ id :: after ∧
        Admissible positions labelWidths (before ++ walked) ∧
        Refusal positions labelWidths (before ++ walked) id e := by
  induction rest generalizing before row with
  | nil => simp [assemble]
  | cons first rest ih =>
    rw [assemble, Outcome.bind_eq_error_iff]
    constructor
    · rintro (hplace | ⟨terminal, hplace, hrest⟩)
      · refine ⟨[], first, rest, rfl, ?_, ?_⟩
        · rwa [List.append_nil]
        · rw [List.append_nil]
          exact (place_eq_error_iff h).1 hplace
      · obtain ⟨hstep, hadmissible⟩ := h.step hbefore hplace
        obtain ⟨walked, id, after, rfl, hwalked, hrefusal⟩ := (ih hstep hadmissible).1 hrest
        rw [List.append_assoc, List.singleton_append] at hwalked hrefusal
        exact ⟨first :: walked, id, after, rfl, hwalked, hrefusal⟩
    · rintro ⟨walked, id, after, hsplit, hwalked, hrefusal⟩
      cases walked with
      | nil =>
        cases hsplit
        rw [List.append_nil] at hrefusal
        exact Or.inl ((place_eq_error_iff h).2 hrefusal)
      | cons other walked =>
        cases hsplit
        cases hplace : place positions labelWidths row first with
        | error cause =>
          have hcause := (place_eq_error_iff h).1 hplace
          exact absurd hwalked hcause.not_admissible
        | ok terminal =>
          obtain ⟨hstep, hadmissible⟩ := h.step hbefore hplace
          refine Or.inr ⟨terminal, rfl, (ih hstep hadmissible).2 ⟨walked, id, after, rfl, ?_, ?_⟩⟩
          · rwa [List.append_assoc, List.singleton_append]
          · rwa [List.append_assoc, List.singleton_append]

/-- If the assembly does not fail it has placed all ids, and they were admissible. -/
theorem Placed.assemble (h : Placed positions labelWidths before row)
    (hbefore : Admissible positions labelWidths before)
    (hassemble : assemble positions labelWidths row rest = .ok final) :
    Placed positions labelWidths (before ++ rest) final ∧
      Admissible positions labelWidths (before ++ rest) := by
  induction rest generalizing before row with
  | nil =>
    cases hassemble
    rw [List.append_nil]
    exact ⟨h, hbefore⟩
  | cons id rest ih =>
    obtain ⟨terminal, hplace, hrest⟩ := assemble_cons_eq_ok hassemble
    obtain ⟨hstep, hadmissible⟩ := h.step hbefore hplace
    rw [List.append_cons]
    exact ih hstep hadmissible hrest

/-! ## Layouts -/

theorem exists_ofParts_iff :
    (∃ layout, ofParts order positions labelWidths = .ok layout) ↔
      order ≠ [] ∧ Admissible positions labelWidths order := by
  constructor
  · rintro ⟨layout, hparts⟩
    obtain ⟨hne, hassemble⟩ := ofParts_eq_ok_iff.1 hparts
    exact ⟨hne, (placed_nil.assemble admissible_nil hassemble).2⟩
  · rintro ⟨hne, hadmissible⟩
    cases hassemble : Layout.assemble positions labelWidths .empty order with
    | error cause =>
      obtain ⟨walked, id, after, rfl, -, hrefusal⟩ :=
        (assemble_eq_error_iff placed_nil admissible_nil).1 hassemble
      exact absurd hadmissible hrefusal.not_admissible
    | ok row =>
      obtain ⟨layout, hparts, -⟩ := exists_ofParts hne hassemble
      exact ⟨layout, hparts⟩

theorem ofParts_eq_error_iff_refusal :
    ofParts order positions labelWidths = .error e ↔
      order = [] ∧ e = .noTerminals ∨ FirstRefusal positions labelWidths order e := by
  by_cases hne : order = []
  · subst hne
    simp [ofParts, FirstRefusal, eq_comm]
  · rw [ofParts_eq_error_iff hne, assemble_eq_error_iff placed_nil admissible_nil, FirstRefusal]
    simp only [hne, false_and, false_or, List.nil_append]

/-- The columns increase, so the last one is the greatest. -/
theorem isGreatest_maxPosition (layout : Layout) :
    IsGreatest {column | ∃ terminal ∈ layout.terminals, terminal.position = column}
      layout.maxPosition := by
  constructor
  · exact ⟨_, List.getLast_mem layout.nonempty, rfl⟩
  · rintro _ ⟨terminal, hmem, rfl⟩
    exact position_le_maxPosition hmem

theorem represents_of_ofParts {layout : Layout}
    (hparts : ofParts order positions labelWidths = .ok layout) :
    layout.Represents positions labelWidths order := by
  have hassemble := (ofParts_eq_ok_iff.1 hparts).2
  have hplaced := (placed_nil.assemble admissible_nil hassemble).1
  have hids : layout.terminals.map Terminal.id = order := hplaced.ids
  refine ⟨hids, hplaced.columns, hplaced.widths, ?_, fun _ _ => layout.sound.lt_of_get?, ?_, ?_, ?_,
    isGreatest_maxPosition layout⟩
  · intro id i
    rw [layout.sound.indexed, hids]
  · intro id i terminal
    rw [get?_eq_some_iff, and_comm, ← hids, List.getElem?_map]
    refine and_congr_left fun hterminal => ?_
    rw [hterminal, Option.map_some, Option.some_inj]
  · intro id
    rw [get?_eq_none_iff, hids]
  · rw [Layout.size, ← hids, List.length_map]

/-- An order becomes a layout exactly if it is admissible and not empty. Otherwise the first id that
cannot be placed is reported, with the first of the checks that it fails. In the layout each id is
found at its place in the order, other ids are not found, and the last column is the greatest. -/
theorem ofParts_ok_iff_admissible (order : List String) (positions : Positions)
    (labelWidths : Table String Nat) :
    ((∃ layout, ofParts order positions labelWidths = .ok layout) ↔
      order ≠ [] ∧ Admissible positions labelWidths order) ∧
    (∀ e, ofParts order positions labelWidths = .error e ↔
      order = [] ∧ e = .noTerminals ∨ FirstRefusal positions labelWidths order e) ∧
    ∀ layout, ofParts order positions labelWidths = .ok layout →
      layout.Represents positions labelWidths order :=
  ⟨exists_ofParts_iff, fun _ => ofParts_eq_error_iff_refusal, fun _ => represents_of_ofParts⟩

/-- Columns of two terminals. -/
def pairColumns : Positions :=
  .ofList [("A", 3), ("B", 5)]

/-- Label widths of the same terminals. -/
def pairWidths : Table String Nat :=
  .ofList [("A", 1), ("B", 1)]

/-- The two terminals at their columns. -/
def pair : Layout :=
  .ofTerminals [⟨"A", 1, 3⟩, ⟨"B", 1, 5⟩] (by decide) (by decide) (by decide) (by decide)

/-- One of two terminals a second time is refused as such, and not for its column, which is too far
left. -/
theorem ofParts_repeated :
    ofParts ["A", "B"] pairColumns pairWidths = .ok pair ∧
    pair.Represents pairColumns pairWidths ["A", "B"] ∧
    ofParts ["A", "B", "A"] pairColumns pairWidths = .error (.duplicateTerminal "A") := by
  have hpair : ofParts ["A", "B"] pairColumns pairWidths = .ok pair := rfl
  have hcolumn : pairColumns.get? "A" = some 3 := rfl
  have hwidth : pairWidths.get? "A" = some 1 := rfl
  obtain ⟨hok, -, hrepresents⟩ := ofParts_ok_iff_admissible ["A", "B"] pairColumns pairWidths
  obtain ⟨-, herror, -⟩ := ofParts_ok_iff_admissible ["A", "B", "A"] pairColumns pairWidths
  refine ⟨hpair, hrepresents pair hpair, (herror _).2 (Or.inr ?_)⟩
  refine ⟨["A", "B"], "A", [], rfl, (hok.1 ⟨pair, hpair⟩).2, ?_⟩
  exact .duplicate hcolumn hwidth (by decide) (by decide)

end Piste.Diagram.Layout
