import Piste.Diagram.Layout

/-!
# Rows of terminals and their indices

`Row.pushAll` adds terminals one after the other, and `Row.sound_pushAll` says that the row is sound if
they stand at increasing columns and have different ids. `Layout.ofTerminals` is the layout of them.

`Layout.get?_eq_some_iff` is what the invariant on the indices is for: a look-up through the index
finds the terminal of the id, and `Layout.get?_eq_none_iff` says when there is none.
-/

namespace Piste.Diagram

namespace Row

variable {row : Row} {terminals : List Terminal}

/-- Adds terminals at the end, one after the other. -/
def pushAll (row : Row) (terminals : List Terminal) : Row :=
  terminals.foldl push row

theorem terminals_pushAll (row : Row) (terminals : List Terminal) :
    (row.pushAll terminals).terminals = row.terminals ++ terminals := by
  induction terminals generalizing row with
  | nil => exact (List.append_nil _).symm
  | cons terminal rest ih =>
    rw [pushAll, List.foldl_cons]
    exact (ih (row.push terminal)).trans (List.append_assoc _ _ _)

theorem sound_pushAll (h : row.Sound)
    (hincreasing : (row.terminals ++ terminals).Pairwise fun a b => a.position < b.position)
    (hdistinct : ((row.terminals ++ terminals).map Terminal.id).Nodup)
    (hbounded : ∀ t ∈ terminals, t.position ≤ maxColumn) : (row.pushAll terminals).Sound := by
  induction terminals generalizing row with
  | nil => exact h
  | cons terminal rest ih =>
    have hsplit : row.terminals ++ terminal :: rest = (row.push terminal).terminals ++ rest :=
      List.append_cons _ _ _
    have hid : row.index.get? terminal.id = none := by
      rw [h.get?_eq_none_iff]
      rw [List.map_append, List.nodup_append] at hdistinct
      exact fun hmem => hdistinct.2.2 _ hmem _ (by simp) rfl
    have hlast : ∀ last ∈ row.terminals.getLast?, last.position < terminal.position := by
      intro last hlast
      exact (List.pairwise_append.1 hincreasing).2.2 last (List.mem_of_getLast? hlast) terminal
        List.mem_cons_self
    rw [hsplit] at hincreasing hdistinct
    rw [List.forall_mem_cons] at hbounded
    exact ih (h.push hid hbounded.1 hlast) hincreasing hdistinct hbounded.2

end Row

namespace Layout

variable {layout : Layout} {id : String}

/-- The layout of terminals that are known. -/
def ofTerminals (terminals : List Terminal) (nonempty : terminals ≠ [])
    (increasing : terminals.Pairwise fun a b => a.position < b.position)
    (distinct : (terminals.map Terminal.id).Nodup)
    (bounded : ∀ t ∈ terminals, t.position ≤ maxColumn) : Layout where
  toRow := Row.empty.pushAll terminals
  nonempty := by rwa [Row.terminals_pushAll]
  sound := Row.sound_pushAll Row.sound_empty increasing distinct bounded

/-- A look-up by name finds the terminal of that name, and its index. -/
theorem get?_eq_some_iff {i : Nat} {terminal : Terminal} :
    layout.get? id = some (i, terminal) ↔
      layout.terminals[i]? = some terminal ∧ terminal.id = id := by
  have hindex := layout.sound.indexed id
  simp only [List.getElem?_map, Option.map_eq_some_iff] at hindex
  unfold get?
  split
  · rename_i hnone
    simp only [hnone, reduceCtorEq, false_iff, not_exists] at hindex
    constructor
    · intro h
      cases h
    · intro h
      exact absurd h (hindex i terminal)
  · rename_i found hfound
    have hat : layout.terminals[found]? =
        some (layout.terminals.get ⟨found, layout.sound.lt_of_get? hfound⟩) :=
      List.getElem?_eq_getElem _
    constructor
    · intro h
      cases h
      obtain ⟨other, hother, hid⟩ := (hindex _).1 hfound
      rw [hat] at hother
      cases hother
      exact ⟨hat, hid⟩
    · intro h
      have hsame := (hindex i).2 ⟨terminal, h⟩
      rw [hfound] at hsame
      cases hsame
      rw [hat] at h
      rw [Option.some.inj h.1]

/-- A look-up finds nothing exactly for the ids of no terminal. -/
theorem get?_eq_none_iff :
    layout.get? id = none ↔ id ∉ layout.terminals.map Terminal.id := by
  rw [← layout.sound.get?_eq_none_iff]
  unfold get?
  split
  · rename_i hnone
    simp [hnone]
  · rename_i found hfound
    simp [hfound]

end Layout

end Piste.Diagram
