import Piste.Proofs.Diagram.Placement

/-!
# Counting from another anchor

Solved columns do not depend on the terminal that they are counted from, and the columns of
neighbouring terminals do not depend on the others. The reason is that a placement says nothing about
a walk: cut down to a window of neighbours, with any of these as the anchor, it is a placement still
(`Placement.cut`).

* `walkLeft_of_walkRight` turns a walk around: what it finds from left to right it finds from right
  to left.
* `solve_window` is the result. The window is solved to the columns that it had, whatever distances
  are entered for other pairs.
-/

namespace Piste.Diagram.Positions

variable {terminals : List String} {distances distances' : DistanceTable} {scale : Float}
  {anchor : Anchor}

/-! ## Walks in both directions -/

/-- A walk from the first terminal to the last finds the columns that the walk back finds. -/
theorem walkLeft_of_walkRight {first last : String} {middle : List String} {a b : Nat}
    {placed : List (String × Nat)}
    (hright : walkRight distances scale first a (middle ++ [last]) = .ok (placed ++ [(last, b)])) :
    walkLeft distances scale last b (middle.reverse ++ [first]) =
      .ok (placed.reverse ++ [(first, a)]) := by
  obtain ⟨hids, hchain, -⟩ := walkRight_eq_ok_iff.1 hright
  have hmiddle : placed.map Prod.fst = middle := by
    rw [List.map_append] at hids
    exact List.append_cancel_right hids
  have hback : ((first, a) :: (placed ++ [(last, b)])).reverse =
      (last, b) :: (placed.reverse ++ [(first, a)]) := by simp
  apply walkLeft_eq_ok_iff.2
  constructor
  · simp [hmiddle]
  · rw [← hback, List.isChain_reverse]
    exact hchain

/-- Spaced columns in bounds are what the walk to the right finds. -/
theorem walkRight_of_isChain {first last : String × Nat} {placed : List (String × Nat)}
    (hchain : (first :: (placed ++ [last])).IsChain (Spaced distances scale))
    (hbound : ∀ entry ∈ placed ++ [last], entry.2 ≤ maxColumn) :
    walkRight distances scale first.1 first.2 (placed.map Prod.fst ++ [last.1]) =
      .ok (placed ++ [last]) := by
  apply walkRight_eq_ok_iff.2
  refine ⟨?_, hchain, hbound⟩
  simp

/-! ## Windows -/

section Windows

variable {entries window : List (String × Nat)}

/-- A placement cut down to a window is a placement, from whichever of its terminals the columns are
counted. Only the distances between neighbours in the window are used. -/
theorem Placement.cut {id : String} {column : Nat}
    (h : Placement terminals distances scale anchor entries) (hwindow : window <:+: entries)
    (hagree : (window.map Prod.fst).IsChain fun left right =>
      distances'.get? left right = distances.get? left right)
    (hmem : (id, column) ∈ window) :
    Placement (window.map Prod.fst) distances' scale ⟨id, column⟩ window := by
  obtain ⟨rfl, hdistinct, hfinite, hpos, -, hspaced, hbound⟩ := h
  have hsublist : window.Sublist entries := hwindow.sublist
  have hspacedWindow : window.IsChain (Spaced distances scale) :=
    List.IsChain.infix hspaced hwindow
  have hagreeWindow := List.isChain_iff_getElem.1 ((List.isChain_map Prod.fst).1 hagree)
  refine ⟨rfl, hdistinct.sublist (hsublist.map _), hfinite, hpos, hmem, ?_, ?_⟩
  · apply List.isChain_iff_getElem.2
    intro i hi
    obtain ⟨mm, hmm, hstep, hgap⟩ := List.isChain_iff_getElem.1 hspacedWindow i hi
    have hmm' : distances'.get? window[i].1 window[i + 1].1 = some mm := by
      rw [hagreeWindow i hi, hmm]
    exact ⟨mm, hmm', hstep, hgap⟩
  · intro entry hentry
    exact hbound entry (hsublist.subset hentry)

/-- Between two terminals of a placement the walks in both directions find the same columns. -/
theorem Placement.walks {first last : String × Nat} {placed : List (String × Nat)}
    (h : Placement terminals distances scale anchor entries)
    (hwindow : first :: (placed ++ [last]) <:+: entries) :
    walkRight distances scale first.1 first.2 (placed.map Prod.fst ++ [last.1]) =
        .ok (placed ++ [last]) ∧
      walkLeft distances scale last.1 last.2 ((placed.map Prod.fst).reverse ++ [first.1]) =
        .ok (placed.reverse ++ [first]) := by
  have hchain : (first :: (placed ++ [last])).IsChain (Spaced distances scale) :=
    List.IsChain.infix h.spaced hwindow
  have hbound : ∀ entry ∈ placed ++ [last], entry.2 ≤ maxColumn := by
    intro entry hentry
    exact h.bounded entry (hwindow.subset (List.mem_cons_of_mem _ hentry))
  have hright := walkRight_of_isChain hchain hbound
  exact ⟨hright, walkLeft_of_walkRight hright⟩

/-- The ids of a window pick out its entries, as no id occurs outside it. -/
theorem filter_window {before after : List (String × Nat)}
    (hdistinct : ((before ++ window ++ after).map Prod.fst).Nodup) :
    (before ++ window ++ after).filter (fun entry => entry.1 ∈ window.map Prod.fst) = window := by
  rw [List.map_append, List.map_append, List.nodup_append, List.nodup_append] at hdistinct
  obtain ⟨⟨-, -, hbefore⟩, -, hafter⟩ := hdistinct
  have hnoneBefore : before.filter (fun entry => entry.1 ∈ window.map Prod.fst) = [] := by
    rw [List.filter_eq_nil_iff]
    intro entry hentry hmem
    exact hbefore _ (List.mem_map_of_mem hentry) _ (of_decide_eq_true hmem) rfl
  have hnoneAfter : after.filter (fun entry => entry.1 ∈ window.map Prod.fst) = [] := by
    rw [List.filter_eq_nil_iff]
    intro entry hentry hmem
    exact hafter _ (List.mem_append_right _ (of_decide_eq_true hmem)) _
      (List.mem_map_of_mem hentry) rfl
  have hall : window.filter (fun entry => entry.1 ∈ window.map Prod.fst) = window := by
    rw [List.filter_eq_self]
    intro entry hentry
    exact decide_eq_true (List.mem_map_of_mem hentry)
  rw [List.filter_append, List.filter_append, hnoneBefore, hnoneAfter, hall, List.nil_append,
    List.append_nil]

/-- The table of a window is the table of all terminals without the others. -/
theorem ofList_window (hdistinct : (entries.map Prod.fst).Nodup) (hwindow : window <:+: entries) :
    Table.ofList window =
      (Table.ofList entries).filterKeys fun id => id ∈ window.map Prod.fst := by
  have hdistinctWindow : (window.map Prod.fst).Nodup :=
    hdistinct.sublist (hwindow.sublist.map _)
  apply Table.ext_entries
  show (Table.ofList window).entries = (Table.ofList entries).entries.filter _
  rw [Table.entries_ofList hdistinct, Table.entries_ofList hdistinctWindow]
  obtain ⟨before, after, rfl⟩ := hwindow
  exact (filter_window hdistinct).symm

end Windows

/-- Solved terminals keep their columns when these are counted from another terminal at its column,
and so does every window of them, for which only the distances between its own neighbours matter.
Between any two of the terminals the walks in both directions agree. -/
theorem solve_window {positions : Positions}
    (hsolve : solve terminals distances scale anchor = .ok positions) :
    (∀ window distances' id, window <:+: terminals →
      (window.IsChain fun left right =>
        DistanceTable.get? distances' left right = distances.get? left right) → id ∈ window →
      ∃ column, positions.get? id = some column ∧
        solve window distances' scale ⟨id, column⟩ =
          .ok (positions.filterKeys fun other => other ∈ window)) ∧
    (∀ id ∈ terminals, ∃ column, positions.get? id = some column ∧
      solve terminals distances scale ⟨id, column⟩ = .ok positions) ∧
    ∀ first middle last, first :: (middle ++ [last]) <:+: terminals →
      ∃ a b placed, positions.get? first = some a ∧ positions.get? last = some b ∧
        placed.map Prod.fst = middle ∧
        (∀ entry ∈ placed, positions.get? entry.1 = some entry.2) ∧
        walkRight distances scale first a (middle ++ [last]) = .ok (placed ++ [(last, b)]) ∧
        walkLeft distances scale last b (middle.reverse ++ [first]) =
          .ok (placed.reverse ++ [(first, a)]) := by
  obtain ⟨entries, hplacement, rfl⟩ := solve_eq_ok_iff.1 hsolve
  obtain rfl := hplacement.ids
  have hget : ∀ entry ∈ entries, (Table.ofList entries).get? entry.1 = some entry.2 := by
    intro entry hentry
    rw [Table.get?_eq_some_iff, Table.entries_ofList hplacement.distinct]
    exact hentry
  refine ⟨?_, ?_, ?_⟩
  · intro ids distances' id hids hagree hid
    obtain ⟨window, hwindow, rfl⟩ := List.infix_map_iff.1 hids
    obtain ⟨⟨id, column⟩, hmem, rfl⟩ := List.mem_map.1 hid
    refine ⟨column, hget _ (hwindow.subset hmem), ?_⟩
    rw [← ofList_window hplacement.distinct hwindow]
    exact solve_eq_ok_iff.2 ⟨window, hplacement.cut hwindow hagree hmem, rfl⟩
  · intro id hid
    obtain ⟨⟨id, column⟩, hmem, rfl⟩ := List.mem_map.1 hid
    refine ⟨column, hget _ hmem, ?_⟩
    have hagree : (entries.map Prod.fst).IsChain fun left right =>
        distances.get? left right = distances.get? left right :=
      List.isChain_iff_getElem.2 fun _ _ => rfl
    exact solve_eq_ok_iff.2
      ⟨entries, hplacement.cut (List.infix_refl entries) hagree hmem, rfl⟩
  · intro first middle last hids
    obtain ⟨window, hwindow, hmap⟩ := List.infix_map_iff.1 hids
    obtain ⟨⟨_, a⟩, rest, rfl, rfl, hrest⟩ := List.map_eq_cons_iff.1 hmap.symm
    obtain ⟨placed, tail, rfl, rfl, htail⟩ := List.map_eq_append_iff.1 hrest
    obtain ⟨⟨_, b⟩, rfl, rfl⟩ := List.map_eq_singleton_iff.1 htail
    obtain ⟨hright, hleft⟩ := hplacement.walks hwindow
    refine ⟨a, b, placed, hget _ (hwindow.subset (by simp)), hget _ (hwindow.subset (by simp)),
      rfl, ?_, hright, hleft⟩
    intro entry hentry
    exact hget entry (hwindow.subset (by simp [hentry]))

/-- Three terminals, and two of them with a table that has one distance the other way round and
another one for the pair outside the window. Both are counted from the last terminal. -/
theorem solve_window_of_two :
    solve ["a", "b", "c"] (.ofList [("b", "a", 15.0), ("b", "c", 17.0)]) 0.5 ⟨"b", 8⟩ =
        .ok (Table.ofList [("a", 0), ("b", 8), ("c", 16)]) ∧
      solve ["b", "c"] (.ofList [("c", "b", 17.0), ("a", "b", -3.0)]) 0.5 ⟨"c", 16⟩ =
        .ok (Table.ofList [("b", 8), ("c", 16)]) ∧
      solve ["a", "b", "c"] (.ofList [("b", "a", 15.0), ("b", "c", 17.0)]) 0.5 ⟨"c", 16⟩ =
        .ok (Table.ofList [("a", 0), ("b", 8), ("c", 16)]) := by
  have hsolve : solve ["a", "b", "c"] (.ofList [("b", "a", 15.0), ("b", "c", 17.0)]) 0.5 ⟨"b", 8⟩ =
      .ok (Table.ofList [("a", 0), ("b", 8), ("c", 16)]) := rfl
  obtain ⟨hwindows, hanchors, -⟩ := solve_window hsolve
  obtain ⟨column, hcolumn, hwindow⟩ := hwindows ["b", "c"]
    (.ofList [("c", "b", 17.0), ("a", "b", -3.0)]) "c" (by decide) (List.isChain_pair.2 rfl)
    (by decide)
  obtain ⟨column', hcolumn', hanchor⟩ := hanchors "c" (by decide)
  obtain rfl : 16 = column := Option.some.inj hcolumn
  obtain rfl : 16 = column' := Option.some.inj hcolumn'
  exact ⟨hsolve, hwindow, hanchor⟩

end Piste.Diagram.Positions
