import Piste.Proofs.Diagram.Placement

/-!
# When columns can be found

Whether terminals fit around the anchor is a matter of sums: `Solvable` adds up the steps on either
side of it. A placement adds up to these sums (`span_of_isChain`), and one exists as soon as they
fit (`exists_spaced`). `solve_ok_iff_solvable` is the result: the solver succeeds exactly on what is
solvable, and what it finds is a `Solution`.
-/

namespace Piste.Diagram.Positions

/-! ## Sums of steps -/

section Sums

variable (distances : DistanceTable) (scale : Float)

/-- Neighbours whose distance is entered, in either order, and scales to at least one column. -/
def Stepped (left right : String) : Prop :=
  ∃ mm, distances.get? left right = some mm ∧ 1 ≤ scaledStep mm scale

/-- The scaled distance of two neighbours, or zero if none is entered. -/
def gap (left right : String) : Int :=
  match distances.get? left right with
  | some mm => scaledStep mm scale
  | none => 0

/-- The sum of the scaled distances between the first and the last of some terminals. -/
def span : List String → Int
  | left :: right :: rest => gap distances scale left right + span (right :: rest)
  | _ => 0

variable {distances scale}

theorem gap_of_get? {left right : String} {mm : Float}
    (hmm : distances.get? left right = some mm) :
    gap distances scale left right = scaledStep mm scale := by
  rw [gap, hmm]

theorem Spaced.stepped {left right : String × Nat} (h : Spaced distances scale left right) :
    Stepped distances scale left.1 right.1 := by
  obtain ⟨mm, hmm, hpos, -⟩ := h
  exact ⟨mm, hmm, hpos⟩

theorem Spaced.sub_eq_gap {left right : String × Nat} (h : Spaced distances scale left right) :
    (right.2 : Int) - left.2 = gap distances scale left.1 right.1 := by
  obtain ⟨mm, hmm, -, hgap⟩ := h
  rw [gap_of_get? hmm, hgap]

/-- A sum of steps can be cut at every terminal. -/
theorem span_append_cons (before after : List String) (id : String) :
    span distances scale (before ++ id :: after) =
      span distances scale (before ++ [id]) + span distances scale (id :: after) := by
  induction before with
  | nil => simp [span]
  | cons first before ih =>
    cases before with
    | nil => simp [span]
    | cons second before =>
      simp only [List.cons_append, span] at ih ⊢
      rw [ih, Int.add_assoc]

theorem span_nonneg {terminals : List String}
    (hstep : terminals.IsChain (Stepped distances scale)) :
    0 ≤ span distances scale terminals := by
  induction terminals with
  | nil => exact Int.le_refl 0
  | cons left rest ih =>
    cases rest with
    | nil => exact Int.le_refl 0
    | cons right rest =>
      rw [List.isChain_cons_cons] at hstep
      obtain ⟨⟨mm, hmm, hpos⟩, hrest⟩ := hstep
      have := ih hrest
      rw [span, gap_of_get? hmm]
      omega

/-- Spaced columns differ by the sum of the steps between them. -/
theorem span_of_isChain {entries : List (String × Nat)} {first last : String × Nat}
    (hchain : (entries ++ [last]).IsChain (Spaced distances scale))
    (hfirst : (entries ++ [last]).head? = some first) :
    span distances scale ((entries ++ [last]).map Prod.fst) = (last.2 : Int) - first.2 := by
  induction entries generalizing first with
  | nil =>
    cases hfirst
    simp [span]
  | cons entry entries ih =>
    cases hfirst
    obtain ⟨second, hsecond⟩ : ∃ second, (entries ++ [last]).head? = some second :=
      ⟨_, List.head?_eq_some_head (by simp)⟩
    obtain ⟨more, hmore⟩ := List.head?_eq_some_iff.1 hsecond
    rw [List.cons_append] at hchain
    have hrest := ih hchain.tail hsecond
    rw [hmore] at hchain hrest
    rw [List.cons_append, hmore, List.map_cons, List.map_cons, span, ← List.map_cons, hrest,
      ← (List.isChain_cons_cons.1 hchain).1.sub_eq_gap]
    omega

/-- Terminals with a step between neighbours can be put at spaced columns, as long as the sum of the
steps fits. -/
theorem exists_spaced {id : String} {rest : List String} {column bound : Nat}
    (hstep : (id :: rest).IsChain (Stepped distances scale))
    (hfit : column + span distances scale (id :: rest) ≤ bound) :
    ∃ placed, placed.map Prod.fst = rest ∧
      ((id, column) :: placed).IsChain (Spaced distances scale) ∧
      ∀ entry ∈ (id, column) :: placed, entry.2 ≤ bound := by
  induction rest generalizing id column with
  | nil =>
    have hcolumn : column ≤ bound := by
      simp only [span] at hfit
      omega
    exact ⟨[], rfl, List.isChain_singleton _, by simpa using hcolumn⟩
  | cons right rest ih =>
    rw [List.isChain_cons_cons] at hstep
    obtain ⟨⟨mm, hmm, hpos⟩, hrest⟩ := hstep
    have hspan := span_nonneg hrest
    rw [span, gap_of_get? hmm] at hfit
    have hrestFit : ((column + (scaledStep mm scale).toNat : Nat) : Int) +
        span distances scale (right :: rest) ≤ bound := by omega
    obtain ⟨placed, hids, hchain, hbound⟩ := ih hrest hrestFit
    refine ⟨_ :: placed, by rw [List.map_cons, hids],
      List.isChain_cons_cons.2 ⟨⟨mm, hmm, hpos, ?_⟩, hchain⟩,
      List.forall_mem_cons.2 ⟨?_, hbound⟩⟩
    · simp only
      omega
    · simp only
      omega

end Sums

/-! ## When columns can be found, and what they are -/

/-- What a list of terminals must satisfy to be solved. The steps left of the anchor and those right
of it are summed apart. -/
structure Solvable (terminals : List String) (distances : DistanceTable) (scale : Float)
    (anchor : Anchor) : Prop where
  nonempty : terminals ≠ []
  finite : scale.isFinite = true
  positive : 0 < scale
  distinct : terminals.Nodup
  anchored : anchor.terminal ∈ terminals
  column_le : anchor.column ≤ maxColumn
  stepped : terminals.IsChain (Stepped distances scale)
  left_fits : 0 ≤ (anchor.column : Int) -
    span distances scale (terminals.take (terminals.idxOf anchor.terminal + 1))
  right_fits : (anchor.column : Int) +
    span distances scale (terminals.drop (terminals.idxOf anchor.terminal)) ≤ maxColumn

/-- The columns of solved terminals: one for each, the anchor at its own, neighbours a scaled
distance apart. -/
structure Solution (terminals : List String) (distances : DistanceTable) (scale : Float)
    (anchor : Anchor) (positions : Positions) : Prop where
  keys : ∀ id, id ∈ positions.keys ↔ id ∈ terminals
  anchored : positions.get? anchor.terminal = some anchor.column
  spaced : terminals.IsChain fun left right =>
    ∃ a b mm, positions.get? left = some a ∧ positions.get? right = some b ∧
      distances.get? left right = some mm ∧ (b : Int) - a = scaledStep mm scale
  increasing : terminals.Pairwise fun left right =>
    ∃ a b, positions.get? left = some a ∧ positions.get? right = some b ∧ a < b
  bounded : ∀ id column, positions.get? id = some column → column ≤ maxColumn

section Solutions

variable {terminals : List String} {distances : DistanceTable} {scale : Float} {anchor : Anchor}

/-- The terminals up to the anchor and from it on. -/
theorem take_drop_idxOf {id : String} {before after : List String}
    (hdistinct : (before ++ id :: after).Nodup) :
    (before ++ id :: after).take ((before ++ id :: after).idxOf id + 1) = before ++ [id] ∧
      (before ++ id :: after).drop ((before ++ id :: after).idxOf id) = id :: after := by
  have hbefore : id ∉ before := fun hmem =>
    (List.nodup_append.1 hdistinct).2.2 id hmem id List.mem_cons_self rfl
  have hindex : (before ++ id :: after).idxOf id = before.length := by
    rw [List.idxOf_append_of_notMem hbefore, List.idxOf_cons_self, Nat.add_zero]
  rw [hindex]
  constructor
  · rw [List.take_length_add_append, List.take_succ_cons, List.take_zero]
  · rw [List.drop_left]

/-- The sums of the steps fit around the anchor of a placement. -/
theorem Placement.solvable {entries : List (String × Nat)}
    (h : Placement terminals distances scale anchor entries) :
    Solvable terminals distances scale anchor := by
  obtain ⟨rfl, hdistinct, hfinite, hpos, hanchor, hchain, hbound⟩ := h
  have hstepped : (entries.map Prod.fst).IsChain (Stepped distances scale) :=
    (List.isChain_map Prod.fst).2 (hchain.imp fun _ _ hspaced => hspaced.stepped)
  have hmem : anchor.terminal ∈ entries.map Prod.fst := List.mem_map_of_mem hanchor
  obtain ⟨left, right, rfl⟩ := List.append_of_mem hanchor
  obtain ⟨hleftChain, hrightChain⟩ := List.isChain_split.1 hchain
  have hcut := take_drop_idxOf (by simpa using hdistinct)
  refine ⟨List.ne_nil_of_mem hmem, hfinite, hpos, hdistinct, hmem, hbound _ hanchor, hstepped,
    ?_, ?_⟩
  · obtain ⟨first, hfirst⟩ : ∃ first,
        (left ++ [(anchor.terminal, anchor.column)]).head? = some first :=
      ⟨_, List.head?_eq_some_head (by simp)⟩
    have hspan := span_of_isChain hleftChain hfirst
    rw [List.map_append, List.map_singleton] at hspan
    rw [List.map_append, List.map_cons, hcut.1, hspan]
    simp only
    omega
  · obtain ⟨between, last, hlast⟩ :=
      (List.eq_nil_or_concat ((anchor.terminal, anchor.column) :: right)).resolve_left (by simp)
    rw [List.concat_eq_append] at hlast
    have hspan := span_of_isChain (hlast ▸ hrightChain) (by rw [← hlast]; rfl)
    rw [← hlast, List.map_cons] at hspan
    have hlastBound : last.2 ≤ maxColumn := by
      refine hbound last (List.mem_append_right _ ?_)
      rw [hlast]
      exact List.mem_append_right _ List.mem_cons_self
    rw [List.map_append, List.map_cons, hcut.2, hspan]
    simp only
    omega

/-- Where the sums of the steps fit, the columns counted from the leftmost terminal reach the anchor
at its own column. -/
theorem Solvable.exists_placement (h : Solvable terminals distances scale anchor) :
    ∃ entries, Placement terminals distances scale anchor entries := by
  obtain ⟨hnonempty, hfinite, hpos, hdistinct, hmem, -, hstepped, hleft, hright⟩ := h
  obtain ⟨before, after, rfl⟩ := List.append_of_mem hmem
  obtain ⟨htake, hdrop⟩ := take_drop_idxOf hdistinct
  rw [htake] at hleft
  rw [hdrop] at hright
  have hspan : span distances scale (before ++ anchor.terminal :: after) =
      span distances scale (before ++ [anchor.terminal]) +
        span distances scale (anchor.terminal :: after) := span_append_cons before after _
  have hbeforeStepped := (List.isChain_split.1 hstepped).1
  have hbeforeSpan := span_nonneg hbeforeStepped
  obtain ⟨first, rest, hterminals⟩ := List.exists_cons_of_ne_nil hnonempty
  obtain ⟨start, hstart⟩ : ∃ start : Nat, (start : Int) =
      anchor.column - span distances scale (before ++ [anchor.terminal]) :=
    ⟨_, Int.toNat_of_nonneg hleft⟩
  have hfit : (start : Int) + span distances scale (first :: rest) ≤ maxColumn := by
    rw [← hterminals]
    omega
  obtain ⟨placed, hids, hchain, hbound⟩ := exists_spaced (hterminals ▸ hstepped) hfit
  have hmap : ((first, start) :: placed).map Prod.fst =
      before ++ anchor.terminal :: after := by
    rw [List.map_cons, hids, hterminals]
  obtain ⟨left, entry, right, hentries, rfl, hid, rfl⟩ :
      ∃ left entry right, (first, start) :: placed = left ++ entry :: right ∧
        left.map Prod.fst = before ∧ entry.1 = anchor.terminal ∧ right.map Prod.fst = after := by
    obtain ⟨left, tail, hsplit, hleftIds, htail⟩ := List.map_eq_append_iff.1 hmap
    obtain ⟨entry, right, rfl, hid, hrightIds⟩ := List.map_eq_cons_iff.1 htail
    exact ⟨left, entry, right, hsplit, hleftIds, hid, hrightIds⟩
  have hhead : (left ++ [entry]).head? = some (first, start) := by
    cases left with
    | nil =>
      cases hentries
      rfl
    | cons other left =>
      cases hentries
      rfl
  -- The columns up to the anchor add up to the steps left of it, so its column is as asked.
  have hcolumn := span_of_isChain (List.isChain_split.1 (hentries ▸ hchain)).1 hhead
  rw [List.map_append, List.map_singleton, hid] at hcolumn
  simp only at hcolumn
  have hentry : entry = (anchor.terminal, anchor.column) :=
    Prod.ext hid (by simp only; omega)
  refine ⟨_, hmap, hdistinct, hfinite, hpos, ?_, hchain, hbound⟩
  rw [hentries, hentry]
  exact List.mem_append_right _ List.mem_cons_self

/-- The table of a placement answers for its terminals as the placement has them. -/
theorem Placement.solution {entries : List (String × Nat)}
    (h : Placement terminals distances scale anchor entries) :
    Solution terminals distances scale anchor (Table.ofList entries) := by
  obtain ⟨rfl, hdistinct, hfinite, hpos, hanchor, hchain, hbound⟩ := h
  have hentries := Table.entries_ofList hdistinct
  have hget : ∀ entry ∈ entries, (Table.ofList entries).get? entry.1 = some entry.2 := by
    intro entry hentry
    rw [Table.get?_eq_some_iff, hentries]
    exact hentry
  refine ⟨?_, hget _ hanchor, ?_, ?_, ?_⟩
  · intro id
    rw [Table.keys, hentries]
  · refine (List.isChain_map Prod.fst).2 (hchain.imp_of_mem_imp ?_)
    rintro left right hleft hright ⟨mm, hmm, -, hgap⟩
    exact ⟨left.2, right.2, mm, hget left hleft, hget right hright, hmm, hgap⟩
  · refine List.pairwise_map.2 ((pairwise_lt_of_isChain hchain).imp_of_mem ?_)
    intro left right hleft hright hcolumns
    exact ⟨left.2, right.2, hget left hleft, hget right hright, hcolumns⟩
  · intro id column hcolumn
    rw [Table.get?_eq_some_iff, hentries] at hcolumn
    exact hbound _ hcolumn

/-- Columns are found exactly if the scale is sound, the terminals are distinct and neighbours are a
step apart, the anchor is one of them and in bounds, and the steps on either side of it fit. What is
found are the columns asked for. -/
theorem solve_ok_iff_solvable (terminals : List String) (distances : DistanceTable) (scale : Float)
    (anchor : Anchor) :
    ((∃ positions, solve terminals distances scale anchor = .ok positions) ↔
        Solvable terminals distances scale anchor) ∧
      ∀ positions, solve terminals distances scale anchor = .ok positions →
        Solution terminals distances scale anchor positions := by
  refine ⟨⟨?_, ?_⟩, ?_⟩
  · rintro ⟨positions, h⟩
    obtain ⟨entries, hplacement, -⟩ := solve_eq_ok_iff.1 h
    exact hplacement.solvable
  · intro h
    obtain ⟨entries, hplacement⟩ := h.exists_placement
    exact ⟨_, solve_eq_ok_iff.2 ⟨entries, hplacement, rfl⟩⟩
  · intro positions h
    obtain ⟨entries, hplacement, rfl⟩ := solve_eq_ok_iff.1 h
    exact hplacement.solution

/-- Half a column goes to the even neighbour: 7.5 up and 8.5 down. One distance is entered the other
way round. -/
theorem solution_of_halves :
    solve ["a", "b", "c"] (.ofList [("b", "a", 15.0), ("b", "c", 17.0)]) 0.5 ⟨"b", 8⟩ =
        .ok (Table.ofList [("a", 0), ("b", 8), ("c", 16)]) ∧
      Solution ["a", "b", "c"] (.ofList [("b", "a", 15.0), ("b", "c", 17.0)]) 0.5 ⟨"b", 8⟩
        (Table.ofList [("a", 0), ("b", 8), ("c", 16)]) :=
  have hsolve : solve ["a", "b", "c"] (.ofList [("b", "a", 15.0), ("b", "c", 17.0)]) 0.5 ⟨"b", 8⟩ =
      .ok (Table.ofList [("a", 0), ("b", 8), ("c", 16)]) := rfl
  ⟨hsolve, (solve_ok_iff_solvable _ _ _ _).2 _ hsolve⟩

end Solutions

end Piste.Diagram.Positions
