import Piste.Proofs.Diagram.Marks

/-!
# Order and direction of connections

Later connections are drawn over earlier ones, so their order may matter. It does not matter in
which direction a connection is written (`Layout.mark?_swap`), nor how those between neighbours are
mixed with the others, since these are drawn in different rows. Between neighbours, wires of
different pairs do not meet, as long as no resistor runs past its gap
(`Layout.sameEnds_of_between`). `Layout.draw_reordered` collects what may be changed.

An order is kept among some connections if they form the same list before and after.
-/

namespace Piste.Diagram

namespace Connection

/-- The connection written in the other direction. -/
def swap (connection : Connection) : Connection :=
  { connection with source := connection.target, target := connection.source }

end Connection

/-- The order is kept among the connections that pass a test: they form the same list in both. -/
def KeepsOrder (among : Connection → Bool) (connections connections' : List Connection) : Prop :=
  connections'.filter among = connections.filter among

instance (among : Connection → Bool) (connections connections' : List Connection) :
    Decidable (KeepsOrder among connections connections') :=
  inferInstanceAs (Decidable (_ = _))

/-- Some connections are written in the other direction. -/
def Redirected (connections connections' : List Connection) : Prop :=
  List.Forall₂ (fun connection connection' =>
    connection' = connection ∨ connection' = connection.swap) connections connections'

namespace Layout

/-- Whether a connection joins two neighbours. -/
def neighbours (layout : Layout) (connection : Connection) : Bool :=
  (layout.wire? connection).any fun wire => wire.adjacent

variable {layout : Layout} {connection other : Connection} {wire wire' : Wire} {row column : Nat}

theorem neighbours_of_joins (hjoins : layout.Joins connection wire) :
    layout.neighbours connection = wire.adjacent := by
  rw [neighbours, wire?_eq_some_iff.2 hjoins, Option.any_some]

/-! ## Direction -/

/-- In the other direction a connection has the same wire. -/
theorem Joins.swap (hjoins : layout.Joins connection wire) :
    layout.Joins connection.swap wire := by
  have hends : connection.SameEnds connection.swap := Or.inr ⟨rfl, rfl⟩
  have hswap := hjoins.of_sameEnds hends
  have hresistor : connection.swap.resistor = wire.resistor := hjoins.resistor_eq.symm
  rw [hresistor] at hswap
  exact hswap

theorem mark?_swap (hjoins : layout.Joins connection wire) :
    layout.mark? row column connection.swap = layout.mark? row column connection := by
  rw [mark?_of_joins hjoins, mark?_of_joins hjoins.swap]

section Redirected

variable {connections connections' : List Connection}

theorem Resolves.redirected (hresolves : layout.Resolves connections)
    (hredirected : Redirected connections connections') : layout.Resolves connections' := by
  induction hredirected with
  | nil => exact hresolves
  | cons hdirection _ ih =>
    obtain ⟨⟨wire, hjoins⟩, hrest⟩ := List.forall_mem_cons.1 hresolves
    rcases hdirection with rfl | rfl
    · exact List.forall_mem_cons.2 ⟨⟨wire, hjoins⟩, ih hrest⟩
    · exact List.forall_mem_cons.2 ⟨⟨wire, hjoins.swap⟩, ih hrest⟩

theorem findSomeRev?_mark?_of_redirected (hresolves : layout.Resolves connections)
    (hredirected : Redirected connections connections') :
    connections'.findSomeRev? (layout.mark? row column) =
      connections.findSomeRev? (layout.mark? row column) := by
  induction hredirected with
  | nil => rfl
  | cons hdirection _ ih =>
    obtain ⟨⟨wire, hjoins⟩, hrest⟩ := List.forall_mem_cons.1 hresolves
    rw [findSomeRev?_cons, findSomeRev?_cons, ih hrest]
    rcases hdirection with rfl | rfl
    · rfl
    · rw [mark?_swap hjoins]

/-- Connections of which some are written in the other direction are drawn alike. -/
theorem draw_of_redirected (hresolves : layout.Resolves connections)
    (hredirected : Redirected connections connections') :
    layout.draw connections' = layout.draw connections := by
  apply draw_eq_of_marks hresolves (hresolves.redirected hredirected)
  intro row column
  exact findSomeRev?_mark?_of_redirected hresolves hredirected

end Redirected

/-! ## Rows -/

/-- A connection between neighbours has its marks beside the labels. -/
theorem row_eq_of_neighbours (hneighbours : layout.neighbours connection = true)
    (hmark : (layout.mark? row column connection).isSome = true) : row = labelRow := by
  obtain ⟨wire, hjoins, hmarks⟩ := isSome_mark?_iff.1 hmark
  rw [neighbours_of_joins hjoins] at hneighbours
  exact ((Wire.marks_iff_of_adjacent hneighbours).1 hmarks).1

/-- Any other connection has them below. -/
theorem row_ne_of_not_neighbours (hneighbours : layout.neighbours connection = false)
    (hmark : (layout.mark? row column connection).isSome = true) : row ≠ labelRow := by
  obtain ⟨wire, hjoins, hmarks⟩ := isSome_mark?_iff.1 hmark
  rw [neighbours_of_joins hjoins] at hneighbours
  rcases (Wire.marks_iff_of_bus hneighbours).1 hmarks with ⟨rfl, -⟩ | ⟨rfl, -⟩
  · decide
  · decide

/-! ## Columns -/

/-- A wire between neighbours runs from one terminal to the next. -/
theorem Joins.exists_next (hjoins : layout.Joins connection wire)
    (hadjacent : wire.adjacent = true) :
    ∃ k a b, layout.terminals[k]? = some a ∧ layout.terminals[k + 1]? = some b ∧
      wire.left = a.position ∧ wire.right = b.position ∧
      (connection.source = a.id ∧ connection.target = b.id ∨
        connection.source = b.id ∧ connection.target = a.id) := by
  obtain ⟨i, j, a, b, hi, hsource, hj, htarget, -, hleft, hright, hnext, -⟩ := hjoins
  rw [hadjacent] at hnext
  rcases of_decide_eq_true hnext.symm with rfl | rfl
  · have hlt := position_lt hi hj (Nat.lt_succ_self i)
    exact ⟨i, a, b, hi, hj, by omega, by omega, Or.inl ⟨hsource.symm, htarget.symm⟩⟩
  · have hlt := position_lt hj hi (Nat.lt_succ_self j)
    exact ⟨j, b, a, hj, hi, by omega, by omega, Or.inr ⟨hsource.symm, htarget.symm⟩⟩

/-- Between two neighbours there is no column that also lies between two others. -/
theorem sameEnds_of_between (hjoins : layout.Joins connection wire)
    (hjoins' : layout.Joins other wire') (hadjacent : wire.adjacent = true)
    (hadjacent' : wire'.adjacent = true) (hcolumn : wire.left < column ∧ column < wire.right)
    (hcolumn' : wire'.left < column ∧ column < wire'.right) : connection.SameEnds other := by
  obtain ⟨k, a, b, ha, hb, hleft, hright, hends⟩ := hjoins.exists_next hadjacent
  obtain ⟨k', a', b', ha', hb', hleft', hright', hends'⟩ := hjoins'.exists_next hadjacent'
  -- Neither pair of terminals lies right of the other.
  have hnotRight : k' < k + 1 := index_lt ha' hb (by omega)
  have hnotLeft : k < k' + 1 := index_lt ha hb' (by omega)
  obtain rfl : k = k' := by omega
  rw [ha] at ha'
  rw [hb] at hb'
  cases ha'
  cases hb'
  unfold Connection.SameEnds
  rcases hends with ⟨hs, ht⟩ | ⟨hs, ht⟩ <;> rcases hends' with ⟨hs', ht'⟩ | ⟨hs', ht'⟩ <;>
    simp [hs, ht, hs', ht']

/-- A mark beside the labels lies between the ends of the wire, unless it is of a resistor that
needs more columns than there are. -/
theorem between_of_marks {terminals : List Terminal}
    (hwide : wire.adjacent = true → wire.resistor = true → 3 ≤ wire.gap)
    (hmarks : wire.Marks terminals labelRow column) :
    wire.adjacent = true ∧ wire.left < column ∧ column < wire.right := by
  cases hadjacent : wire.adjacent with
  | true =>
    obtain ⟨-, ⟨hleft, hright⟩, -⟩ := (Wire.marks_iff_of_adjacent hadjacent).1 hmarks
    have hcount := Wire.count_eq_gap (hwide hadjacent)
    unfold Wire.gap at hcount
    exact ⟨rfl, by omega, by omega⟩
  | false =>
    rcases (Wire.marks_iff_of_bus hadjacent).1 hmarks with ⟨hrow, -⟩ | ⟨hrow, -⟩
    · exact absurd hrow (by decide)
    · exact absurd hrow (by decide)

/-! ## Order -/

section Order

variable {connections connections' : List Connection}

/-- The last mark in a cell stays if the order is kept among the connections that have one there. -/
theorem findSomeRev?_mark?_of_perm {among : Connection → Bool}
    (hperm : connections'.Perm connections)
    (hkeeps : KeepsOrder among connections connections')
    (hamong : ∀ connection ∈ connections,
      (layout.mark? row column connection).isSome = true → among connection = true) :
    connections'.findSomeRev? (layout.mark? row column) =
      connections.findSomeRev? (layout.mark? row column) := by
  have hamong' : ∀ connection ∈ connections',
      (layout.mark? row column connection).isSome = true → among connection = true := by
    intro connection hmem
    exact hamong connection (hperm.mem_iff.1 hmem)
  unfold KeepsOrder at hkeeps
  rw [← findSomeRev?_filter_of_isSome hamong, ← hkeeps, findSomeRev?_filter_of_isSome hamong']

theorem Resolves.perm (hresolves : layout.Resolves connections)
    (hperm : connections'.Perm connections) : layout.Resolves connections' := by
  intro connection hmem
  exact hresolves connection (hperm.mem_iff.1 hmem)

/-- Below the labels the order among the connections between neighbours does not matter. -/
theorem findSomeRev?_mark?_below (hperm : connections'.Perm connections)
    (hothers : KeepsOrder (fun other => !layout.neighbours other) connections connections')
    (hrow : row ≠ labelRow) :
    connections'.findSomeRev? (layout.mark? row column) =
      connections.findSomeRev? (layout.mark? row column) := by
  apply findSomeRev?_mark?_of_perm hperm hothers
  intro connection _ hmark
  by_contra hneighbours
  exact hrow (row_eq_of_neighbours (by simpa using hneighbours) hmark)

/-- Connections may be mixed as long as the order is kept among those between neighbours and among
the others. -/
theorem draw_of_mixed (hresolves : layout.Resolves connections)
    (hperm : connections'.Perm connections)
    (hneighbours : KeepsOrder layout.neighbours connections connections')
    (hothers : KeepsOrder (fun other => !layout.neighbours other) connections connections') :
    layout.draw connections' = layout.draw connections := by
  apply draw_eq_of_marks hresolves (hresolves.perm hperm)
  intro row column
  by_cases hrow : row = labelRow
  · apply findSomeRev?_mark?_of_perm hperm hneighbours
    intro connection _ hmark
    by_contra hnot
    exact row_ne_of_not_neighbours (by simpa using hnot) hmark hrow
  · exact findSomeRev?_mark?_below hperm hothers hrow

/-- If no resistor between neighbours runs past its gap, only the order among the connections of one
pair of neighbours matters, and the order among those that join no neighbours. -/
theorem draw_of_sorted_pairs (hresolves : layout.Resolves connections)
    (hwide : ∀ connection ∈ connections, ∀ wire, layout.Joins connection wire →
      wire.adjacent = true → wire.resistor = true → 3 ≤ wire.gap)
    (hperm : connections'.Perm connections)
    (hpairs : ∀ connection ∈ connections, layout.neighbours connection = true →
      KeepsOrder (fun other => connection.SameEnds other) connections connections')
    (hothers : KeepsOrder (fun other => !layout.neighbours other) connections connections') :
    layout.draw connections' = layout.draw connections := by
  apply draw_eq_of_marks hresolves (hresolves.perm hperm)
  intro row column
  by_cases hrow : row = labelRow
  swap
  · exact findSomeRev?_mark?_below hperm hothers hrow
  subst hrow
  by_cases hmarked : ∃ connection ∈ connections,
      (layout.mark? labelRow column connection).isSome = true
  · obtain ⟨connection, hmem, hmark⟩ := hmarked
    obtain ⟨wire, hjoins, hmarks⟩ := isSome_mark?_iff.1 hmark
    obtain ⟨hadjacent, hcolumn⟩ := between_of_marks (hwide connection hmem wire hjoins) hmarks
    have hneighbours : layout.neighbours connection = true := by
      rw [neighbours_of_joins hjoins, hadjacent]
    -- All that is drawn in this column joins the same two terminals.
    apply findSomeRev?_mark?_of_perm hperm (hpairs connection hmem hneighbours)
    intro other hother hmark'
    obtain ⟨wire', hjoins', hmarks'⟩ := isSome_mark?_iff.1 hmark'
    obtain ⟨hadjacent', hcolumn'⟩ := between_of_marks (hwide other hother wire' hjoins') hmarks'
    exact decide_eq_true
      (sameEnds_of_between hjoins hjoins' hadjacent hadjacent' hcolumn hcolumn')
  · have hnone : KeepsOrder (fun _ => false) connections connections' := by simp [KeepsOrder]
    apply findSomeRev?_mark?_of_perm hperm hnone
    intro connection hmem hmark
    exact absurd ⟨connection, hmem, hmark⟩ hmarked

end Order

/-- Whatever can be drawn is drawn alike after some connections have been written in the other
direction; in another order that is kept among the connections between neighbours and among the
others; and, if no resistor between neighbours has fewer than three columns, in another order that
is kept among the connections of each pair of neighbours and among those that join no neighbours. -/
theorem draw_reordered {connections : List Connection} (hresolves : layout.Resolves connections) :
    ∃ lines, layout.draw connections = .ok lines ∧ lines.length = rowCount ∧
      (∀ connections', Redirected connections connections' →
        layout.draw connections' = .ok lines) ∧
      (∀ connections', connections'.Perm connections →
        KeepsOrder layout.neighbours connections connections' →
        KeepsOrder (fun other => !layout.neighbours other) connections connections' →
        layout.draw connections' = .ok lines) ∧
      ((∀ connection ∈ connections, ∀ wire, layout.Joins connection wire →
          wire.adjacent = true → wire.resistor = true → 3 ≤ wire.gap) →
        ∀ connections', connections'.Perm connections →
          (∀ connection ∈ connections, layout.neighbours connection = true →
            KeepsOrder (fun other => connection.SameEnds other) connections connections') →
          KeepsOrder (fun other => !layout.neighbours other) connections connections' →
          layout.draw connections' = .ok lines) := by
  obtain ⟨lines, hdraw, hlength⟩ := hresolves.exists_lines
  refine ⟨lines, hdraw, hlength, ?_, ?_, ?_⟩
  · intro connections' hredirected
    rw [← hdraw]
    exact draw_of_redirected hresolves hredirected
  · intro connections' hperm hneighbours hothers
    rw [← hdraw]
    exact draw_of_mixed hresolves hperm hneighbours hothers
  · intro hwide connections' hperm hpairs hothers
    rw [← hdraw]
    exact draw_of_sorted_pairs hresolves hwide hperm hpairs hothers

/-- Three terminals, the first two of which have room for a resistor between them. -/
def roomy : Layout :=
  .ofTerminals [⟨"A", 1, 0⟩, ⟨"B", 1, 4⟩, ⟨"C", 1, 6⟩]
    (by decide) (by decide) (by decide) (by decide)

/-- Connections of all three pairs, in another direction and in other orders. -/
theorem draw_reordered_roomy :
    ∃ lines, roomy.draw [⟨"A", "B", true⟩, ⟨"B", "C", false⟩, ⟨"C", "A", true⟩] = .ok lines ∧
      roomy.draw [⟨"B", "A", true⟩, ⟨"B", "C", false⟩, ⟨"A", "C", true⟩] = .ok lines ∧
      roomy.draw [⟨"C", "A", true⟩, ⟨"A", "B", true⟩, ⟨"B", "C", false⟩] = .ok lines ∧
      roomy.draw [⟨"B", "C", false⟩, ⟨"C", "A", true⟩, ⟨"A", "B", true⟩] = .ok lines := by
  have hresistor : roomy.Joins ⟨"A", "B", true⟩ ⟨0, 4, true, true⟩ := resolve_eq_ok_iff.1 rfl
  have hplain : roomy.Joins ⟨"B", "C", false⟩ ⟨4, 6, true, false⟩ := resolve_eq_ok_iff.1 rfl
  have hbus : roomy.Joins ⟨"C", "A", true⟩ ⟨0, 6, false, true⟩ := resolve_eq_ok_iff.1 rfl
  have hresolves : roomy.Resolves [⟨"A", "B", true⟩, ⟨"B", "C", false⟩, ⟨"C", "A", true⟩] := by
    simp only [Resolves, List.forall_mem_cons]
    exact ⟨⟨_, hresistor⟩, ⟨_, hplain⟩, ⟨_, hbus⟩, by simp⟩
  have hwide : ∀ connection ∈ [⟨"A", "B", true⟩, ⟨"B", "C", false⟩, ⟨"C", "A", true⟩],
      ∀ wire, roomy.Joins connection wire →
        wire.adjacent = true → wire.resistor = true → 3 ≤ wire.gap := by
    simp only [List.forall_mem_cons]
    refine ⟨?_, ?_, ?_, by simp⟩
    · intro wire hjoins _ _
      rw [← hresistor.unique hjoins]
      decide
    · intro wire hjoins _ hwire
      rw [← hplain.unique hjoins] at hwire
      cases hwire
    · intro wire hjoins hadjacent
      rw [← hbus.unique hjoins] at hadjacent
      cases hadjacent
  obtain ⟨lines, hdraw, -, hredirected, hmixed, hsorted⟩ := draw_reordered hresolves
  refine ⟨lines, hdraw, ?_, ?_, ?_⟩
  · exact hredirected _ (.cons (Or.inr rfl) (.cons (Or.inl rfl) (.cons (Or.inr rfl) .nil)))
  · exact hmixed _ (by decide) (by decide) (by decide)
  · refine hsorted hwide _ (by decide) ?_ (by decide)
    simp only [List.forall_mem_cons]
    exact ⟨fun _ => by decide, fun _ => by decide, fun _ => by decide, by simp⟩

end Layout

end Piste.Diagram
