import Piste.Proofs.Diagram.Marks

/-!
# Superseded connections

A later connection of the same two terminals is drawn over an earlier one, whatever is drawn in
between. The earlier one can be left out if the later covers all of it, that is if its wire has as
many glyphs (`Wire.marks_of_count_le`). It has fewer only where a resistor that runs past its gap is
followed by a plain wire (`Wire.count_le_of_room`). `Layout.draw_superseded` is the result for lists
of connections.
-/

namespace Piste.Diagram

namespace Wire

variable {wire : Wire} {resistor : Bool}

/-- A wire with as many glyphs between the same ends has a mark wherever the other has one. -/
theorem marks_of_count_le {terminals : List Terminal} {row column : Nat}
    (hcount : wire.count ≤ { wire with resistor := resistor }.count)
    (hmarks : wire.Marks terminals row column) :
    { wire with resistor := resistor }.Marks terminals row column := by
  -- The resistor matters only for how far the glyphs run to the right.
  by_cases hadjacent : wire.adjacent = true
  · obtain ⟨hrow, ⟨hleft, hright⟩, hfree⟩ := (marks_iff_of_adjacent hadjacent).1 hmarks
    refine (marks_iff_of_adjacent ?_).2 ⟨hrow, ⟨hleft, ?_⟩, hfree⟩
    · exact hadjacent
    · show column < wire.left + 1 + _
      omega
  · have hbus : wire.adjacent = false := by simpa using hadjacent
    refine (marks_iff_of_bus ?_).2 ?_
    · exact hbus
    rcases (marks_iff_of_bus hbus).1 hmarks with hriser | ⟨hrow, hleft | hright | hglyph⟩
    · exact Or.inl hriser
    · exact Or.inr ⟨hrow, Or.inl hleft⟩
    · exact Or.inr ⟨hrow, Or.inr (Or.inl hright)⟩
    · refine Or.inr ⟨hrow, Or.inr (Or.inr ⟨hglyph.1, ?_⟩)⟩
      show column < wire.left + 1 + _
      omega

/-- Only a plain wire after a resistor in a narrow gap has fewer glyphs. -/
theorem count_le_of_room (hroom : wire.resistor = false ∨ resistor = true ∨ 3 ≤ wire.gap) :
    wire.count ≤ { wire with resistor := resistor }.count := by
  by_cases hresistor : resistor = true
  · have hcount : { wire with resistor := resistor }.count = max wire.gap 3 :=
      count_of_resistor hresistor
    have hle := wire.count_le_max
    omega
  · have hcount : wire.count = wire.gap := by
      apply count_eq_gap
      intro hwire
      simpa [hwire, hresistor] using hroom
    have hle : wire.gap ≤ { wire with resistor := resistor }.count :=
      gap_le_count { wire with resistor := resistor }
    omega

end Wire

namespace Layout

variable {layout : Layout} {connection later : Connection} {wire : Wire}

/-- A later connection of the same ends has a mark wherever the earlier one has, unless only the
earlier is a resistor and its gap is narrow. -/
theorem isSome_mark?_of_sameEnds {row column : Nat} (hjoins : layout.Joins connection wire)
    (hends : connection.SameEnds later)
    (hroom : connection.resistor = false ∨ later.resistor = true ∨ 3 ≤ wire.gap)
    (hmark : (layout.mark? row column connection).isSome = true) :
    (layout.mark? row column later).isSome = true := by
  rw [mark?_of_joins hjoins, Wire.isSome_strokes_iff] at hmark
  rw [mark?_of_joins (hjoins.of_sameEnds hends), Wire.isSome_strokes_iff]
  rw [← hjoins.resistor_eq] at hroom
  exact Wire.marks_of_count_le (Wire.count_le_of_room hroom) hmark

/-- Whatever comes before, between and after, a covered connection can be left out. -/
theorem draw_of_dropped {before middle after : List Connection}
    (hresolves : layout.Resolves (before ++ connection :: (middle ++ later :: after)))
    (hjoins : layout.Joins connection wire) (hends : connection.SameEnds later)
    (hroom : connection.resistor = false ∨ later.resistor = true ∨ 3 ≤ wire.gap) :
    layout.draw (before ++ (middle ++ later :: after)) =
      layout.draw (before ++ connection :: (middle ++ later :: after)) := by
  have hresolves' : layout.Resolves (before ++ (middle ++ later :: after)) := by
    intro other hmem
    apply hresolves
    rw [List.mem_append] at hmem ⊢
    exact hmem.imp id (List.mem_cons_of_mem connection)
  apply draw_eq_of_marks hresolves hresolves'
  intro row column
  have hcover : (layout.mark? row column connection).isSome = true →
      (layout.mark? row column later).isSome = true := isSome_mark?_of_sameEnds hjoins hends hroom
  exact (findSomeRev?_drop hcover before middle after).symm

/-- The same connections once more change nothing. -/
theorem draw_append_self {connections : List Connection}
    (hresolves : layout.Resolves connections) :
    layout.draw (connections ++ connections) = layout.draw connections := by
  have hresolves' : layout.Resolves (connections ++ connections) := by
    intro connection hmem
    apply hresolves
    simpa using hmem
  apply draw_eq_of_marks hresolves hresolves'
  intro row column
  rw [findSomeRev?_append, Option.or_self]

/-- Whatever can be drawn is drawn alike without a connection that a later one covers, and alike
when all is repeated. -/
theorem draw_superseded :
    (∀ (before middle after : List Connection) (connection later : Connection) (wire : Wire),
      layout.Resolves (before ++ connection :: (middle ++ later :: after)) →
      layout.Joins connection wire → connection.SameEnds later →
      (connection.resistor = false ∨ later.resistor = true ∨ 3 ≤ wire.gap) →
      ∃ lines, layout.draw (before ++ connection :: (middle ++ later :: after)) = .ok lines ∧
        lines.length = rowCount ∧
        layout.draw (before ++ (middle ++ later :: after)) = .ok lines) ∧
    ∀ connections : List Connection, layout.Resolves connections →
      ∃ lines, layout.draw connections = .ok lines ∧ lines.length = rowCount ∧
        layout.draw (connections ++ connections) = .ok lines := by
  constructor
  · intro before middle after connection later wire hresolves hjoins hends hroom
    obtain ⟨lines, hdraw, hlength⟩ := hresolves.exists_lines
    refine ⟨lines, hdraw, hlength, ?_⟩
    rw [draw_of_dropped hresolves hjoins hends hroom, hdraw]
  · intro connections hresolves
    obtain ⟨lines, hdraw, hlength⟩ := hresolves.exists_lines
    refine ⟨lines, hdraw, hlength, ?_⟩
    rw [draw_append_self hresolves, hdraw]

/-- A resistor in a narrow gap is left out before another of the same ends, though one between
neighbours is drawn in between. The other may be repeated. -/
theorem draw_superseded_crowded :
    (∃ lines, crowded.draw [⟨"A", "B", true⟩, ⟨"A", "C", true⟩, ⟨"B", "C", true⟩,
        ⟨"C", "A", true⟩] = .ok lines ∧
      crowded.draw [⟨"A", "B", true⟩, ⟨"B", "C", true⟩, ⟨"C", "A", true⟩] = .ok lines) ∧
    ∃ lines, crowded.draw [⟨"C", "A", true⟩] = .ok lines ∧
      crowded.draw [⟨"C", "A", true⟩, ⟨"C", "A", true⟩] = .ok lines := by
  have hleft : crowded.Joins ⟨"A", "B", true⟩ ⟨1, 2, true, true⟩ := resolve_eq_ok_iff.1 rfl
  have hright : crowded.Joins ⟨"B", "C", true⟩ ⟨2, 3, true, true⟩ := resolve_eq_ok_iff.1 rfl
  have hbus : crowded.Joins ⟨"A", "C", true⟩ ⟨1, 3, false, true⟩ := resolve_eq_ok_iff.1 rfl
  have hends : Connection.SameEnds ⟨"A", "C", true⟩ ⟨"C", "A", true⟩ := Or.inr ⟨rfl, rfl⟩
  have hback : crowded.Joins ⟨"C", "A", true⟩ ⟨1, 3, false, true⟩ := hbus.of_sameEnds hends
  have hresolves : crowded.Resolves
      ([⟨"A", "B", true⟩] ++ ⟨"A", "C", true⟩ :: ([⟨"B", "C", true⟩] ++ [⟨"C", "A", true⟩])) := by
    simp only [Resolves, List.cons_append, List.nil_append, List.forall_mem_cons]
    exact ⟨⟨_, hleft⟩, ⟨_, hbus⟩, ⟨_, hright⟩, ⟨_, hback⟩, by simp⟩
  have hresolves' : crowded.Resolves [⟨"C", "A", true⟩] := by
    simp only [Resolves, List.forall_mem_singleton]
    exact ⟨_, hback⟩
  constructor
  · obtain ⟨lines, hdraw, -, hdropped⟩ :=
      draw_superseded.1 _ _ _ _ _ _ hresolves hbus hends (Or.inr (Or.inl rfl))
    exact ⟨lines, hdraw, hdropped⟩
  · obtain ⟨lines, hdraw, -, hrepeated⟩ := draw_superseded.2 _ hresolves'
    exact ⟨lines, hdraw, hrepeated⟩

-- A plain wire leaves the resistor's last dash behind: it does not cover it.
example : crowded.draw [⟨"A", "C", true⟩, ⟨"C", "A", false⟩] ≠
    crowded.draw [⟨"C", "A", false⟩] := by decide +kernel

end Layout

end Piste.Diagram
