import Piste.LayoutFile.Basic
import Piste.Proofs.Table

/-!
# Distances as they are entered

A table of distances is made by entering them one after another. What it answers is told by this
log: the distance entered last for the pair in the order asked for, or else the one entered last for
the pair the other way round (`DistanceTable.get?_eq_some_iff`). Entries of different pairs do not
disturb each other, so that a log may be put into another order as long as the entries of each pair
keep theirs (`DistanceTable.get?_of_reorders`).

The solver knows a table by its answers alone (`Layout.solve_congr`). It does not matter, then, in
which order a layout file lists distances of different pairs: `LayoutFile.layout_of_reorders`.
-/

namespace Piste

namespace Diagram

/-! ## The log of a table -/

namespace DistanceTable

/-- The pair that a distance is entered for, in the order in which it was written. -/
def pair (entry : String × String × Float) : String × String :=
  (entry.1, entry.2.1)

/-- Some distance has been entered for the pair in exactly this order. -/
def Entered (log : List (String × String × Float)) (left right : String) : Prop :=
  ∃ entry ∈ log, pair entry = (left, right)

/-- `mm` has been entered for the pair in exactly this order, and none after it. -/
def LastEntered (log : List (String × String × Float)) (left right : String) (mm : Float) : Prop :=
  ∃ before after, log = before ++ (left, right, mm) :: after ∧ ¬Entered after left right

/-- `log'` has the entries of `log` in another order, which is kept among those of each pair. -/
structure Reorders (log log' : List (String × String × Float)) : Prop where
  perm : log'.Perm log
  kept : ∀ left right, (log'.filter fun entry => pair entry = (left, right)) =
    log.filter fun entry => pair entry = (left, right)

instance (log : List (String × String × Float)) (left right : String) :
    Decidable (Entered log left right) :=
  inferInstanceAs (Decidable (∃ entry ∈ log, pair entry = (left, right)))

variable {log log' : List (String × String × Float)} {left right : String} {mm : Float}

theorem not_entered_iff :
    ¬Entered log left right ↔ ∀ entry ∈ log, ¬pair entry = (left, right) := by
  unfold Entered
  push Not
  rfl

theorem insertAll_eq (table : DistanceTable) (log : List (String × String × Float)) :
    (table.insertAll log).entries =
      (log.map fun entry => (pair entry, entry.2.2)).foldl
        (fun table entry => table.insert entry.1 entry.2) table.entries := by
  induction log generalizing table with
  | nil => rfl
  | cons entry log ih => exact ih (table.insert entry.1 entry.2.1 entry.2.2)

/-- Entering one more distance adds it to the log. -/
theorem ofList_concat (log : List (String × String × Float)) (left right : String) (mm : Float) :
    (ofList log).insert left right mm = ofList (log ++ [(left, right, mm)]) := by
  rw [ofList, ofList, insertAll, insertAll, List.foldl_append]
  rfl

theorem ofList_eq (log : List (String × String × Float)) :
    (ofList log).entries = Table.ofList (log.map fun entry => (pair entry, entry.2.2)) :=
  insertAll_eq empty log

theorem stored_eq (log : List (String × String × Float)) (left right : String) :
    (ofList log).entries.get? (left, right) =
      log.findSomeRev? fun entry =>
        if pair entry = (left, right) then some entry.2.2 else none := by
  rw [ofList_eq, Table.get?_ofList, findSomeRev?_map]

/-- Under a pair in one order the last distance entered for it is stored. -/
theorem stored_eq_some_iff :
    (ofList log).entries.get? (left, right) = some mm ↔ LastEntered log left right mm := by
  rw [stored_eq, findSomeRev?_ite_eq_some_iff]
  constructor
  · rintro ⟨before, ⟨l, r, value⟩, after, hlog, hpair, rfl, hafter⟩
    obtain ⟨rfl, rfl⟩ : l = left ∧ r = right := Prod.mk.inj hpair
    exact ⟨before, after, hlog, not_entered_iff.2 hafter⟩
  · rintro ⟨before, after, hlog, hafter⟩
    exact ⟨before, (left, right, mm), after, hlog, rfl, rfl, not_entered_iff.1 hafter⟩

theorem stored_eq_none_iff :
    (ofList log).entries.get? (left, right) = none ↔ ¬Entered log left right := by
  rw [stored_eq, findSomeRev?_ite_eq_none_iff, not_entered_iff]

/-! ## Look-ups -/

theorem get?_eq_or (table : DistanceTable) (left right : String) :
    table.get? left right =
      (table.entries.get? (left, right)).or (table.entries.get? (right, left)) := by
  rw [get?]
  cases table.entries.get? (left, right) <;> rfl

/-- The order asked for comes first, then the other one. -/
theorem get?_eq_some_iff :
    (ofList log).get? left right = some mm ↔
      LastEntered log left right mm ∨
        ¬Entered log left right ∧ LastEntered log right left mm := by
  rw [get?_eq_or, Option.or_eq_some_iff, stored_eq_some_iff, stored_eq_none_iff,
    stored_eq_some_iff]

theorem get?_eq_none_iff :
    (ofList log).get? left right = none ↔
      ¬Entered log left right ∧ ¬Entered log right left := by
  rw [get?_eq_or, Option.or_eq_none_iff, stored_eq_none_iff, stored_eq_none_iff]

/-- A pair is known in both orders or in none. -/
theorem isSome_get?_swap (log : List (String × String × Float)) (left right : String) :
    ((ofList log).get? left right).isSome = ((ofList log).get? right left).isSome := by
  rw [get?_eq_or, get?_eq_or, Option.isSome_or, Option.isSome_or, Bool.or_comm]

/-- Only a pair that has been entered in both orders may have two distances. -/
theorem get?_swap (honce : ¬(Entered log left right ∧ Entered log right left)) :
    (ofList log).get? left right = (ofList log).get? right left := by
  rw [get?_eq_or, get?_eq_or]
  by_cases hentered : Entered log left right
  · have hnone : (ofList log).entries.get? (right, left) = none :=
      stored_eq_none_iff.2 fun hback => honce ⟨hentered, hback⟩
    rw [hnone, Option.or_none, Option.none_or]
  · rw [stored_eq_none_iff.2 hentered, Option.or_none, Option.none_or]

/-- The two orders of a pair count apart, and each once. -/
theorem size_ofList (log : List (String × String × Float)) :
    (ofList log).size = (log.map pair).dedup.length := by
  rw [size, ofList_eq, Table.size_ofList, List.map_map]
  rfl

/-! ## Other orders -/

/-- Only the entries of the pair itself decide what is stored under it. -/
theorem stored_eq_filter (log : List (String × String × Float)) (left right : String) :
    (ofList log).entries.get? (left, right) =
      (log.filter fun entry => pair entry = (left, right)).findSomeRev?
        fun entry => some entry.2.2 := by
  rw [stored_eq, findSomeRev?_filter]
  simp only [decide_eq_true_eq]

theorem stored_of_reorders (h : Reorders log log') (left right : String) :
    (ofList log').entries.get? (left, right) = (ofList log).entries.get? (left, right) := by
  rw [stored_eq_filter, stored_eq_filter, h.kept left right]

theorem get?_of_reorders (h : Reorders log log') (left right : String) :
    (ofList log').get? left right = (ofList log).get? left right := by
  rw [get?_eq_or, get?_eq_or, stored_of_reorders h left right, stored_of_reorders h right left]

theorem size_of_reorders (h : Reorders log log') : (ofList log').size = (ofList log).size := by
  rw [size_ofList, size_ofList]
  exact (h.perm.map pair).dedup.length_eq

/-- Of a pair that is entered only once there is no order to keep. -/
theorem reorders_of_nodup (hdistinct : (log.map pair).Nodup) (hperm : log'.Perm log) :
    Reorders log log' := by
  refine ⟨hperm, fun left right => ?_⟩
  have hne : log.Pairwise fun a b => pair a ≠ pair b := List.pairwise_map.1 hdistinct
  have hne' : log'.Pairwise fun a b => pair a ≠ pair b :=
    List.pairwise_map.1 ((hperm.map pair).nodup_iff.2 hdistinct)
  -- No two entries may be left, as all that are left have the same pair.
  refine List.Perm.eq_of_pairwise ?_ (hne'.filter _) (hne.filter _) (hperm.filter _)
  intro a b ha hb hab _
  have hpair : pair a = (left, right) := by simpa using (List.mem_filter.1 ha).2
  have hpair' : pair b = (left, right) := by simpa using (List.mem_filter.1 hb).2
  exact absurd (hpair.trans hpair'.symm) hab

end DistanceTable

/-! ## What the solver knows of a table -/

section Solver

variable {distances distances' : DistanceTable}

namespace Positions

/-- Steps are read off the answers of the table. -/
theorem stepBetween_congr
    (hget : ∀ left right, distances'.get? left right = distances.get? left right) (scale : Float) :
    stepBetween distances' scale = stepBetween distances scale := by
  funext left right
  rw [stepBetween, stepBetween, hget]

theorem walkLeft_congr {scale : Float}
    (hstep : stepBetween distances' scale = stepBetween distances scale) (right : String)
    (column : Nat) (rest : List String) :
    walkLeft distances' scale right column rest = walkLeft distances scale right column rest := by
  induction rest generalizing right column with
  | nil => rfl
  | cons left rest ih => simp only [walkLeft, hstep, ih]

theorem walkRight_congr {scale : Float}
    (hstep : stepBetween distances' scale = stepBetween distances scale) (left : String)
    (column : Nat) (rest : List String) :
    walkRight distances' scale left column rest = walkRight distances scale left column rest := by
  induction rest generalizing left column with
  | nil => rfl
  | cons right rest ih => simp only [walkRight, hstep, ih]

theorem solve_congr
    (hget : ∀ left right, distances'.get? left right = distances.get? left right)
    (terminals : List String) (scale : Float) (anchor : Anchor) :
    solve terminals distances' scale anchor = solve terminals distances scale anchor := by
  have hstep := stepBetween_congr hget scale
  have houtward : outward distances' scale = outward distances scale := by
    funext anchor before after
    simp only [outward, walkLeft_congr hstep, walkRight_congr hstep]
  rw [solve, solve, houtward]

end Positions

/-- Tables that answer alike give the same layout, or the same error. -/
theorem Layout.solve_congr
    (hget : ∀ left right, distances'.get? left right = distances.get? left right)
    (order : List String) (scale : Float) (anchor : Anchor) (labelWidths : Table String Nat) :
    Layout.solve order distances' scale anchor labelWidths =
      Layout.solve order distances scale anchor labelWidths := by
  rw [Layout.solve, Layout.solve, Positions.solve_congr hget]

end Solver

end Diagram

open Diagram DistanceTable

namespace LayoutFile

/-- Distances that are listed in another order, kept among those of each pair, lay out alike. -/
theorem layout_of_reorders {file : LayoutFile} {distances' : List (String × String × Float)}
    (h : Reorders file.distances distances') :
    { file with distances := distances' }.layout = file.layout := by
  rw [layout, layout]
  congr 1
  exact Layout.solve_congr (get?_of_reorders h) _ _ _ _

/-- What a table of distances answers is told by the log of what has been entered, and the order of
the log matters among the entries of one pair only. -/
theorem distances_of_log (log : List (String × String × Float)) :
    (∀ left right mm, (ofList log).insert left right mm = ofList (log ++ [(left, right, mm)])) ∧
    (∀ left right mm, (ofList log).get? left right = some mm ↔
      LastEntered log left right mm ∨
        ¬Entered log left right ∧ LastEntered log right left mm) ∧
    (∀ left right, (ofList log).get? left right = none ↔
      ¬Entered log left right ∧ ¬Entered log right left) ∧
    (∀ left right,
      ((ofList log).get? left right).isSome = ((ofList log).get? right left).isSome) ∧
    (∀ left right, ¬(Entered log left right ∧ Entered log right left) →
      (ofList log).get? left right = (ofList log).get? right left) ∧
    (ofList log).size = (log.map pair).dedup.length ∧
    (∀ log', Reorders log log' →
      (∀ left right, (ofList log').get? left right = (ofList log).get? left right) ∧
        (ofList log').size = (ofList log).size) ∧
    ∀ file : LayoutFile, file.distances = log → (log.map pair).Nodup →
      ∀ distances', distances'.Perm log →
        { file with distances := distances' }.layout = file.layout := by
  refine ⟨ofList_concat log, fun _ _ _ => get?_eq_some_iff, fun _ _ => get?_eq_none_iff,
    isSome_get?_swap log, fun _ _ => get?_swap, size_ofList log, ?_, ?_⟩
  · intro log' hreorders
    exact ⟨get?_of_reorders hreorders, size_of_reorders hreorders⟩
  · rintro file rfl hdistinct distances' hperm
    exact layout_of_reorders (reorders_of_nodup hdistinct hperm)

/-- `A` and `B` are entered in both orders, and in one of them twice. -/
def reentered : List (String × String × Float) :=
  [("A", "B", 1.0), ("B", "A", 2.0), ("C", "B", 4.0), ("A", "B", 3.0)]

/-- Three terminals, the distance between the last two being listed the other way round. -/
def threeInRow : LayoutFile where
  terminals := ["A", "B", "C"]
  anchor := "B"
  center := 10
  scale := 1.0
  distances := [("A", "B", 4.0), ("C", "B", 6.0)]
  labelWidths := .ofList []
  connectionSets := []

/-- Each order of `A` and `B` has its own distance, the last one entered; `B` and `C` have one in
both orders. -/
theorem distances_of_reentered :
    (ofList reentered).get? "A" "B" = some 3.0 ∧ (ofList reentered).get? "B" "A" = some 2.0 ∧
    (ofList reentered).get? "B" "C" = some 4.0 ∧
    (ofList reentered).get? "B" "C" = (ofList reentered).get? "C" "B" ∧
    (ofList reentered).get? "A" "C" = none ∧ (ofList reentered).size = 3 ∧
    (ofList [("B", "A", 2.0), ("A", "B", 1.0), ("A", "B", 3.0), ("C", "B", 4.0)]).get? "A" "B" =
      some 3.0 ∧
    { threeInRow with distances := [("C", "B", 6.0), ("A", "B", 4.0)] }.layout =
      threeInRow.layout := by
  obtain ⟨-, hsome, hnone, -, hswap, hsize, hreorders, -⟩ := distances_of_log reentered
  obtain ⟨-, -, -, -, -, -, -, hfile⟩ := distances_of_log threeInRow.distances
  have hlast : (ofList reentered).get? "A" "B" = some 3.0 :=
    (hsome "A" "B" 3.0).2 (Or.inl ⟨[_, _, _], [], rfl, by decide⟩)
  refine ⟨hlast, ?_, ?_, hswap "B" "C" (by decide), (hnone "A" "C").2 (by decide), hsize, ?_, ?_⟩
  · exact (hsome "B" "A" 2.0).2 (Or.inl ⟨[_], [_, _], rfl, by decide⟩)
  · exact (hsome "B" "C" 4.0).2 (Or.inr ⟨by decide, [_, _], [_], rfl, by decide⟩)
  · rw [← hlast]
    refine (hreorders _ ⟨by decide, fun left right => ?_⟩).1 "A" "B"
    simp only [reentered, pair, List.filter_cons, List.filter_nil]
    grind
  · exact hfile threeInRow rfl (by decide) _ (by decide)

end LayoutFile

end Piste
