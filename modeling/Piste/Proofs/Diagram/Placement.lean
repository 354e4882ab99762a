import Mathlib.Data.List.Chain
import Piste.Diagram.Positions
import Piste.Proofs.Outcome
import Piste.Proofs.Table

/-!
# The columns that the walks find

`Positions.solve` walks outward from the anchor, to the left and to the right. This module says what
the two walks have in common: they build one list of columns in which neighbours stand a scaled
distance apart.

* `Spaced` is the relation between neighbours. `walkRight_eq_ok_iff`, `walkLeft_eq_ok_iff` and
  `outward_eq_ok_iff` say that a walk succeeds exactly if the columns it found are spaced and in
  bounds.
* `Placement` is what a solved list of terminals is, without a walk. `solve_eq_ok_iff` says that the
  solver finds exactly the placements.
-/

namespace Piste.Diagram.Positions

open Piste.Outcome

/-! ## The scale -/

theorem lt_iff_unpack {x y : Float} :
    x < y ↔ x.toModel.unpack.lt y.toModel.unpack = true :=
  decide_eq_true_iff (p := x.toModel < y.toModel)

theorem le_iff_unpack {x y : Float} :
    x ≤ y ↔ x.toModel.unpack.le y.toModel.unpack = true :=
  decide_eq_true_iff (p := x.toModel ≤ y.toModel)

theorem unpack_zero : (0 : Float).toModel.unpack = .zero .positive := rfl

/-- What is finite and not at most zero is above zero. -/
theorem pos_iff_not_le_zero {scale : Float} (hfinite : scale.isFinite = true) :
    0 < scale ↔ ¬scale ≤ 0 := by
  change scale.toModel.unpack.isFinite = true at hfinite
  rw [lt_iff_unpack, le_iff_unpack, unpack_zero]
  cases hscale : scale.toModel.unpack with
  | notANumber =>
    rw [hscale] at hfinite
    cases hfinite
  | infinity sign =>
    rw [hscale] at hfinite
    cases hfinite
  | zero sign => exact iff_of_false (by intro h; cases h) (fun h => h rfl)
  | finite sign mantissa exponent hpos =>
    cases sign with
    | positive => exact iff_of_true rfl (by intro h; cases h)
    | negative => exact iff_of_false (by intro h; cases h) (fun h => h rfl)

/-! ## Neighbours and walks -/

section Walks

variable (distances : DistanceTable) (scale : Float)

/-- The columns of two neighbours lie one scaled distance apart, and at least one column. -/
def Spaced (left right : String × Nat) : Prop :=
  ∃ mm, distances.get? left.1 right.1 = some mm ∧ 1 ≤ scaledStep mm scale ∧
    (right.2 : Int) - left.2 = scaledStep mm scale

variable {distances scale}

theorem Spaced.lt {left right : String × Nat} (h : Spaced distances scale left right) :
    left.2 < right.2 := by
  obtain ⟨mm, -, hpos, hgap⟩ := h
  omega

/-- Spaced columns increase along the list. -/
theorem pairwise_lt_of_isChain {entries : List (String × Nat)}
    (hchain : entries.IsChain (Spaced distances scale)) :
    entries.Pairwise fun a b => a.2 < b.2 := by
  have : Trans (fun a b : String × Nat => a.2 < b.2) (fun a b : String × Nat => a.2 < b.2)
      (fun a b : String × Nat => a.2 < b.2) := ⟨Nat.lt_trans⟩
  exact List.isChain_iff_pairwise.1 (hchain.imp fun _ _ h => h.lt)

theorem stepBetween_eq_ok_iff {left right : String} {step : Nat} :
    stepBetween distances scale left right = .ok step ↔
      ∃ mm, distances.get? left right = some mm ∧ 1 ≤ scaledStep mm scale ∧
        (step : Int) = scaledStep mm scale := by
  unfold stepBetween
  cases hmm : distances.get? left right with
  | none =>
    constructor
    · intro h
      cases h
    · rintro ⟨mm, hnone, -⟩
      cases hnone
  | some mm =>
    by_cases hlt : scaledStep mm scale < 1
    · simp only [hlt, if_true]
      constructor
      · intro h
        cases h
      · rintro ⟨mm', hmm', hpos, -⟩
        cases hmm'
        omega
    · simp only [hlt, if_false, Except.ok.injEq]
      constructor
      · rintro rfl
        exact ⟨mm, rfl, by omega, by omega⟩
      · rintro ⟨mm', hmm', hpos, hstep⟩
        cases hmm'
        omega

/-- A step between two terminals puts them at spaced columns. -/
theorem spaced_iff_stepBetween {left right : String} {a b : Nat} :
    Spaced distances scale (left, a) (right, b) ↔
      ∃ step, stepBetween distances scale left right = .ok step ∧ b = a + step := by
  constructor
  · rintro ⟨mm, hmm, hpos, hgap⟩
    refine ⟨b - a, stepBetween_eq_ok_iff.2 ⟨mm, hmm, hpos, ?_⟩, ?_⟩
    · simp only at hgap
      omega
    · simp only at hgap
      omega
  · rintro ⟨step, hstep, rfl⟩
    obtain ⟨mm, hmm, hpos, hcast⟩ := stepBetween_eq_ok_iff.1 hstep
    refine ⟨mm, hmm, hpos, ?_⟩
    simp only
    omega

/-- The walk to the right finds spaced columns, none beyond the last one. -/
theorem walkRight_eq_ok_iff {left : String} {column : Nat} {rest : List String}
    {placed : List (String × Nat)} :
    walkRight distances scale left column rest = .ok placed ↔
      placed.map Prod.fst = rest ∧
        ((left, column) :: placed).IsChain (Spaced distances scale) ∧
        ∀ entry ∈ placed, entry.2 ≤ maxColumn := by
  induction rest generalizing left column placed with
  | nil =>
    rw [walkRight, List.map_eq_nil_iff]
    constructor
    · intro h
      cases h
      exact ⟨rfl, List.isChain_singleton _, by simp⟩
    · rintro ⟨rfl, -⟩
      rfl
  | cons right rest ih =>
    rw [walkRight, bind_eq_ok_iff]
    constructor
    · rintro ⟨step, hstep, h⟩
      split at h
      · cases h
      rename_i hfit
      obtain ⟨more, hmore, h⟩ := bind_eq_ok_iff.1 h
      cases h
      obtain ⟨hids, hchain, hbound⟩ := ih.1 hmore
      refine ⟨by rw [List.map_cons, hids], ?_, ?_⟩
      · exact List.isChain_cons_cons.2 ⟨spaced_iff_stepBetween.2 ⟨step, hstep, rfl⟩, hchain⟩
      · exact List.forall_mem_cons.2 ⟨Nat.le_of_not_lt hfit, hbound⟩
    · rintro ⟨hids, hchain, hbound⟩
      obtain ⟨⟨id, b⟩, more, rfl, hid, hmore⟩ := List.map_eq_cons_iff.1 hids
      obtain rfl : id = right := hid
      rw [List.isChain_cons_cons] at hchain
      rw [List.forall_mem_cons] at hbound
      obtain ⟨step, hstep, rfl⟩ := spaced_iff_stepBetween.1 hchain.1
      refine ⟨step, hstep, ?_⟩
      rw [if_neg (Nat.not_lt.2 hbound.1), bind_eq_ok_iff]
      exact ⟨more, ih.2 ⟨hmore, hchain.2, hbound.2⟩, rfl⟩

/-- The walk to the left finds spaced columns too, which it lists from right to left. -/
theorem walkLeft_eq_ok_iff {right : String} {column : Nat} {rest : List String}
    {placed : List (String × Nat)} :
    walkLeft distances scale right column rest = .ok placed ↔
      placed.map Prod.fst = rest ∧
        ((right, column) :: placed).IsChain fun r l => Spaced distances scale l r := by
  induction rest generalizing right column placed with
  | nil =>
    rw [walkLeft, List.map_eq_nil_iff]
    constructor
    · intro h
      cases h
      exact ⟨rfl, List.isChain_singleton _⟩
    · rintro ⟨rfl, -⟩
      rfl
  | cons left rest ih =>
    rw [walkLeft, bind_eq_ok_iff]
    constructor
    · rintro ⟨step, hstep, h⟩
      split at h
      · cases h
      rename_i hfit
      obtain ⟨more, hmore, h⟩ := bind_eq_ok_iff.1 h
      cases h
      obtain ⟨hids, hchain⟩ := ih.1 hmore
      have hcolumn : column = column - step + step := by omega
      refine ⟨by rw [List.map_cons, hids], ?_⟩
      exact List.isChain_cons_cons.2 ⟨spaced_iff_stepBetween.2 ⟨step, hstep, hcolumn⟩, hchain⟩
    · rintro ⟨hids, hchain⟩
      obtain ⟨⟨id, a⟩, more, rfl, hid, hmore⟩ := List.map_eq_cons_iff.1 hids
      obtain rfl : id = left := hid
      rw [List.isChain_cons_cons] at hchain
      obtain ⟨step, hstep, rfl⟩ := spaced_iff_stepBetween.1 hchain.1
      refine ⟨step, hstep, ?_⟩
      rw [if_neg (by omega), Nat.add_sub_cancel, bind_eq_ok_iff]
      exact ⟨more, ih.2 ⟨hmore, hchain.2⟩, rfl⟩

/-- Around an anchor that is in bounds the two walks find one list of spaced columns. -/
theorem outward_eq_ok_iff {anchor : Anchor} {before after : List String} {positions : Positions} :
    outward distances scale anchor before after = .ok positions ↔
      ∃ left right, left.map Prod.fst = before ∧ right.map Prod.fst = after ∧
        (left ++ (anchor.terminal, anchor.column) :: right).IsChain (Spaced distances scale) ∧
        (∀ entry ∈ right, entry.2 ≤ maxColumn) ∧
        positions = Table.ofList (left ++ (anchor.terminal, anchor.column) :: right) := by
  rw [outward, bind_eq_ok_iff]
  constructor
  · rintro ⟨left, hleft, h⟩
    obtain ⟨right, hright, h⟩ := bind_eq_ok_iff.1 h
    cases h
    obtain ⟨hbefore, hleftChain⟩ := walkLeft_eq_ok_iff.1 hleft
    obtain ⟨hafter, hrightChain, hbound⟩ := walkRight_eq_ok_iff.1 hright
    refine ⟨left.reverse, right, ?_, hafter, List.isChain_split.2 ⟨?_, hrightChain⟩, hbound, rfl⟩
    · rw [List.map_reverse, hbefore, List.reverse_reverse]
    · rwa [← List.reverse_cons, List.isChain_reverse]
  · rintro ⟨left, right, rfl, rfl, hchain, hbound, rfl⟩
    obtain ⟨hleftChain, hrightChain⟩ := List.isChain_split.1 hchain
    refine ⟨left.reverse, walkLeft_eq_ok_iff.2 ⟨List.map_reverse, ?_⟩, ?_⟩
    · rw [← List.isChain_reverse, List.reverse_cons, List.reverse_reverse]
      exact hleftChain
    · rw [bind_eq_ok_iff]
      refine ⟨right, walkRight_eq_ok_iff.2 ⟨rfl, hrightChain, hbound⟩, ?_⟩
      rw [List.reverse_reverse]

end Walks

/-! ## Placements -/

/-- The columns of a solved list of terminals, from left to right. -/
structure Placement (terminals : List String) (distances : DistanceTable) (scale : Float)
    (anchor : Anchor) (entries : List (String × Nat)) : Prop where
  ids : entries.map Prod.fst = terminals
  distinct : terminals.Nodup
  finite : scale.isFinite = true
  positive : 0 < scale
  anchored : (anchor.terminal, anchor.column) ∈ entries
  spaced : entries.IsChain (Spaced distances scale)
  bounded : ∀ entry ∈ entries, entry.2 ≤ maxColumn

section Solving

variable {terminals : List String} {distances : DistanceTable} {scale : Float} {anchor : Anchor}

/-- The solver cuts distinct terminals at the anchor. -/
theorem cut_at_anchor {id : String} {before after : List String}
    (hdistinct : (before ++ id :: after).Nodup) :
    (before ++ id :: after).takeWhile (· ≠ id) = before ∧
      (before ++ id :: after).dropWhile (· ≠ id) = id :: after := by
  have hbefore : ∀ other ∈ before, decide (other ≠ id) = true := by
    intro other hother
    exact decide_eq_true ((List.nodup_append.1 hdistinct).2.2 other hother id List.mem_cons_self)
  rw [List.takeWhile_append_of_pos hbefore, List.dropWhile_append_of_pos hbefore]
  simp

theorem eq_append_of_dropWhile {id other : String} {terminals after : List String}
    (hafter : terminals.dropWhile (· ≠ id) = other :: after) :
    terminals = terminals.takeWhile (· ≠ id) ++ id :: after := by
  have hother : other = id := by
    have hhead := List.head?_dropWhile_not (fun x => decide (x ≠ id)) terminals
    rw [hafter] at hhead
    simpa using hhead
  calc terminals = terminals.takeWhile (· ≠ id) ++ terminals.dropWhile (· ≠ id) :=
        List.takeWhile_append_dropWhile.symm
    _ = terminals.takeWhile (· ≠ id) ++ id :: after := by rw [hafter, hother]

/-- The columns left of the anchor are in bounds with it, since they are smaller. -/
theorem bounded_of_isChain {left right : List (String × Nat)} {entry : String × Nat}
    (hchain : (left ++ entry :: right).IsChain (Spaced distances scale))
    (hentry : entry.2 ≤ maxColumn) (hright : ∀ other ∈ right, other.2 ≤ maxColumn) :
    ∀ other ∈ left ++ entry :: right, other.2 ≤ maxColumn := by
  have hpairwise := pairwise_lt_of_isChain hchain
  intro other hother
  rcases List.mem_append.1 hother with hleft | hrest
  · exact Nat.le_trans
      (Nat.le_of_lt ((List.pairwise_append.1 hpairwise).2.2 other hleft entry List.mem_cons_self))
      hentry
  · rcases List.mem_cons.1 hrest with rfl | hmem
    · exact hentry
    · exact hright other hmem

/-- The solver finds exactly the placements. -/
theorem solve_eq_ok_iff {positions : Positions} :
    solve terminals distances scale anchor = .ok positions ↔
      ∃ entries, Placement terminals distances scale anchor entries ∧
        positions = Table.ofList entries := by
  unfold solve
  constructor
  · intro h
    split at h
    · cases h
    split at h
    · cases h
    rename_i hscale
    rw [Bool.or_eq_true, not_or, Bool.not_eq_true', Bool.not_eq_false, decide_eq_true_iff] at hscale
    cases hrepeat : firstRepeat? [] terminals with
    | some id =>
      rw [hrepeat] at h
      cases h
    | none =>
      simp only [hrepeat] at h
      have hdistinct := (firstRepeat?_eq_none_iff.1 hrepeat).1
      cases hrest : terminals.dropWhile (· ≠ anchor.terminal) with
      | nil =>
        simp only [hrest] at h
        cases h
      | cons id after =>
        simp only [hrest] at h
        split at h
        · cases h
        rename_i hcolumn
        obtain ⟨left, right, hleft, rfl, hchain, hbound, rfl⟩ := outward_eq_ok_iff.1 h
        refine ⟨_, ?_, rfl⟩
        refine ⟨?_, hdistinct, hscale.1, (pos_iff_not_le_zero hscale.1).2 hscale.2, by simp, hchain,
          bounded_of_isChain hchain (Nat.le_of_not_lt hcolumn) hbound⟩
        rw [List.map_append, List.map_cons, hleft]
        exact (eq_append_of_dropWhile hrest).symm
  · rintro ⟨entries, ⟨rfl, hdistinct, hfinite, hpos, hanchor, hchain, hbound⟩, rfl⟩
    have hcolumn : ¬maxColumn < anchor.column := Nat.not_lt.2 (hbound _ hanchor)
    obtain ⟨left, right, rfl⟩ := List.append_of_mem hanchor
    have hrepeat : firstRepeat? [] ((left ++ (anchor.terminal, anchor.column) :: right).map
        Prod.fst) = none := firstRepeat?_eq_none_iff.2 ⟨hdistinct, by simp⟩
    rw [if_neg (by simp), if_neg (by simp [hfinite, (pos_iff_not_le_zero hfinite).1 hpos])]
    rw [List.map_append, List.map_cons] at hdistinct hrepeat ⊢
    obtain ⟨hbefore, hafter⟩ := cut_at_anchor hdistinct
    simp only [hrepeat, hbefore, hafter, hcolumn, if_false]
    refine outward_eq_ok_iff.2 ⟨left, right, rfl, rfl, hchain, ?_, rfl⟩
    exact fun entry hentry => hbound entry (by simp [hentry])

end Solving

end Piste.Diagram.Positions
