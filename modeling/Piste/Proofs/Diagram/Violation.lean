import Mathlib.Data.List.TakeWhile
import Piste.Proofs.Diagram.Solvable

/-!
# Why columns cannot be found

The solver checks the terminals as a whole and then walks outward from the anchor, first to the left
and then to the right. Whatever it reports is the first thing that is wrong in this order.

* Both walks are described as one, seen from the anchor: `Side` says which of two neighbours stands
  left, how columns are counted and where the canvas ends. `Clear` is a walk without a fault and
  `WalkFault` the first fault of a walk, each with the exact sum of the steps so far.
* `walk` is this one walk (`walkLeft_eq_walk`, `walkRight_eq_walk`). It stops at the first fault:
  `walk_eq_error_iff`, by `walkFault_cons_cons` for one step.
* `FirstViolation` puts the checks in order, and `solve_eq_error_iff` is the result.
-/

namespace Piste.Diagram.Positions

open Outcome

/-! ## The two sides of the anchor -/

/-- The direction of a walk from the anchor. -/
inductive Side where
  | left
  | right

namespace Side

/-- The column that is reached by `steps` from a column. -/
def column (side : Side) (start steps : Int) : Int :=
  match side with
  | left => start - steps
  | right => start + steps

/-- Whether a column is on the canvas, as far as a walk to this side can leave it. -/
def InBounds (side : Side) (column : Int) : Prop :=
  match side with
  | left => 0 ≤ column
  | right => column ≤ maxColumn

instance (side : Side) (column : Int) : Decidable (side.InBounds column) :=
  match side with
  | left => inferInstanceAs (Decidable (0 ≤ column))
  | right => inferInstanceAs (Decidable (column ≤ maxColumn))

/-- The error of a terminal beyond the bounds. -/
def outOfBounds (side : Side) (id : String) (column : Int) : LayoutError :=
  match side with
  | left => .offCanvas id column
  | right => .tooWide id column.toNat

theorem inBounds_left (column : Nat) : left.InBounds column := Int.natCast_nonneg column

theorem inBounds_right {column : Nat} : right.InBounds column ↔ column ≤ maxColumn := Int.ofNat_le

theorem column_zero (side : Side) (start : Int) : side.column start 0 = start := by
  cases side <;> simp [column]

theorem column_column (side : Side) (start first second : Int) :
    side.column (side.column start first) second = side.column start (first + second) := by
  cases side <;> simp only [column] <;> omega

/-- A walk that ends in bounds has not left them before. -/
theorem InBounds.of_add {side : Side} {start first second : Int} (hsecond : 0 ≤ second)
    (h : side.InBounds (side.column start (first + second))) :
    side.InBounds (side.column start first) := by
  cases side <;> simp only [column, InBounds] at h ⊢ <;> omega

end Side

theorem exists_append_singleton_eq_cons {first last : String} {rest walked more : List String}
    (h : first :: rest = walked ++ last :: more) : ∃ tail, walked ++ [last] = first :: tail := by
  cases walked with
  | nil =>
    cases h
    exact ⟨[], rfl⟩
  | cons id walked =>
    cases h
    exact ⟨walked ++ [last], rfl⟩

section Walks

variable (distances : DistanceTable) (scale : Float) (side : Side)

/-- A terminal and the next one outward are a step apart. -/
def NextStepped (near far : String) : Prop :=
  match side with
  | .left => Stepped distances scale far near
  | .right => Stepped distances scale near far

/-- The columns between a terminal and the next one outward. -/
def nextGap (near far : String) : Int :=
  match side with
  | .left => gap distances scale far near
  | .right => gap distances scale near far

/-- The sum of the steps along some terminals, listed outward. -/
def steps : List String → Int
  | near :: far :: rest => nextGap distances scale side near far + steps (far :: rest)
  | _ => 0

/-- What is wrong with two neighbours by themselves: no distance is entered for them, or it is less
than one column. -/
inductive PairFault (left right : String) : LayoutError → Prop where
  | missing (hnone : distances.get? left right = none) :
    PairFault left right (.missingDistance left right)
  | narrow {mm : Float} (hmm : distances.get? left right = some mm)
    (hstep : scaledStep mm scale < 1) :
    PairFault left right (.nonPositiveStep left right (scaledStep mm scale))

/-- What is wrong with a terminal and the next one outward by themselves. -/
def NextFault (near far : String) (e : LayoutError) : Prop :=
  match side with
  | .left => PairFault distances scale far near e
  | .right => PairFault distances scale near far e

/-- What is wrong with the step from a terminal at `column` to the next one outward: the two by
themselves, or else the column that the step leads to. -/
inductive StepFault (column : Int) (near far : String) : LayoutError → Prop where
  | pair {e : LayoutError} (hfault : NextFault distances scale side near far e) :
    StepFault column near far e
  | bounds (hstep : NextStepped distances scale side near far)
    (hout : ¬side.InBounds (side.column column (nextGap distances scale side near far))) :
    StepFault column near far
      (side.outOfBounds far (side.column column (nextGap distances scale side near far)))

/-- The terminals, listed outward, can be walked through from a column. -/
structure Clear (start : Int) (terminals : List String) : Prop where
  stepped : terminals.IsChain (NextStepped distances scale side)
  inBounds : side.InBounds (side.column start (steps distances scale side terminals))

/-- The first fault of a walk from a column along terminals that are listed outward: after some of
them, which are clear and end in `near`, the next step is at fault. -/
def WalkFault (start : Int) (terminals : List String) (e : LayoutError) : Prop :=
  ∃ walked near far more, terminals = walked ++ near :: far :: more ∧
    Clear distances scale side start (walked ++ [near]) ∧
    StepFault distances scale side
      (side.column start (steps distances scale side (walked ++ [near]))) near far e

variable {distances scale side} {start : Int} {near far : String} {rest : List String}

theorem nextGap_pos (h : NextStepped distances scale side near far) :
    1 ≤ nextGap distances scale side near far := by
  cases side with
  | left =>
    obtain ⟨mm, hmm, hpos⟩ := h
    rwa [nextGap, gap_of_get? hmm]
  | right =>
    obtain ⟨mm, hmm, hpos⟩ := h
    rwa [nextGap, gap_of_get? hmm]

theorem steps_singleton (id : String) : steps distances scale side [id] = 0 := rfl

theorem steps_nonneg {terminals : List String}
    (h : terminals.IsChain (NextStepped distances scale side)) :
    0 ≤ steps distances scale side terminals := by
  induction terminals with
  | nil => exact Int.le_refl 0
  | cons near rest ih =>
    cases rest with
    | nil => exact Int.le_refl 0
    | cons far rest =>
      rw [List.isChain_cons_cons] at h
      have hgap := nextGap_pos h.1
      have hrest := ih h.2
      rw [steps]
      omega

/-- A walk is clear if its first step is and the rest is clear from there. -/
theorem clear_cons_cons :
    Clear distances scale side start (near :: far :: rest) ↔
      NextStepped distances scale side near far ∧
        side.InBounds (side.column start (nextGap distances scale side near far)) ∧
        Clear distances scale side (side.column start (nextGap distances scale side near far))
          (far :: rest) := by
  constructor
  · rintro ⟨hchain, hbounds⟩
    rw [List.isChain_cons_cons] at hchain
    rw [steps] at hbounds
    refine ⟨hchain.1, hbounds.of_add (steps_nonneg hchain.2), hchain.2, ?_⟩
    rwa [Side.column_column]
  · rintro ⟨hstep, -, hchain, hbounds⟩
    rw [Side.column_column] at hbounds
    exact ⟨List.isChain_cons_cons.2 ⟨hstep, hchain⟩, hbounds⟩

theorem clear_singleton {id : String} (h : side.InBounds start) :
    Clear distances scale side start [id] := by
  refine ⟨List.isChain_singleton id, ?_⟩
  rwa [steps_singleton, Side.column_zero]

theorem not_walkFault_singleton {id : String} {e : LayoutError} :
    ¬WalkFault distances scale side start [id] e := by
  rintro ⟨walked, near, far, more, hsplit, -⟩
  have hlength := congrArg List.length hsplit
  simp only [List.length_append, List.length_cons, List.length_nil] at hlength
  omega

/-- A walk that starts in bounds has its first fault in the first step, or else the step is taken
and the rest of the walk has it. -/
theorem walkFault_cons_cons {e : LayoutError} (hstart : side.InBounds start) :
    WalkFault distances scale side start (near :: far :: rest) e ↔
      StepFault distances scale side start near far e ∨
        NextStepped distances scale side near far ∧
          side.InBounds (side.column start (nextGap distances scale side near far)) ∧
          WalkFault distances scale side
            (side.column start (nextGap distances scale side near far)) (far :: rest) e := by
  constructor
  · rintro ⟨walked, near', far', more, hsplit, hclear, hfault⟩
    cases walked with
    | nil =>
      cases hsplit
      rw [List.nil_append, steps_singleton, Side.column_zero] at hfault
      exact Or.inl hfault
    | cons first walked =>
      obtain ⟨rfl, hrest⟩ := List.cons.inj hsplit
      obtain ⟨tail, htail⟩ := exists_append_singleton_eq_cons hrest
      rw [List.cons_append, htail] at hclear hfault
      obtain ⟨hstep, hin, hclear⟩ := clear_cons_cons.1 hclear
      rw [steps, ← Side.column_column] at hfault
      refine Or.inr ⟨hstep, hin, walked, near', far', more, hrest, ?_⟩
      rw [htail]
      exact ⟨hclear, hfault⟩
  · rintro (hfault | ⟨hstep, hin, walked, near', far', more, hrest, hclear, hfault⟩)
    · refine ⟨[], near, far, rest, rfl, clear_singleton hstart, ?_⟩
      rwa [List.nil_append, steps_singleton, Side.column_zero]
    · refine ⟨near :: walked, near', far', more, by rw [hrest, List.cons_append], ?_⟩
      obtain ⟨tail, htail⟩ := exists_append_singleton_eq_cons hrest
      rw [htail] at hclear hfault
      rw [List.cons_append, htail, steps, ← Side.column_column]
      exact ⟨clear_cons_cons.2 ⟨hstep, hin, hclear⟩, hfault⟩

/-! ## The walks stop at their first fault -/

theorem stepBetween_eq_error_iff {left right : String} {e : LayoutError} :
    stepBetween distances scale left right = .error e ↔ PairFault distances scale left right e := by
  unfold stepBetween
  constructor
  · intro h
    cases hmm : distances.get? left right with
    | none =>
      rw [hmm] at h
      cases h
      exact .missing hmm
    | some mm =>
      simp only [hmm] at h
      split at h
      · rename_i hstep
        cases h
        exact .narrow hmm hstep
      · cases h
  · rintro (hnone | ⟨hmm, hstep⟩)
    · rw [hnone]
    · simp only [hmm, if_pos hstep]

theorem stepBetween_eq_ok_iff_gap {left right : String} {step : Nat} :
    stepBetween distances scale left right = .ok step ↔
      Stepped distances scale left right ∧ (step : Int) = gap distances scale left right := by
  rw [stepBetween_eq_ok_iff]
  constructor
  · rintro ⟨mm, hmm, hpos, hstep⟩
    exact ⟨⟨mm, hmm, hpos⟩, by rw [gap_of_get? hmm, hstep]⟩
  · rintro ⟨⟨mm, hmm, hpos⟩, hstep⟩
    exact ⟨mm, hmm, hpos, by rw [hstep, gap_of_get? hmm]⟩

variable (distances scale side) in
/-- Columns between a terminal and the next one outward, which are at least one. -/
def nextStep (near far : String) : Except LayoutError Nat :=
  match side with
  | .left => stepBetween distances scale far near
  | .right => stepBetween distances scale near far

theorem nextStep_eq_error_iff {e : LayoutError} :
    nextStep distances scale side near far = .error e ↔
      NextFault distances scale side near far e := by
  cases side <;> exact stepBetween_eq_error_iff

theorem nextStep_eq_ok_iff {step : Nat} :
    nextStep distances scale side near far = .ok step ↔
      NextStepped distances scale side near far ∧
        (step : Int) = nextGap distances scale side near far := by
  cases side <;> exact stepBetween_eq_ok_iff_gap

theorem NextStepped.exists_nextStep (h : NextStepped distances scale side near far) :
    ∃ step, nextStep distances scale side near far = .ok step ∧
      (step : Int) = nextGap distances scale side near far := by
  have hgap : ((nextGap distances scale side near far).toNat : Int) =
      nextGap distances scale side near far :=
    Int.toNat_of_nonneg (Int.le_trans (by decide) (nextGap_pos h))
  exact ⟨_, nextStep_eq_ok_iff.2 ⟨h, hgap⟩, hgap⟩

variable (distances scale side) in
/-- Columns of the terminals on one side of a terminal at `column`, from the nearest outward. -/
def walk (near : String) (column : Int) : List String → Except LayoutError (List (String × Int))
  | [] => .ok []
  | far :: rest => do
    let step ← nextStep distances scale side near far
    if side.InBounds (side.column column step) then
      let placed ← walk far (side.column column step) rest
      .ok ((far, side.column column step) :: placed)
    else .error (side.outOfBounds far (side.column column step))

theorem walk_eq_error_iff {e : LayoutError} (hstart : side.InBounds start) :
    walk distances scale side near start rest = .error e ↔
      WalkFault distances scale side start (near :: rest) e := by
  induction rest generalizing near start with
  | nil => exact iff_of_false (by intro h; cases h) not_walkFault_singleton
  | cons far rest ih =>
    rw [walk, bind_eq_error_iff, walkFault_cons_cons hstart]
    constructor
    · rintro (hpair | ⟨step, hstep, h⟩)
      · exact Or.inl (.pair (nextStep_eq_error_iff.1 hpair))
      obtain ⟨hstepped, hgap⟩ := nextStep_eq_ok_iff.1 hstep
      rw [hgap] at h
      split at h
      · rename_i hin
        rcases bind_eq_error_iff.1 h with hrest | ⟨placed, -, hplaced⟩
        · exact Or.inr ⟨hstepped, hin, (ih hin).1 hrest⟩
        · cases hplaced
      · rename_i hout
        cases h
        exact Or.inl (.bounds hstepped hout)
    · rintro (hfault | ⟨hstepped, hin, hrest⟩)
      · cases hfault with
        | pair hpair => exact Or.inl (nextStep_eq_error_iff.2 hpair)
        | bounds hstepped hout =>
          obtain ⟨step, hstep, hgap⟩ := hstepped.exists_nextStep
          exact Or.inr ⟨step, hstep, by rw [hgap, if_neg hout]⟩
      · obtain ⟨step, hstep, hgap⟩ := hstepped.exists_nextStep
        refine Or.inr ⟨step, hstep, ?_⟩
        rw [hgap, if_pos hin]
        exact bind_eq_error_iff.2 (Or.inl ((ih hin).2 hrest))

theorem exists_walk_iff_clear (hstart : side.InBounds start) :
    (∃ placed, walk distances scale side near start rest = .ok placed) ↔
      Clear distances scale side start (near :: rest) := by
  induction rest generalizing near start with
  | nil => exact iff_of_true ⟨[], rfl⟩ (clear_singleton hstart)
  | cons far rest ih =>
    rw [walk, clear_cons_cons]
    constructor
    · rintro ⟨placed, h⟩
      obtain ⟨step, hstep, h⟩ := bind_eq_ok_iff.1 h
      obtain ⟨hstepped, hgap⟩ := nextStep_eq_ok_iff.1 hstep
      rw [hgap] at h
      split at h
      · rename_i hin
        obtain ⟨more, hmore, -⟩ := bind_eq_ok_iff.1 h
        exact ⟨hstepped, hin, (ih hin).1 ⟨more, hmore⟩⟩
      · cases h
    · rintro ⟨hstepped, hin, hrest⟩
      obtain ⟨step, hstep, hgap⟩ := hstepped.exists_nextStep
      obtain ⟨more, hmore⟩ := (ih hin).2 hrest
      refine ⟨(far, side.column start (nextGap distances scale side near far)) :: more, ?_⟩
      rw [bind_eq_ok_iff]
      refine ⟨step, hstep, ?_⟩
      rw [hgap, if_pos hin, bind_eq_ok_iff]
      exact ⟨more, hmore, rfl⟩

/-- What a walk has found, as table entries. -/
def entriesOf (placed : List (String × Int)) : List (String × Nat) :=
  placed.map fun (id, column) => (id, column.toNat)

theorem walkLeft_eq_walk (right : String) (column : Nat) (rest : List String) :
    walkLeft distances scale right column rest =
      (walk distances scale .left right column rest).map entriesOf := by
  induction rest generalizing right column with
  | nil => rfl
  | cons left rest ih =>
    rw [walkLeft, walk, nextStep]
    cases stepBetween distances scale left right with
    | error e => rfl
    | ok step =>
      change (if column < step then _ else _) =
        Except.map _ (if 0 ≤ (column : Int) - step then _ else _)
      by_cases hout : column < step
      · rw [if_pos hout, if_neg (by omega)]
        rfl
      · rw [if_neg hout, if_pos (by omega), ih, Int.ofNat_sub (Nat.le_of_not_lt hout)]
        change _ = Except.map _ (walk distances scale .left left ((column : Int) - step) rest >>= _)
        cases walk distances scale .left left ((column : Int) - step) rest with
        | error e => rfl
        | ok placed =>
          change Except.ok ((left, column - step) :: _) =
            Except.ok ((left, ((column : Int) - step).toNat) :: _)
          rw [Int.toNat_sub]
          rfl

theorem walkRight_eq_walk (left : String) (column : Nat) (rest : List String) :
    walkRight distances scale left column rest =
      (walk distances scale .right left column rest).map entriesOf := by
  induction rest generalizing left column with
  | nil => rfl
  | cons right rest ih =>
    rw [walkRight, walk, nextStep]
    cases stepBetween distances scale left right with
    | error e => rfl
    | ok step =>
      change (if maxColumn < column + step then _ else _) =
        Except.map _ (if ((column + step : Nat) : Int) ≤ maxColumn then _ else _)
      by_cases hout : maxColumn < column + step
      · rw [if_pos hout, if_neg (by omega)]
        rfl
      · rw [if_neg hout, if_pos (by omega), ih]
        change _ = Except.map _ (walk distances scale .right right (column + step : Nat) rest >>= _)
        cases walk distances scale .right right (column + step : Nat) rest with
        | error e => rfl
        | ok placed => rfl

theorem walkLeft_eq_error_iff {right : String} {column : Nat} {rest : List String}
    {e : LayoutError} :
    walkLeft distances scale right column rest = .error e ↔
      WalkFault distances scale .left column (right :: rest) e := by
  rw [walkLeft_eq_walk, map_eq_error_iff, walk_eq_error_iff (Side.inBounds_left column)]

theorem exists_walkLeft_iff_clear {right : String} {column : Nat} {rest : List String} :
    (∃ placed, walkLeft distances scale right column rest = .ok placed) ↔
      Clear distances scale .left column (right :: rest) := by
  rw [walkLeft_eq_walk, ← exists_walk_iff_clear (Side.inBounds_left column)]
  simp only [map_eq_ok_iff]
  constructor
  · rintro ⟨-, placed, h, -⟩
    exact ⟨placed, h⟩
  · rintro ⟨placed, h⟩
    exact ⟨_, placed, h, rfl⟩

theorem walkRight_eq_error_iff {left : String} {column : Nat} {rest : List String}
    {e : LayoutError} (hcolumn : column ≤ maxColumn) :
    walkRight distances scale left column rest = .error e ↔
      WalkFault distances scale .right column (left :: rest) e := by
  rw [walkRight_eq_walk, map_eq_error_iff, walk_eq_error_iff (Side.inBounds_right.2 hcolumn)]

end Walks

/-! ## The checks in order -/

/-- What is checked before the walks start: a sound scale, distinct terminals, and the anchor among
them at a column in bounds. -/
structure Outset (terminals : List String) (scale : Float) (anchor : Anchor)
    (before after : List String) : Prop where
  finite : scale.isFinite = true
  positive : 0 < scale
  distinct : terminals.Nodup
  cut : terminals = before ++ anchor.terminal :: after
  column_le : anchor.column ≤ maxColumn

/-- The first thing that is wrong with what is to be solved. Each case says what is wrong, and that
everything checked before is in order. -/
inductive FirstViolation (terminals : List String) (distances : DistanceTable) (scale : Float)
    (anchor : Anchor) : LayoutError → Prop where
  | noTerminals (hnone : terminals = []) :
    FirstViolation terminals distances scale anchor .noTerminals
  | invalidScale (hsome : terminals ≠ []) (hscale : ¬(scale.isFinite = true ∧ 0 < scale)) :
    FirstViolation terminals distances scale anchor (.invalidScale scale)
  | duplicate {id : String} {earlier more : List String}
    (hfinite : scale.isFinite = true) (hpos : 0 < scale)
    (hsplit : terminals = earlier ++ id :: more)
    (hearlier : earlier.Nodup) (hrepeat : id ∈ earlier) :
    FirstViolation terminals distances scale anchor (.duplicateTerminal id)
  | unknownAnchor (hsome : terminals ≠ []) (hfinite : scale.isFinite = true) (hpos : 0 < scale)
    (hdistinct : terminals.Nodup) (habsent : anchor.terminal ∉ terminals) :
    FirstViolation terminals distances scale anchor (.unknownTerminal anchor.terminal)
  | anchorTooWide (hfinite : scale.isFinite = true) (hpos : 0 < scale)
    (hdistinct : terminals.Nodup) (hmem : anchor.terminal ∈ terminals)
    (hcolumn : maxColumn < anchor.column) :
    FirstViolation terminals distances scale anchor (.tooWide anchor.terminal anchor.column)
  | left {before after : List String} {e : LayoutError}
    (houtset : Outset terminals scale anchor before after)
    (hfault : WalkFault distances scale .left anchor.column
      (anchor.terminal :: before.reverse) e) :
    FirstViolation terminals distances scale anchor e
  | right {before after : List String} {e : LayoutError}
    (houtset : Outset terminals scale anchor before after)
    (hleft : Clear distances scale .left anchor.column (anchor.terminal :: before.reverse))
    (hfault : WalkFault distances scale .right anchor.column (anchor.terminal :: after) e) :
    FirstViolation terminals distances scale anchor e

section Solving

variable {terminals : List String} {distances : DistanceTable} {scale : Float} {anchor : Anchor}

/-- Around an anchor in bounds the walk to the left fails, or else the walk to the right. -/
theorem outward_eq_error_iff {before after : List String} {e : LayoutError}
    (hcolumn : anchor.column ≤ maxColumn) :
    outward distances scale anchor before after = .error e ↔
      WalkFault distances scale .left anchor.column (anchor.terminal :: before.reverse) e ∨
        Clear distances scale .left anchor.column (anchor.terminal :: before.reverse) ∧
          WalkFault distances scale .right anchor.column (anchor.terminal :: after) e := by
  rw [outward, bind_eq_error_iff, walkLeft_eq_error_iff, ← exists_walkLeft_iff_clear,
    ← walkRight_eq_error_iff hcolumn]
  constructor
  · rintro (hleft | ⟨left, hleft, h⟩)
    · exact Or.inl hleft
    · rcases bind_eq_error_iff.1 h with hright | ⟨right, -, hplaced⟩
      · exact Or.inr ⟨⟨left, hleft⟩, hright⟩
      · cases hplaced
  · rintro (hleft | ⟨⟨left, hleft⟩, hright⟩)
    · exact Or.inl hleft
    · exact Or.inr ⟨left, hleft, bind_eq_error_iff.2 (Or.inl hright)⟩

/-- The scale passes its check exactly if it is finite and above zero. -/
theorem scale_check_iff :
    ¬(!scale.isFinite || scale ≤ 0) = true ↔ scale.isFinite = true ∧ 0 < scale := by
  cases hfinite : scale.isFinite with
  | false => simp
  | true => simp [pos_iff_not_le_zero hfinite]

theorem solve_of_unsound_scale (hsome : terminals ≠ [])
    (hscale : ¬(scale.isFinite = true ∧ 0 < scale)) :
    solve terminals distances scale anchor = .error (.invalidScale scale) := by
  rw [solve, if_neg hsome, if_pos (not_not.1 (mt scale_check_iff.1 hscale))]

theorem solve_of_repeat {id : String} {earlier more : List String}
    (hfinite : scale.isFinite = true) (hpos : 0 < scale)
    (hsplit : terminals = earlier ++ id :: more) (hearlier : earlier.Nodup) (hid : id ∈ earlier) :
    solve terminals distances scale anchor = .error (.duplicateTerminal id) := by
  have hrepeat : firstRepeat? [] terminals = some id :=
    firstRepeat?_eq_some_iff.2 ⟨earlier, more, hsplit, hearlier, by simp, Or.inr hid⟩
  rw [solve, if_neg (by simp [hsplit]), if_neg (scale_check_iff.2 ⟨hfinite, hpos⟩), hrepeat]

theorem solve_of_absent (hsome : terminals ≠ []) (hfinite : scale.isFinite = true)
    (hpos : 0 < scale) (hdistinct : terminals.Nodup) (habsent : anchor.terminal ∉ terminals) :
    solve terminals distances scale anchor = .error (.unknownTerminal anchor.terminal) := by
  have hrepeat : firstRepeat? [] terminals = none :=
    firstRepeat?_eq_none_iff.2 ⟨hdistinct, by simp⟩
  have hrest : terminals.dropWhile (· ≠ anchor.terminal) = [] := by
    refine List.dropWhile_eq_nil_iff.2 fun id hid => decide_eq_true ?_
    rintro rfl
    exact habsent hid
  rw [solve, if_neg hsome, if_neg (scale_check_iff.2 ⟨hfinite, hpos⟩), hrepeat]
  simp only [hrest]

/-- With all else in order, the walks start from an anchor in bounds. -/
theorem solve_of_cut {before after : List String} (hfinite : scale.isFinite = true)
    (hpos : 0 < scale) (hdistinct : terminals.Nodup)
    (hcut : terminals = before ++ anchor.terminal :: after) :
    solve terminals distances scale anchor =
      if maxColumn < anchor.column then .error (.tooWide anchor.terminal anchor.column)
      else outward distances scale anchor before after := by
  have hrepeat : firstRepeat? [] terminals = none :=
    firstRepeat?_eq_none_iff.2 ⟨hdistinct, by simp⟩
  rw [solve, if_neg (by simp [hcut]), if_neg (scale_check_iff.2 ⟨hfinite, hpos⟩), hrepeat]
  subst hcut
  obtain ⟨hbefore, hafter⟩ := cut_at_anchor hdistinct
  simp only [hbefore, hafter]

/-- Whatever the solver reports is the first violation. -/
theorem solve_eq_error_iff {e : LayoutError} :
    solve terminals distances scale anchor = .error e ↔
      FirstViolation terminals distances scale anchor e := by
  constructor
  · intro h
    by_cases hsome : terminals = []
    · rw [solve, if_pos hsome] at h
      cases h
      exact .noTerminals hsome
    by_cases hscale : scale.isFinite = true ∧ 0 < scale
    swap
    · rw [solve_of_unsound_scale hsome hscale] at h
      cases h
      exact .invalidScale hsome hscale
    obtain ⟨hfinite, hpos⟩ := hscale
    cases hrepeat : firstRepeat? [] terminals with
    | some id =>
      obtain ⟨earlier, more, hsplit, hearlier, -, hid⟩ := firstRepeat?_eq_some_iff.1 hrepeat
      have hid := hid.resolve_left List.not_mem_nil
      rw [solve_of_repeat hfinite hpos hsplit hearlier hid] at h
      cases h
      exact .duplicate hfinite hpos hsplit hearlier hid
    | none =>
      have hdistinct := (firstRepeat?_eq_none_iff.1 hrepeat).1
      by_cases hmem : anchor.terminal ∈ terminals
      · obtain ⟨before, after, hcut⟩ := List.append_of_mem hmem
        rw [solve_of_cut hfinite hpos hdistinct hcut] at h
        split at h
        · rename_i hcolumn
          cases h
          exact .anchorTooWide hfinite hpos hdistinct hmem hcolumn
        · rename_i hcolumn
          have houtset : Outset terminals scale anchor before after :=
            ⟨hfinite, hpos, hdistinct, hcut, Nat.le_of_not_lt hcolumn⟩
          rcases (outward_eq_error_iff houtset.column_le).1 h with hfault | ⟨hleft, hfault⟩
          · exact .left houtset hfault
          · exact .right houtset hleft hfault
      · rw [solve_of_absent hsome hfinite hpos hdistinct hmem] at h
        cases h
        exact .unknownAnchor hsome hfinite hpos hdistinct hmem
  · intro h
    have hwalks : ∀ {before after}, Outset terminals scale anchor before after →
        solve terminals distances scale anchor = outward distances scale anchor before after :=
      fun houtset => (solve_of_cut houtset.finite houtset.positive houtset.distinct
        houtset.cut).trans (if_neg (Nat.not_lt.2 houtset.column_le))
    cases h with
    | noTerminals hnone => rw [solve, if_pos hnone]
    | invalidScale hsome hscale => exact solve_of_unsound_scale hsome hscale
    | duplicate hfinite hpos hsplit hearlier hid =>
      exact solve_of_repeat hfinite hpos hsplit hearlier hid
    | unknownAnchor hsome hfinite hpos hdistinct habsent =>
      exact solve_of_absent hsome hfinite hpos hdistinct habsent
    | anchorTooWide hfinite hpos hdistinct hmem hcolumn =>
      obtain ⟨before, after, hcut⟩ := List.append_of_mem hmem
      rw [solve_of_cut hfinite hpos hdistinct hcut, if_pos hcolumn]
    | left houtset hfault =>
      rw [hwalks houtset, outward_eq_error_iff houtset.column_le]
      exact Or.inl hfault
    | right houtset hleft hfault =>
      rw [hwalks houtset, outward_eq_error_iff houtset.column_le]
      exact Or.inr ⟨hleft, hfault⟩

end Solving

end Piste.Diagram.Positions
