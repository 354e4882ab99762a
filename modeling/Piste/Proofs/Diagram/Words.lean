import Piste.Proofs.Diagram.Violation

/-!
# Columns in machine words

The walks count columns in whole numbers. A machine counts them in words of 64 bits, signed to the
left of the anchor and unsigned to the right, and a step may be the greatest signed word. This
module gives the walks in words and shows that they are the same.

* `exact_of_le` is why: from a column in bounds, no step wraps around and none is cut off.
* `Words.outward_eq` carries this through a whole walk.
* `solve_error_iff_firstViolation` says, with this, what the solver reports.
-/

namespace Piste.Diagram.Positions

namespace Words

/-- The sum of two words, if it fits in one. -/
def checkedAdd (a b : UInt64) : Option UInt64 :=
  if a.toNat + b.toNat < UInt64.size then some (a + b) else none

/-- The sum of two words, or the greatest word in its place. -/
def saturatingAdd (a b : UInt64) : UInt64 :=
  (checkedAdd a b).getD (UInt64.ofNat (UInt64.size - 1))

section Walks

variable (distances : DistanceTable) (scale : Float)

/-- Columns between two neighbours, which is at least one. -/
def stepBetween (left right : String) : Except LayoutError Int64 :=
  match distances.get? left right with
  | none => .error (.missingDistance left right)
  | some mm =>
    let step := Int64.ofInt (scaledStep mm scale)
    if step < 1 then .error (.nonPositiveStep left right step.toInt) else .ok step

/-- Columns of the terminals left of one at `column`. A difference that does not fit wraps
around. -/
def walkLeft (right : String) (column : Int64) :
    List String → Except LayoutError (List (String × Nat))
  | [] => .ok []
  | left :: rest => do
    let step ← stepBetween distances scale left right
    if column - step < 0 then
      .error (.offCanvas left (column - step).toInt)
    else
      let placed ← walkLeft left (column - step) rest
      .ok ((left, (column - step).toUInt64.toNat) :: placed)

/-- Columns of the terminals right of one at `column`. -/
def walkRight (left : String) (column : UInt64) :
    List String → Except LayoutError (List (String × Nat))
  | [] => .ok []
  | right :: rest => do
    let step ← stepBetween distances scale left right
    match (checkedAdd column step.toUInt64).filter (·.toNat ≤ maxColumn) with
    | none => .error (.tooWide right (saturatingAdd column step.toUInt64).toNat)
    | some next =>
      let placed ← walkRight right next rest
      .ok ((right, next.toNat) :: placed)

/-- Places the terminals around an anchor at `column`. -/
def outward (anchor : String) (column : UInt64) (before after : List String) :
    Except LayoutError Positions := do
  let left ← walkLeft distances scale anchor column.toInt64 before.reverse
  let right ← walkRight distances scale anchor column after
  .ok (Table.ofList (left.reverse ++ (anchor, column.toNat) :: right))

end Walks

/-- From this column, this step is the same in words as in whole numbers: the signed difference does
not wrap around, the step is not changed by reading it as unsigned, and the unsigned sum fits. -/
structure Exact (column : UInt64) (step : Int64) : Prop where
  sub : (column.toInt64 - step).toInt = (column.toNat : Int) - step.toInt
  cast : (step.toUInt64.toNat : Int) = step.toInt
  checked : (checkedAdd column step.toUInt64).map UInt64.toNat =
    some (column.toNat + step.toInt.toNat)
  saturating : (saturatingAdd column step.toUInt64).toNat = column.toNat + step.toInt.toNat

/-! ## One step -/

theorem toInt_toInt64 {column : UInt64} (h : column.toNat ≤ maxColumn) :
    column.toInt64.toInt = column.toNat := by
  have hbits : column.toInt64.toBitVec.toNat = column.toNat := rfl
  refine BitVec.toInt_eq_toNat_of_lt ?_
  unfold maxColumn at h
  omega

theorem toNat_toUInt64 (word : Int64) (h : 0 ≤ word.toInt) :
    (word.toUInt64.toNat : Int) = word.toInt := by
  rw [Int64.toNat_toUInt64_of_le (Int64.le_iff_toInt_le.2 h), ← Int64.toNat_toInt,
    Int.toNat_of_nonneg h]

theorem toNat_add {column word : UInt64} (h : column.toNat + word.toNat < UInt64.size) :
    (column + word).toNat = column.toNat + word.toNat := by
  rw [UInt64.toNat_add]
  exact Nat.mod_eq_of_lt h

/-- From a column in bounds every step is exact, also the greatest. -/
theorem exact_of_le {column : UInt64} {step : Int64} (hcolumn : column.toNat ≤ maxColumn)
    (hstep : 1 ≤ step) : Exact column step := by
  have hpos : 1 ≤ step.toInt := Int64.le_iff_toInt_le.1 hstep
  have hlt := step.toInt_lt
  have hcast := toNat_toUInt64 step (Int.le_trans (by decide) hpos)
  have hfits : column.toNat + step.toUInt64.toNat < UInt64.size := by
    unfold maxColumn at hcolumn
    unfold UInt64.size
    omega
  have hsum : (column + step.toUInt64).toNat = column.toNat + step.toInt.toNat := by
    rw [toNat_add hfits]
    omega
  refine ⟨?_, hcast, ?_, ?_⟩
  · rw [Int64.toInt_sub, toInt_toInt64 hcolumn]
    unfold maxColumn at hcolumn
    exact Int.bmod_eq_of_le (by omega) (by omega)
  · rw [checkedAdd, if_pos hfits, Option.map_some, hsum]
  · rw [saturatingAdd, checkedAdd, if_pos hfits, Option.getD_some, hsum]

/-! ## The walks -/

section Walks

variable {distances : DistanceTable} {scale : Float}

/-- The step between two terminals is the same in a word, or its error. -/
theorem stepBetween_cases (distances : DistanceTable) (scale : Float) (left right : String) :
    (∃ e, Positions.stepBetween distances scale left right = .error e ∧
        stepBetween distances scale left right = .error e) ∨
      ∃ step word, Positions.stepBetween distances scale left right = .ok step ∧
        stepBetween distances scale left right = .ok word ∧ 1 ≤ word ∧ word.toInt = step := by
  unfold Positions.stepBetween stepBetween
  cases distances.get? left right with
  | none => exact Or.inl ⟨_, rfl, rfl⟩
  | some mm =>
    have hword : (Int64.ofInt (scaledStep mm scale)).toInt = scaledStep mm scale := by
      have hleast := leastInt64_le_scaledStep mm scale
      have hgreatest := scaledStep_le_greatestInt64 mm scale
      unfold Decimal.leastInt64 at hleast
      unfold Decimal.greatestInt64 at hgreatest
      exact Int64.toInt_ofInt_of_le (by omega) (by omega)
    have hone : Int64.ofInt (scaledStep mm scale) < 1 ↔ scaledStep mm scale < 1 := by
      rw [Int64.lt_iff_toInt_lt, hword]
      rfl
    by_cases hstep : scaledStep mm scale < 1
    · refine Or.inl ⟨_, if_pos hstep, ?_⟩
      simp only [if_pos (hone.2 hstep), hword]
    · refine Or.inr ⟨_, _, if_neg hstep, if_neg (mt hone.1 hstep), ?_, ?_⟩
      · rw [Int64.le_iff_toInt_le, hword]
        exact Int.not_lt.1 hstep
      · rw [hword]
        omega

/-- The walk to the left is the same in words. The columns stay in bounds, since they decrease. -/
theorem walkLeft_eq {right : String} {column : UInt64} {rest : List String}
    (hcolumn : column.toNat ≤ maxColumn) :
    walkLeft distances scale right column.toInt64 rest =
      Positions.walkLeft distances scale right column.toNat rest := by
  induction rest generalizing right column with
  | nil => rfl
  | cons left rest ih =>
    rw [walkLeft, Positions.walkLeft]
    obtain ⟨e, hexact, hwords⟩ | ⟨step, word, hexact, hwords, hpos, hword⟩ :=
      stepBetween_cases distances scale left right
    · rw [hexact, hwords]
      rfl
    rw [hexact, hwords]
    have hsub := (exact_of_le hcolumn hpos).sub
    rw [hword] at hsub
    have hneg : column.toInt64 - word < 0 ↔ column.toNat < step := by
      rw [Int64.lt_iff_toInt_lt, hsub, Int64.toInt_zero]
      omega
    change (if column.toInt64 - word < 0 then _ else _) = (if column.toNat < step then _ else _)
    by_cases hout : column.toNat < step
    · rw [if_pos (hneg.2 hout), if_pos hout, hsub]
    · rw [if_neg (mt hneg.1 hout), if_neg hout]
      -- The next column is an unsigned word again, so that the walk goes on from it.
      obtain ⟨next, hnext⟩ : ∃ next : UInt64, column.toInt64 - word = next.toInt64 :=
        ⟨_, (Int64.toInt64_toUInt64 _).symm⟩
      have hdifference : next.toNat = column.toNat - step := by
        have hcast := toNat_toUInt64 next.toInt64 (by rw [← hnext]; omega)
        rw [UInt64.toUInt64_toInt64, ← hnext, hsub] at hcast
        omega
      rw [hnext, UInt64.toUInt64_toInt64, ih (by omega), hdifference]

/-- The walk to the right is the same in words. -/
theorem walkRight_eq {left : String} {column : UInt64} {rest : List String}
    (hcolumn : column.toNat ≤ maxColumn) :
    walkRight distances scale left column rest =
      Positions.walkRight distances scale left column.toNat rest := by
  induction rest generalizing left column with
  | nil => rfl
  | cons right rest ih =>
    rw [walkRight, Positions.walkRight]
    obtain ⟨e, hexact, hwords⟩ | ⟨step, word, hexact, hwords, hpos, hword⟩ :=
      stepBetween_cases distances scale left right
    · rw [hexact, hwords]
      rfl
    rw [hexact, hwords]
    obtain ⟨-, -, hchecked, hsaturating⟩ := exact_of_le hcolumn hpos
    rw [hword, Int.toNat_natCast] at hchecked hsaturating
    obtain ⟨next, hnext, hsum⟩ := Option.map_eq_some_iff.1 hchecked
    change (match (checkedAdd column word.toUInt64).filter (·.toNat ≤ maxColumn) with
      | none => _
      | some next => _) = (if maxColumn < column.toNat + step then _ else _)
    by_cases hout : maxColumn < column.toNat + step
    · have hnone : (some next).filter (·.toNat ≤ maxColumn) = none := by
        rw [Option.filter_some, if_neg (by simpa [hsum] using hout)]
      rw [hnext, hnone, hsaturating, if_pos hout]
    · have hsome : (some next).filter (·.toNat ≤ maxColumn) = some next := by
        rw [Option.filter_some, if_pos (by simpa [hsum] using hout)]
      rw [hnext, hsome, if_neg hout, ← hsum, ← ih (by omega)]

/-- Around an anchor in bounds, the terminals are placed at the same columns in words, or for the
same reason at none. -/
theorem outward_eq {anchor : String} {column : UInt64} {before after : List String}
    (hcolumn : column.toNat ≤ maxColumn) :
    outward distances scale anchor column before after =
      Positions.outward distances scale ⟨anchor, column.toNat⟩ before after := by
  rw [outward, Positions.outward, walkLeft_eq hcolumn, walkRight_eq hcolumn]

end Walks

end Words

/-! ## What the solver reports -/

/-- What the solver reports is the first violation, with the exact sum of the steps up to there. In
words the walks report the same, for an anchor in bounds as it is checked before: no step from a
column in bounds wraps around or is cut off. -/
theorem solve_error_iff_firstViolation (terminals : List String) (distances : DistanceTable)
    (scale : Float) (anchor : Anchor) :
    (∀ e, solve terminals distances scale anchor = .error e ↔
        FirstViolation terminals distances scale anchor e) ∧
      (∀ (column : UInt64) (before after : List String), column.toNat ≤ maxColumn →
        Words.outward distances scale anchor.terminal column before after =
          outward distances scale ⟨anchor.terminal, column.toNat⟩ before after) ∧
      ∀ (column : UInt64) (step : Int64), column.toNat ≤ maxColumn → 1 ≤ step →
        Words.Exact column step := by
  refine ⟨fun e => solve_eq_error_iff, ?_, ?_⟩
  · intro column before after hcolumn
    exact Words.outward_eq hcolumn
  · intro column step hcolumn hstep
    exact Words.exact_of_le hcolumn hstep

/-- A distance that scales to the greatest word is reported with the exact sum. -/
theorem firstViolation_of_greatest :
    FirstViolation ["A", "B"] (.ofList [("A", "B", 1e30)]) 0.5 ⟨"A", 50⟩
        (.tooWide "B" (50 + 0x7FFFFFFFFFFFFFFF)) ∧
      Words.outward (.ofList [("A", "B", 1e30)]) 0.5 "A" 50 [] ["B"] =
        .error (.tooWide "B" (50 + 0x7FFFFFFFFFFFFFFF)) ∧
      Words.Exact 50 0x7FFFFFFFFFFFFFFF := by
  have hstep : stepBetween (.ofList [("A", "B", 1e30)]) 0.5 "A" "B" = .ok 0x7FFFFFFFFFFFFFFF := by
    have hscaled : scaledStep 1e30 0.5 = 0x7FFFFFFFFFFFFFFF := by decide +kernel
    exact stepBetween_eq_ok_iff.2 ⟨1e30, rfl, by rw [hscaled]; decide, by rw [hscaled]; rfl⟩
  have houtward : outward (.ofList [("A", "B", 1e30)]) 0.5 ⟨"A", 50⟩ [] ["B"] =
      .error (.tooWide "B" (50 + 0x7FFFFFFFFFFFFFFF)) := by
    rw [outward, walkRight, hstep]
    rfl
  obtain ⟨hviolation, hwords, hexact⟩ :=
    solve_error_iff_firstViolation ["A", "B"] (.ofList [("A", "B", 1e30)]) 0.5 ⟨"A", 50⟩
  refine ⟨(hviolation _).1 houtward, ?_, hexact 50 0x7FFFFFFFFFFFFFFF (by decide) (by decide)⟩
  exact (hwords 50 [] ["B"] (by decide)).trans houtward

end Piste.Diagram.Positions
