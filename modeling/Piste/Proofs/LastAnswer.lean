import Mathlib.Data.List.Basic

/-!
# The last element that answers

What is kept of things written one after another, one over the other, is the last of them that
matters. Said of a list it is `List.findSomeRev?`: the answer of the last element that has one.
`findSomeRev?_eq_some_iff` says so in terms of the list. The other lemmas take it through the
operations that lists of strokes and of entries are built with.
-/

namespace Piste

variable {α β γ : Type} (f : α → Option β)

theorem findSomeRev?_cons (a : α) (as : List α) :
    (a :: as).findSomeRev? f = (as.findSomeRev? f).or (f a) := by
  rw [List.findSomeRev?]
  cases as.findSomeRev? f <;> rfl

theorem findSomeRev?_append (as bs : List α) :
    (as ++ bs).findSomeRev? f = (bs.findSomeRev? f).or (as.findSomeRev? f) := by
  induction as with
  | nil => rw [List.nil_append, List.findSomeRev?, Option.or_none]
  | cons a as ih => rw [List.cons_append, findSomeRev?_cons, findSomeRev?_cons, ih, Option.or_assoc]

theorem findSomeRev?_flatMap (g : γ → List α) (cs : List γ) :
    (cs.flatMap g).findSomeRev? f = cs.findSomeRev? fun c => (g c).findSomeRev? f := by
  induction cs with
  | nil => rfl
  | cons c cs ih => rw [List.flatMap_cons, findSomeRev?_append, findSomeRev?_cons, ih]

theorem findSomeRev?_congr {f g : α → Option β} {as : List α} (h : ∀ a ∈ as, f a = g a) :
    as.findSomeRev? f = as.findSomeRev? g := by
  induction as with
  | nil => rfl
  | cons a as ih =>
    rw [List.forall_mem_cons] at h
    rw [findSomeRev?_cons, findSomeRev?_cons, h.1, ih h.2]

/-- The last answer comes from an element that answers, none of those behind it doing so. -/
theorem findSomeRev?_eq_some_iff {as : List α} {b : β} :
    as.findSomeRev? f = some b ↔
      ∃ before a after, as = before ++ a :: after ∧ f a = some b ∧ ∀ x ∈ after, f x = none := by
  rw [List.findSomeRev?_eq_findSome?_reverse, List.findSome?_eq_some_iff]
  constructor
  · rintro ⟨after, a, before, hsplit, ha, hafter⟩
    refine ⟨before.reverse, a, after.reverse, ?_, ha, ?_⟩
    · rw [← List.reverse_reverse as, hsplit]
      simp
    · intro x hx
      exact hafter x (List.mem_reverse.1 hx)
  · rintro ⟨before, a, after, rfl, ha, hafter⟩
    refine ⟨after.reverse, a, before.reverse, by simp, ha, ?_⟩
    intro x hx
    exact hafter x (List.mem_reverse.1 hx)

theorem findSomeRev?_eq_none_iff {as : List α} :
    as.findSomeRev? f = none ↔ ∀ a ∈ as, f a = none := by
  rw [List.findSomeRev?_eq_findSome?_reverse, List.findSome?_eq_none_iff]
  simp only [List.mem_reverse]

theorem findSomeRev?_eq_none {as : List α} (h : ∀ a ∈ as, f a = none) :
    as.findSomeRev? f = none :=
  (findSomeRev?_eq_none_iff f).2 h

/-- If those answer that pass a test, it is the last of them that is found. -/
theorem findSomeRev?_ite_eq_some_iff {p : α → Prop} [DecidablePred p] {g : α → β} {as : List α}
    {b : β} :
    (as.findSomeRev? fun a => if p a then some (g a) else none) = some b ↔
      ∃ before a after, as = before ++ a :: after ∧ p a ∧ g a = b ∧ ∀ x ∈ after, ¬p x := by
  simp only [findSomeRev?_eq_some_iff, Option.ite_none_right_eq_some, Option.some_inj,
    ite_eq_right_iff, reduceCtorEq, imp_false, and_assoc]

theorem findSomeRev?_ite_eq_none_iff {p : α → Prop} [DecidablePred p] {g : α → β} {as : List α} :
    (as.findSomeRev? fun a => if p a then some (g a) else none) = none ↔ ∀ a ∈ as, ¬p a := by
  simp only [findSomeRev?_eq_none_iff, ite_eq_right_iff, reduceCtorEq, imp_false]

/-- Of a list of images the elements are asked through the function. -/
theorem findSomeRev?_map (g : γ → α) (cs : List γ) :
    (cs.map g).findSomeRev? f = cs.findSomeRev? fun c => f (g c) := by
  induction cs with
  | nil => rfl
  | cons c cs ih => rw [List.map_cons, findSomeRev?_cons, findSomeRev?_cons, ih]

/-- Elements that do not answer may be dropped first. -/
theorem findSomeRev?_filter (p : α → Bool) (as : List α) :
    (as.filter p).findSomeRev? f = as.findSomeRev? fun a => if p a then f a else none := by
  induction as with
  | nil => rfl
  | cons a as ih =>
    rw [findSomeRev?_cons, ← ih]
    by_cases hp : p a = true
    · rw [List.filter_cons_of_pos hp, findSomeRev?_cons, if_pos hp]
    · rw [List.filter_cons_of_neg hp, if_neg hp, Option.or_none]

/-- Elements that do not answer may be dropped. -/
theorem findSomeRev?_filter_of_isSome {f : α → Option β} {keep : α → Bool} {as : List α}
    (hkeep : ∀ a ∈ as, (f a).isSome = true → keep a = true) :
    (as.filter keep).findSomeRev? f = as.findSomeRev? f := by
  rw [findSomeRev?_filter]
  apply findSomeRev?_congr
  intro a ha
  by_cases hsome : (f a).isSome = true
  · rw [if_pos (hkeep a ha hsome)]
  · have hnone : f a = none := by simpa using hsome
    rw [hnone, ite_self]

/-- An element may be dropped if a later one answers wherever it does. -/
theorem findSomeRev?_drop {f : α → Option β} {a b : α}
    (hcover : (f a).isSome = true → (f b).isSome = true) (before middle after : List α) :
    (before ++ a :: (middle ++ b :: after)).findSomeRev? f =
      (before ++ (middle ++ b :: after)).findSomeRev? f := by
  simp only [findSomeRev?_append, findSomeRev?_cons]
  cases ha : f a with
  | none => simp
  | some value =>
    obtain ⟨later, hb⟩ := Option.isSome_iff_exists.1 (hcover (by rw [ha]; rfl))
    rw [hb]
    cases after.findSomeRev? f with
    | none => cases middle.findSomeRev? f <;> rfl
    | some last => rfl

/-- The last answer is that of the last element that answers. -/
theorem findSomeRev?_eq_map_findRev? (p : α → Bool) (g : α → β) (as : List α) :
    (as.findSomeRev? fun a => if p a then some (g a) else none) = (as.findRev? p).map g := by
  induction as with
  | nil => rfl
  | cons a as ih =>
    rw [findSomeRev?_cons, ih, List.findRev?]
    cases as.findRev? p with
    | some b => rfl
    | none =>
      by_cases hp : p a = true
      · simp only [hp, if_true]
        rfl
      · simp only [hp, if_false, Bool.false_eq_true]
        rfl

/-- Where all answers are equal, it does not matter which is the last. -/
theorem findSomeRev?_const (p : α → Prop) [DecidablePred p] (b : β) (as : List α) :
    (as.findSomeRev? fun a => if p a then some b else none) =
      if ∃ a ∈ as, p a then some b else none := by
  induction as with
  | nil => simp
  | cons a as ih =>
    rw [findSomeRev?_cons, ih]
    by_cases htail : ∃ a ∈ as, p a
    · rw [if_pos htail, if_pos ((List.exists_mem_cons_iff _ _ _).2 (Or.inr htail)), Option.some_or]
    · simp only [List.exists_mem_cons_iff, htail, or_false, if_false, Option.none_or]

end Piste
