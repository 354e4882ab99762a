import Mathlib.Data.List.Forall2

/-!
# Runs that may fail

A run that may fail is an `Except`. The lemmas below say when a sequence of such runs succeeds, so
that no later proof opens the monad.
-/

namespace Piste.Outcome

variable {ε ε' α β : Type}

/-- Two runs one after the other succeed exactly if both do. -/
theorem bind_eq_ok_iff {run : Except ε α} {next : α → Except ε β} {b : β} :
    run >>= next = .ok b ↔ ∃ a, run = .ok a ∧ next a = .ok b := by
  cases run with
  | error e =>
    constructor
    · intro h
      cases h
    · rintro ⟨a, ha, -⟩
      cases ha
  | ok a =>
    constructor
    · intro h
      exact ⟨a, rfl, h⟩
    · rintro ⟨a', ha, h⟩
      cases ha
      exact h

/-- Two runs one after the other fail exactly if the first fails, or else the second. -/
theorem bind_eq_error_iff {run : Except ε α} {next : α → Except ε β} {e : ε} :
    run >>= next = .error e ↔ run = .error e ∨ ∃ a, run = .ok a ∧ next a = .error e := by
  cases run with
  | error e' => simp [bind, Except.bind]
  | ok a => simp [bind, Except.bind]

/-- What a run answers may be changed afterwards. -/
theorem map_eq_ok_iff {f : α → β} {run : Except ε α} {b : β} :
    run.map f = .ok b ↔ ∃ a, run = .ok a ∧ f a = b := by
  cases run <;> simp [Except.map]

theorem map_eq_error_iff {f : α → β} {run : Except ε α} {e : ε} :
    run.map f = .error e ↔ run = .error e := by
  cases run <;> simp [Except.map]

/-- Errors that are put into other words are errors still. -/
theorem mapError_eq_ok_iff {f : ε → ε'} {run : Except ε α} {a : α} :
    run.mapError f = .ok a ↔ run = .ok a := by
  cases run <;> simp [Except.mapError]

theorem mapError_eq_error_iff {f : ε → ε'} {run : Except ε α} {e : ε'} :
    run.mapError f = .error e ↔ ∃ cause, run = .error cause ∧ e = f cause := by
  cases run <;> simp [Except.mapError, eq_comm]

/-- Only the elements of the list matter to a run over it. -/
theorem mapM_congr {f g : α → Except ε β} {as : List α} (h : ∀ a ∈ as, f a = g a) :
    as.mapM f = as.mapM g := by
  induction as with
  | nil => rfl
  | cons a as ih =>
    rw [List.forall_mem_cons] at h
    rw [List.mapM_cons, List.mapM_cons, h.1, ih h.2]

/-- A run over a list succeeds exactly if it does at every element. -/
theorem mapM_eq_ok_iff {f : α → Except ε β} {as : List α} {bs : List β} :
    as.mapM f = .ok bs ↔ List.Forall₂ (fun a b => f a = .ok b) as bs := by
  induction as generalizing bs with
  | nil =>
    rw [List.mapM_nil, List.forall₂_nil_left_iff]
    constructor
    · intro h
      cases h
      rfl
    · rintro rfl
      rfl
  | cons a as ih =>
    rw [List.mapM_cons, bind_eq_ok_iff, List.forall₂_cons_left_iff]
    constructor
    · rintro ⟨b, hb, hrest⟩
      obtain ⟨bs', hbs, h⟩ := bind_eq_ok_iff.1 hrest
      cases h
      exact ⟨b, bs', hb, ih.1 hbs, rfl⟩
    · rintro ⟨b, bs', hb, hbs, rfl⟩
      exact ⟨b, hb, bind_eq_ok_iff.2 ⟨bs', ih.2 hbs, rfl⟩⟩

/-- Where every element has a partner, all of them have. -/
theorem exists_forall₂_iff {R : α → β → Prop} {as : List α} :
    (∃ bs, List.Forall₂ R as bs) ↔ ∀ a ∈ as, ∃ b, R a b := by
  induction as with
  | nil => simp
  | cons a as ih =>
    rw [List.forall_mem_cons, ← ih]
    constructor
    · rintro ⟨bs, hbs⟩
      obtain ⟨b, bs', hfirst, hmore, rfl⟩ := List.forall₂_cons_left_iff.1 hbs
      exact ⟨⟨b, hfirst⟩, bs', hmore⟩
    · rintro ⟨⟨b, hfirst⟩, bs, hmore⟩
      exact ⟨b :: bs, .cons hfirst hmore⟩

theorem exists_mapM_iff {f : α → Except ε β} {as : List α} :
    (∃ bs, as.mapM f = .ok bs) ↔ ∀ a ∈ as, ∃ b, f a = .ok b := by
  simp only [mapM_eq_ok_iff, exists_forall₂_iff]

/-- A run over a list that is put into another order answers the same at each element. -/
theorem exists_mapM_of_perm {f : α → Except ε β} {as as' : List α} (hperm : as.Perm as')
    {bs : List β} (h : as.mapM f = .ok bs) :
    ∃ bs', as'.mapM f = .ok bs' ∧ (as.zip bs).Perm (as'.zip bs') := by
  simp only [mapM_eq_ok_iff] at h ⊢
  induction hperm generalizing bs with
  | nil => exact ⟨bs, h, .refl _⟩
  | cons a _ ih =>
    obtain ⟨b, bs, hb, hbs, rfl⟩ := List.forall₂_cons_left_iff.1 h
    obtain ⟨bs', hbs', hperm⟩ := ih hbs
    exact ⟨b :: bs', .cons hb hbs', hperm.cons (a, b)⟩
  | swap a a' as =>
    obtain ⟨b', _, hb', hrest, rfl⟩ := List.forall₂_cons_left_iff.1 h
    obtain ⟨b, bs, hb, hbs, rfl⟩ := List.forall₂_cons_left_iff.1 hrest
    exact ⟨b :: b' :: bs, .cons hb (.cons hb' hbs), .swap (a, b) (a', b') (as.zip bs)⟩
  | trans _ _ ih ih' =>
    obtain ⟨bs', hbs', hperm⟩ := ih h
    obtain ⟨bs'', hbs'', hperm'⟩ := ih' hbs'
    exact ⟨bs'', hbs'', hperm.trans hperm'⟩

/-- A run over a list fails with the error of the first element that fails. -/
theorem mapM_eq_error_iff {f : α → Except ε β} {as : List α} {e : ε} :
    as.mapM f = .error e ↔
      ∃ before a after, as = before ++ a :: after ∧ (∀ earlier ∈ before, ∃ b, f earlier = .ok b) ∧
        f a = .error e := by
  induction as with
  | nil =>
    rw [List.mapM_nil]
    constructor
    · intro h
      cases h
    · rintro ⟨before, a, after, h, -⟩
      simp at h
  | cons first as ih =>
    rw [List.mapM_cons, bind_eq_error_iff]
    constructor
    · rintro (hfirst | ⟨b, hb, hrest⟩)
      · exact ⟨[], first, as, rfl, by simp, hfirst⟩
      · rcases bind_eq_error_iff.1 hrest with hmore | ⟨bs, -, hpure⟩
        · obtain ⟨before, a, after, rfl, hbefore, ha⟩ := ih.1 hmore
          refine ⟨first :: before, a, after, rfl, ?_, ha⟩
          exact List.forall_mem_cons.2 ⟨⟨b, hb⟩, hbefore⟩
        · cases hpure
    · rintro ⟨before, a, after, hsplit, hbefore, ha⟩
      cases before with
      | nil =>
        cases hsplit
        exact Or.inl ha
      | cons other before =>
        cases hsplit
        rw [List.forall_mem_cons] at hbefore
        obtain ⟨⟨b, hb⟩, hbefore⟩ := hbefore
        have hmore := ih.2 ⟨before, a, after, rfl, hbefore, ha⟩
        exact Or.inr ⟨b, hb, bind_eq_error_iff.2 (Or.inl hmore)⟩

end Piste.Outcome
