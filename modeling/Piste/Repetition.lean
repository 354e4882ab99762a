/-!
# Repetition in a list
-/

namespace Piste

/-- The first element that is in `seen` or occurs earlier in the list. -/
def firstRepeat? {α : Type} [DecidableEq α] (seen : List α) : List α → Option α
  | [] => none
  | a :: rest => if a ∈ seen then some a else firstRepeat? (a :: seen) rest

/-- Nothing repeats exactly if the elements are distinct from each other and from those seen. -/
theorem firstRepeat?_eq_none_iff {α : Type} [DecidableEq α] {seen list : List α} :
    firstRepeat? seen list = none ↔ list.Nodup ∧ ∀ a ∈ list, a ∉ seen := by
  induction list generalizing seen with
  | nil => simp [firstRepeat?]
  | cons a rest ih =>
    rw [firstRepeat?]
    split
    · rename_i h
      simp [h]
    · rename_i h
      rw [ih]
      simp only [List.nodup_cons, List.mem_cons, not_or, forall_eq_or_imp]
      constructor
      · rintro ⟨hnodup, hseen⟩
        exact ⟨⟨fun ha => (hseen a ha).1 rfl, hnodup⟩, h, fun b hb => (hseen b hb).2⟩
      · rintro ⟨⟨ha, hnodup⟩, _, hseen⟩
        exact ⟨hnodup, fun b hb => ⟨fun hba => ha (hba ▸ hb), hseen b hb⟩⟩

/-- What repeats first is the first element that occurs before, all earlier ones being distinct. -/
theorem firstRepeat?_eq_some_iff {α : Type} [DecidableEq α] {seen list : List α} {a : α} :
    firstRepeat? seen list = some a ↔
      ∃ before after, list = before ++ a :: after ∧ before.Nodup ∧ (∀ b ∈ before, b ∉ seen) ∧
        (a ∈ seen ∨ a ∈ before) := by
  induction list generalizing seen with
  | nil => simp [firstRepeat?]
  | cons first list ih =>
    rw [firstRepeat?]
    by_cases hfirst : first ∈ seen
    · rw [if_pos hfirst]
      constructor
      · intro h
        cases h
        exact ⟨[], list, rfl, List.nodup_nil, by simp, Or.inl hfirst⟩
      · rintro ⟨before, after, hsplit, -, hfresh, -⟩
        cases before with
        | nil =>
          cases hsplit
          rfl
        | cons other before =>
          cases hsplit
          exact absurd hfirst (hfresh first List.mem_cons_self)
    · rw [if_neg hfirst, ih]
      constructor
      · rintro ⟨before, after, rfl, hnodup, hfresh, ha⟩
        refine ⟨first :: before, after, rfl, ?_, ?_, ?_⟩
        · refine List.nodup_cons.2 ⟨fun hmem => ?_, hnodup⟩
          exact hfresh first hmem List.mem_cons_self
        · refine List.forall_mem_cons.2 ⟨hfirst, fun b hb hseen => ?_⟩
          exact hfresh b hb (List.mem_cons_of_mem _ hseen)
        · rcases ha with hseen | hbefore
          · rcases List.mem_cons.1 hseen with rfl | hseen
            · exact Or.inr List.mem_cons_self
            · exact Or.inl hseen
          · exact Or.inr (List.mem_cons_of_mem _ hbefore)
      · rintro ⟨before, after, hsplit, hnodup, hfresh, ha⟩
        cases before with
        | nil =>
          cases hsplit
          rcases ha with hseen | hnone
          · exact absurd hseen hfirst
          · cases hnone
        | cons other before =>
          cases hsplit
          rw [List.nodup_cons] at hnodup
          refine ⟨before, after, rfl, hnodup.2, fun b hb hmem => ?_, ?_⟩
          · rcases List.mem_cons.1 hmem with rfl | hseen
            · exact hnodup.1 hb
            · exact hfresh b (List.mem_cons_of_mem _ hb) hseen
          · rcases ha with hseen | hbefore
            · exact Or.inl (List.mem_cons_of_mem _ hseen)
            · rcases List.mem_cons.1 hbefore with rfl | hbefore
              · exact Or.inl List.mem_cons_self
              · exact Or.inr hbefore

end Piste
