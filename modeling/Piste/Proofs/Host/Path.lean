import Mathlib.Data.List.Basic
import Piste.Host.Path

/-!
# Names at the end of a path

A name that is joined to a path is one more name of it (`components_join`), and the path starts
where it started before (`isAbsolute_join`).
-/

namespace Piste.Host.Path

/-- A name that stands for itself in a path: it does not lead to the same directory or to the one
above. -/
structure IsName (name : String) : Prop where
  nonempty : name ≠ ""
  noSlash : '/' ∉ name.toList
  notHere : name ≠ "."
  notAbove : name ≠ ".."

variable {base name : String}

namespace IsName

theorem toList_ne_nil (hname : IsName name) : name.toList ≠ [] :=
  fun h => hname.nonempty (String.toList_eq_nil_iff.1 h)

theorem not_isAbsolute (hname : IsName name) : isAbsolute name = false := by
  rw [isAbsolute]
  cases hlist : name.toList with
  | nil => rfl
  | cons c cs =>
    have hslash := hname.noSlash
    rw [hlist, List.mem_cons, not_or] at hslash
    simpa using Ne.symm hslash.1

/-- Between two slashes a name stands alone. -/
theorem splitOn_toList (hname : IsName name) :
    ((name.toList.splitOn '/').filter (!·.isEmpty)).map String.ofList = [name] := by
  have hnonempty : name.toList.isEmpty = false := by simpa using hname.nonempty
  rw [List.splitOn_eq_singleton hname.noSlash]
  simp [hnonempty]

theorem components_eq (hname : IsName name) : components name = [name] :=
  hname.splitOn_toList

end IsName

/-- A slash comes between the path and the name. It may be there already. -/
theorem join_cases (base : String) (hname : IsName name) :
    (base = "" ∧ join base name = name) ∨
      (∃ cs, base.toList = cs ++ ['/'] ∧ (join base name).toList = cs ++ '/' :: name.toList) ∨
      (base ≠ "" ∧ (join base name).toList = base.toList ++ '/' :: name.toList) := by
  rw [join, hname.not_isAbsolute]
  by_cases hempty : base = ""
  · rw [hempty]
    exact Or.inl ⟨rfl, by simp⟩
  by_cases hslash : endsInSlash base = true
  · have hlast : base.toList.getLast? = some '/' := by simpa [endsInSlash] using hslash
    obtain ⟨cs, hcs⟩ := List.getLast?_eq_some_iff.1 hlast
    refine Or.inr (Or.inl ⟨cs, hcs, ?_⟩)
    simp [hslash, hcs]
  · refine Or.inr (Or.inr ⟨hempty, ?_⟩)
    simp [hslash, hempty]

theorem isAbsolute_join (hname : IsName name) : isAbsolute (join base name) = isAbsolute base := by
  rcases join_cases base hname with ⟨hbase, hjoin⟩ | ⟨cs, hbase, hjoin⟩ | ⟨hbase, hjoin⟩
  · rw [hjoin, hname.not_isAbsolute, hbase]
    rfl
  · rw [isAbsolute, hjoin, isAbsolute, hbase]
    cases cs <;> rfl
  · rw [isAbsolute, hjoin, isAbsolute]
    cases hlist : base.toList with
    | nil => exact absurd (String.toList_eq_nil_iff.1 hlist) hbase
    | cons c cs => rfl

/-- The path ends as the name does. -/
theorem exists_toList_join (base : String) (hname : IsName name) :
    ∃ before, (join base name).toList = before ++ name.toList := by
  rcases join_cases base hname with ⟨-, hjoin⟩ | ⟨cs, -, hjoin⟩ | ⟨-, hjoin⟩
  · exact ⟨[], by rw [hjoin, List.nil_append]⟩
  · exact ⟨cs ++ ['/'], by rw [hjoin, List.append_assoc, List.singleton_append]⟩
  · exact ⟨base.toList ++ ['/'], by rw [hjoin, List.append_assoc, List.singleton_append]⟩

theorem join_ne_empty (hname : IsName name) : join base name ≠ "" := by
  obtain ⟨before, hjoin⟩ := exists_toList_join base hname
  intro hempty
  rw [hempty] at hjoin
  have hnil : before = [] ∧ name.toList = [] := by simpa using hjoin.symm
  exact hname.toList_ne_nil hnil.2

/-- The name comes after the names of the path. -/
theorem components_join (hname : IsName name) :
    components (join base name) = components base ++ [name] := by
  rcases join_cases base hname with ⟨hbase, hjoin⟩ | ⟨cs, hbase, hjoin⟩ | ⟨-, hjoin⟩
  · rw [hjoin, hname.components_eq, hbase]
    rfl
  · have hempty : List.splitOn '/' ([] : List Char) = [[]] := List.splitOn_nil _
    rw [components, hjoin, components, hbase, List.splitOn_append_cons_self, List.filter_append,
      List.map_append, hname.splitOn_toList, List.splitOn_append_cons_self, hempty]
    simp
  · rw [components, hjoin, components, List.splitOn_append_cons_self, List.filter_append,
      List.map_append, hname.splitOn_toList]

end Piste.Host.Path
