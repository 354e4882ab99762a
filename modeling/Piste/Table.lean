/-!
# Finite tables

A table holds at most one value per key and keeps its keys in the order in which they first came.
`get?_insert` is its law: the last value stored under a key is the one found.
-/

namespace Piste

/-- At most one value per key, keys in the order of their first insertion. -/
structure Table (κ ν : Type) where
  entries : List (κ × ν)
  distinct : (entries.map Prod.fst).Nodup
  deriving DecidableEq

namespace Table

variable {κ ν : Type} [DecidableEq κ]

/-- The table without entries. -/
def empty : Table κ ν where
  entries := []
  distinct := List.Pairwise.nil

instance : EmptyCollection (Table κ ν) := ⟨empty⟩

instance : Inhabited (Table κ ν) := ⟨empty⟩

/-- Keys in the order of their first insertion. -/
def keys (table : Table κ ν) : List κ :=
  table.entries.map Prod.fst

/-- Number of keys. -/
def size (table : Table κ ν) : Nat :=
  table.entries.length

/-- The value stored under `key`. -/
def get? (table : Table κ ν) (key : κ) : Option ν :=
  table.entries.lookup key

/-- Whether a value is stored under `key`. -/
def contains (table : Table κ ν) (key : κ) : Bool :=
  (table.get? key).isSome

/-- Replaces the value of `key` where it stands, or adds the entry at the end. -/
def put (key : κ) (value : ν) : List (κ × ν) → List (κ × ν)
  | [] => [(key, value)]
  | entry :: rest =>
    if entry.1 = key then (key, value) :: rest else entry :: put key value rest

theorem map_fst_put (key : κ) (value : ν) (entries : List (κ × ν)) :
    (put key value entries).map Prod.fst =
      if key ∈ entries.map Prod.fst then entries.map Prod.fst
      else entries.map Prod.fst ++ [key] := by
  induction entries with
  | nil => simp [put]
  | cons entry rest ih =>
    by_cases h : entry.1 = key
    · simp [put, h]
    · by_cases hr : key ∈ rest.map Prod.fst
      · simp_all [put, Ne.symm h]
      · simp_all [put, Ne.symm h]

theorem nodup_map_fst_put {entries : List (κ × ν)} (key : κ) (value : ν)
    (h : (entries.map Prod.fst).Nodup) :
    ((put key value entries).map Prod.fst).Nodup := by
  rw [map_fst_put]
  split
  · exact h
  · rename_i hkey
    rw [List.nodup_append]
    refine ⟨h, by simp, ?_⟩
    intro a ha b hb
    simp only [List.mem_singleton] at hb
    subst hb
    exact fun hab => hkey (hab ▸ ha)

/-- Stores `value` under `key`, in place of an earlier value. -/
def insert (table : Table κ ν) (key : κ) (value : ν) : Table κ ν where
  entries := put key value table.entries
  distinct := nodup_map_fst_put key value table.distinct

/-- Drops the entries whose key fails the test. -/
def filterKeys (table : Table κ ν) (keep : κ → Bool) : Table κ ν where
  entries := table.entries.filter fun entry => keep entry.1
  distinct := (List.filter_sublist.map Prod.fst).nodup table.distinct

/-- Stores the entries one after another, so that of equal keys the last value stays. -/
def ofList (entries : List (κ × ν)) : Table κ ν :=
  entries.foldl (fun table entry => table.insert entry.1 entry.2) empty

theorem lookup_cons_ite (other : κ) (entry : κ × ν) (rest : List (κ × ν)) :
    (entry :: rest).lookup other =
      if other = entry.1 then some entry.2 else rest.lookup other := by
  obtain ⟨key, value⟩ := entry
  rw [List.lookup_cons]
  by_cases h : other = key
  · simp [h]
  · simp [h, beq_eq_false_iff_ne.2 h]

theorem lookup_put (key : κ) (value : ν) (entries : List (κ × ν)) (other : κ) :
    (put key value entries).lookup other =
      if other = key then some value else entries.lookup other := by
  induction entries with
  | nil => simp [put, lookup_cons_ite]
  | cons entry rest ih =>
    by_cases h : entry.1 = key
    · by_cases ho : other = key <;> simp [put, lookup_cons_ite, h, ho]
    · by_cases he : other = entry.1
      · simp [put, lookup_cons_ite, h, he]
      · simp [put, lookup_cons_ite, h, he, ih]

@[simp]
theorem get?_empty (key : κ) : (empty : Table κ ν).get? key = none := rfl

/-- A look-up finds the value stored last under the key. -/
theorem get?_insert (table : Table κ ν) (key other : κ) (value : ν) :
    (table.insert key value).get? other =
      if other = key then some value else table.get? other :=
  lookup_put key value table.entries other

end Table

end Piste
