import Mathlib.Data.List.Dedup
import Piste.Proofs.LastAnswer
import Piste.Table

/-!
# Tables and their entries

A table of distinct keys is its list of entries: `entries_ofList` reads the list back, and
`get?_eq_some_iff` says that a look-up finds exactly what is entered.

Where keys repeat, the last value under a key is found (`get?_ofList`), and a key counts once
(`size_ofList`).
-/

namespace Piste.Table

variable {κ ν : Type} [DecidableEq κ]

omit [DecidableEq κ] in
/-- A table is its list of entries. -/
theorem ext_entries {table other : Table κ ν} (hentries : table.entries = other.entries) :
    table = other := by
  cases table
  cases other
  simp only [mk.injEq]
  exact hentries

/-- A new key goes to the end. -/
theorem put_of_notMem {key : κ} {value : ν} {entries : List (κ × ν)}
    (hkey : key ∉ entries.map Prod.fst) :
    put key value entries = entries ++ [(key, value)] := by
  induction entries with
  | nil => rfl
  | cons entry rest ih =>
    rw [List.map_cons, List.mem_cons, not_or] at hkey
    rw [put, if_neg (Ne.symm hkey.1), ih hkey.2, List.cons_append]

private theorem entries_foldl_insert {table : Table κ ν} {entries : List (κ × ν)}
    (hnodup : ((table.entries ++ entries).map Prod.fst).Nodup) :
    (entries.foldl (fun table entry => table.insert entry.1 entry.2) table).entries =
      table.entries ++ entries := by
  induction entries generalizing table with
  | nil => rw [List.foldl_nil, List.append_nil]
  | cons entry rest ih =>
    have hfresh : entry.1 ∉ table.entries.map Prod.fst := by
      intro hmem
      rw [List.map_append, List.map_cons] at hnodup
      exact (List.nodup_append.1 hnodup).2.2 _ hmem _ List.mem_cons_self rfl
    have hentries : (table.insert entry.1 entry.2).entries = table.entries ++ [entry] :=
      put_of_notMem hfresh
    rw [List.foldl_cons, ih, hentries, List.append_assoc, List.singleton_append]
    rw [hentries, List.append_assoc, List.singleton_append]
    exact hnodup

/-- A table keeps the entries it is made of, as soon as their keys are distinct. -/
theorem entries_ofList {entries : List (κ × ν)} (hnodup : (entries.map Prod.fst).Nodup) :
    (ofList entries).entries = entries := by
  have hempty : (((empty : Table κ ν).entries ++ entries).map Prod.fst).Nodup := hnodup
  exact entries_foldl_insert hempty

/-- A look-up finds exactly what is entered. -/
theorem get?_eq_some_iff {table : Table κ ν} {key : κ} {value : ν} :
    table.get? key = some value ↔ (key, value) ∈ table.entries := by
  obtain ⟨entries, hdistinct⟩ := table
  rw [get?]
  induction entries with
  | nil => simp
  | cons entry rest ih =>
    rw [List.map_cons, List.nodup_cons] at hdistinct
    rw [lookup_cons_ite, List.mem_cons]
    by_cases hkey : key = entry.1
    · have hrest : (key, value) ∉ rest := fun hmem =>
        hdistinct.1 (hkey ▸ List.mem_map_of_mem (f := Prod.fst) hmem)
      rw [if_pos hkey, Option.some_inj, or_iff_left hrest, Prod.ext_iff, and_iff_right hkey]
      exact eq_comm
    · rw [if_neg hkey, ih hdistinct.2]
      have hentry : (key, value) ≠ entry := fun h => hkey (congrArg Prod.fst h)
      rw [or_iff_right hentry]

/-! ## Entries one after another -/

/-- Of the values stored under a key the last one is found, or else what was found before. -/
theorem get?_foldl_insert (table : Table κ ν) (entries : List (κ × ν)) (key : κ) :
    (entries.foldl (fun table entry => table.insert entry.1 entry.2) table).get? key =
      (entries.findSomeRev? fun entry => if entry.1 = key then some entry.2 else none).or
        (table.get? key) := by
  induction entries generalizing table with
  | nil => rfl
  | cons entry entries ih =>
    rw [List.foldl_cons, ih, get?_insert, findSomeRev?_cons, Option.or_assoc]
    by_cases hkey : entry.1 = key
    · rw [if_pos hkey, if_pos hkey.symm, Option.some_or]
    · rw [if_neg hkey, if_neg (Ne.symm hkey), Option.none_or]

theorem get?_ofList (entries : List (κ × ν)) (key : κ) :
    (ofList entries).get? key =
      entries.findSomeRev? fun entry => if entry.1 = key then some entry.2 else none := by
  rw [ofList, get?_foldl_insert, get?_empty, Option.or_none]

theorem get?_ofList_eq_none_iff {entries : List (κ × ν)} {key : κ} :
    (ofList entries).get? key = none ↔ key ∉ entries.map Prod.fst := by
  rw [get?_ofList, findSomeRev?_ite_eq_none_iff, List.mem_map, not_exists]
  exact forall_congr' fun _ => not_and.symm

/-- What is found has been entered. -/
theorem mem_of_get?_ofList {entries : List (κ × ν)} {key : κ} {value : ν}
    (hget : (ofList entries).get? key = some value) : (key, value) ∈ entries := by
  rw [get?_ofList, findSomeRev?_ite_eq_some_iff] at hget
  obtain ⟨before, entry, after, rfl, rfl, rfl, -⟩ := hget
  exact List.mem_append_right before List.mem_cons_self

/-- Values that are a function of their keys are found, however often a key is entered. -/
theorem get?_ofList_map {f : κ → ν} {keys : List κ} {key : κ} (hkey : key ∈ keys) :
    (ofList (keys.map fun key => (key, f key))).get? key = some (f key) := by
  cases hget : (ofList (keys.map fun key => (key, f key))).get? key with
  | none =>
    have habsent := get?_ofList_eq_none_iff.1 hget
    exact absurd (List.mem_map_of_mem (List.mem_map_of_mem hkey)) habsent
  | some value =>
    obtain ⟨other, -, hentry⟩ := List.mem_map.1 (mem_of_get?_ofList hget)
    cases hentry
    rfl

/-- A key of a table is one that a value is stored under. -/
theorem mem_keys_iff {table : Table κ ν} {key : κ} :
    key ∈ table.keys ↔ ∃ value, table.get? key = some value := by
  rw [keys, List.mem_map]
  constructor
  · rintro ⟨entry, hentry, rfl⟩
    exact ⟨entry.2, get?_eq_some_iff.2 hentry⟩
  · rintro ⟨value, hvalue⟩
    exact ⟨(key, value), get?_eq_some_iff.1 hvalue, rfl⟩

theorem get?_eq_none_iff {table : Table κ ν} {key : κ} :
    table.get? key = none ↔ key ∉ table.keys := by
  rw [mem_keys_iff, Option.eq_none_iff_forall_ne_some, not_exists]

theorem mem_keys_ofList {entries : List (κ × ν)} {key : κ} :
    key ∈ (ofList entries).keys ↔ key ∈ entries.map Prod.fst := by
  rw [mem_keys_iff, ← Option.ne_none_iff_exists', Ne, get?_ofList_eq_none_iff, not_not]

/-- However often a key is entered, it counts once. -/
theorem size_ofList (entries : List (κ × ν)) :
    (ofList entries).size = (entries.map Prod.fst).dedup.length := by
  have hkeys : (ofList entries).keys.Perm (entries.map Prod.fst).dedup := by
    apply (List.perm_ext_iff_of_nodup (ofList entries).distinct (List.nodup_dedup _)).2
    intro key
    exact mem_keys_ofList.trans List.mem_dedup.symm
  calc (ofList entries).size = (ofList entries).keys.length := (List.length_map Prod.fst).symm
    _ = (entries.map Prod.fst).dedup.length := hkeys.length_eq

end Piste.Table
