import Piste.Proofs.LayoutFile.Loading

/-!
# Selecting sets by name

In a file that has passed all checks a name stands for one set at most (`soleSet_iff`), although the
search for it stops at the first. So names select their sets one by one: in parts, in another order,
and all of them as if none had been given (`selectSets_of_validate`).
-/

namespace Piste

open Diagram Outcome

/-- The file has one set with the name, and it is this one. -/
def SoleSet (file : LayoutFile) (name : String) (set : ConnectionSet) : Prop :=
  file.connectionSets.filter (·.name = name) = [set]

section Selection

variable {file : LayoutFile} {names names' more : List String} {sets : List ConnectionSet}

/-- Where names differ, a set with the name is the only one. -/
theorem soleSet_iff (hdistinct : (file.connectionSets.map ConnectionSet.name).Nodup)
    {name : String} {set : ConnectionSet} :
    SoleSet file name set ↔ set ∈ file.connectionSets ∧ set.name = name := by
  constructor
  · intro hsole
    have hmem : set ∈ file.connectionSets.filter (·.name = name) := by
      rw [hsole]
      exact List.mem_singleton_self set
    simpa using hmem
  · rintro ⟨hmem, hname⟩
    have hfound : (file.connectionSets.filter (·.name = name)).Nodup :=
      (List.Nodup.of_map ConnectionSet.name hdistinct).filter _
    refine List.perm_singleton.1 ((List.perm_ext_iff_of_nodup hfound (by simp)).2 ?_)
    intro other
    simp only [List.mem_filter, decide_eq_true_eq, List.mem_singleton]
    constructor
    · rintro ⟨hother, hotherName⟩
      exact List.inj_on_of_nodup_map hdistinct hother hmem (hotherName.trans hname.symm)
    · rintro rfl
      exact ⟨hmem, hname⟩

theorem exists_selectSets_iff (hnames : names ≠ []) :
    (∃ sets, file.selectSets names = .ok sets) ↔
      ∀ name ∈ names, ∃ set ∈ file.connectionSets, set.name = name := by
  rw [selectSets_of_ne_nil hnames]
  simp only [exists_mapM_iff, exists_findSet_iff]

/-- Each name is answered by its set. -/
theorem selectSets_eq_ok_iff (hdistinct : (file.connectionSets.map ConnectionSet.name).Nodup)
    (hnames : names ≠ []) :
    file.selectSets names = .ok sets ↔ List.Forall₂ (SoleSet file) names sets := by
  have hsole : SoleSet file = fun name set => set ∈ file.connectionSets ∧ set.name = name := by
    funext name set
    exact propext (soleSet_iff hdistinct)
  rw [selects_iff hdistinct, Selects, if_neg hnames, hsole]

/-- Names are looked up in two parts as in one. -/
theorem selectSets_append (hnames : names ≠ []) (hmore : more ≠ []) :
    file.selectSets (names ++ more) = do
      let first ← file.selectSets names
      let rest ← file.selectSets more
      return first ++ rest := by
  rw [selectSets_of_ne_nil (List.append_ne_nil_of_left_ne_nil hnames more),
    selectSets_of_ne_nil hnames, selectSets_of_ne_nil hmore, List.mapM_append]

/-- Names in another order give the same sets in this order. -/
theorem selectSets_of_perm (hnames : names ≠ []) (hperm : names.Perm names')
    (hsets : file.selectSets names = .ok sets) :
    ∃ sets', file.selectSets names' = .ok sets' ∧ sets.Perm sets' ∧
      (names.zip sets).Perm (names'.zip sets') := by
  have hnames' : names' ≠ [] := by
    rintro rfl
    exact hnames hperm.eq_nil
  rw [selectSets_of_ne_nil hnames] at hsets
  rw [selectSets_of_ne_nil hnames']
  obtain ⟨sets', hsets', hzip⟩ := exists_mapM_of_perm hperm hsets
  have hlength : sets.length ≤ names.length :=
    Nat.le_of_eq (mapM_eq_ok_iff.1 hsets).length_eq.symm
  have hlength' : sets'.length ≤ names'.length :=
    Nat.le_of_eq (mapM_eq_ok_iff.1 hsets').length_eq.symm
  refine ⟨sets', hsets', ?_, hzip⟩
  have hsecond := hzip.map Prod.snd
  rwa [List.map_snd_zip hlength, List.map_snd_zip hlength'] at hsecond

/-- All names in file order select what no names select. -/
theorem selectSets_all_names (hdistinct : (file.connectionSets.map ConnectionSet.name).Nodup) :
    file.selectSets (file.connectionSets.map ConnectionSet.name) = file.selectSets [] := by
  have hnone : file.selectSets [] = .ok file.connectionSets := rfl
  rw [hnone, selects_iff hdistinct, Selects]
  split
  · rfl
  · rw [List.forall₂_map_left_iff, List.forall₂_same]
    exact fun set hset => ⟨hset, rfl⟩

/-- In a file that has passed all checks names select their sets one by one, or the first that is
not the name of a set is reported. -/
theorem selectSets_of_validate (hvalid : file.validate = .ok ()) :
    (∀ names, names ≠ [] →
      ((∃ sets, file.selectSets names = .ok sets) ↔
        ∀ name ∈ names, ∃ set ∈ file.connectionSets, set.name = name) ∧
      (∀ sets, file.selectSets names = .ok sets ↔ List.Forall₂ (SoleSet file) names sets) ∧
      ∀ e, file.selectSets names = .error e ↔
        ∃ before name after, names = before ++ name :: after ∧
          (∀ earlier ∈ before, ∃ set ∈ file.connectionSets, set.name = earlier) ∧
          (∀ set ∈ file.connectionSets, set.name ≠ name) ∧ e = .unknownSet name) ∧
    (∀ names more, names ≠ [] → more ≠ [] →
      file.selectSets (names ++ more) = do
        let first ← file.selectSets names
        let rest ← file.selectSets more
        return first ++ rest) ∧
    (∀ names names' sets, names ≠ [] → names.Perm names' → file.selectSets names = .ok sets →
      ∃ sets', file.selectSets names' = .ok sets' ∧ sets.Perm sets' ∧
        (names.zip sets).Perm (names'.zip sets')) ∧
    file.selectSets (file.connectionSets.map ConnectionSet.name) = file.selectSets [] := by
  have hdistinct := nodup_of_validate hvalid
  refine ⟨fun names hnames => ⟨exists_selectSets_iff hnames,
      fun sets => selectSets_eq_ok_iff hdistinct hnames, fun e => selectSets_eq_error_iff⟩,
    fun names more => selectSets_append, fun names names' sets => selectSets_of_perm,
    selectSets_all_names hdistinct⟩

/-- A file with two sets. -/
def twoSets : LayoutFile where
  terminals := ["A", "B"]
  anchor := "A"
  center := 4
  scale := 1.0
  distances := [("A", "B", 4.0)]
  labelWidths := ∅
  connectionSets := [⟨"heat", [⟨"A", "B", true⟩]⟩, ⟨"test", [⟨"A", "B", false⟩, ⟨"B", "A", true⟩]⟩]

/-- A set that is asked for twice is selected twice. Of two unknown names the first is reported. -/
theorem selectSets_twoSets :
    twoSets.selectSets ["test", "heat", "test"] =
      .ok [⟨"test", [⟨"A", "B", false⟩, ⟨"B", "A", true⟩]⟩, ⟨"heat", [⟨"A", "B", true⟩]⟩,
        ⟨"test", [⟨"A", "B", false⟩, ⟨"B", "A", true⟩]⟩] ∧
    twoSets.selectSets ["heat", "cool", "Test"] = .error (.unknownSet "cool") := by
  have hvalid : twoSets.validate = .ok () := rfl
  have hselect := (selectSets_of_validate hvalid).1
  constructor
  · exact ((hselect ["test", "heat", "test"] (by simp)).2.1 _).2
      (.cons rfl (.cons rfl (.cons rfl .nil)))
  · refine ((hselect ["heat", "cool", "Test"] (by simp)).2.2 _).2
      ⟨["heat"], "cool", ["Test"], rfl, ?_, ?_, rfl⟩
    · simp [twoSets]
    · simp [twoSets]

end Selection

end Piste
