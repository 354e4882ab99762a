import Mathlib.Data.List.Nodup
import Piste.LayoutFile.Basic
import Piste.Proofs.Text.ByteOrder

/-!
# Checking a layout file

`LabelsKnown` and `SetsDistinct` are what is checked of a layout file, and `Defect` says which error
is reported for a file that fails. An unknown terminal comes before a repeated set. Of several
unknown terminals the one whose bytes come first is reported, and of several repeated sets the first
in the file.

* `least?_of_bytes` is the search for the terminal to report. The order in which the terminals are
  listed does not matter to it.
* `repeatedSet_iff` is the search for the set to report.
* `validate_exact` is the check as a whole.
-/

namespace Piste.LayoutFile

open Diagram Text

/-- Only terminals have a label width. -/
def LabelsKnown (file : LayoutFile) : Prop :=
  ∀ id ∈ file.labelWidths.keys, id ∈ file.terminals

/-- The sets have different names. -/
def SetsDistinct (file : LayoutFile) : Prop :=
  (file.connectionSets.map ConnectionSet.name).Nodup

/-- What is wrong with a file, and is reported. -/
inductive Defect (file : LayoutFile) : LayoutFileError → Prop where
  | unknownLabel {id : String} (hkey : id ∈ file.labelWidths.keys) (hid : id ∉ file.terminals)
      (hleast : ∀ other ∈ file.labelWidths.keys, other ∉ file.terminals → other ≠ id →
        Utf8.encode id < Utf8.encode other) :
    Defect file (.unknownLabelTerminal id)
  | repeatedSet {before after : List ConnectionSet} {set : ConnectionSet}
      (hlabels : file.LabelsKnown) (hsets : file.connectionSets = before ++ set :: after)
      (hbefore : (before.map ConnectionSet.name).Nodup)
      (hset : ∃ earlier ∈ before, earlier.name = set.name) :
    Defect file (.duplicateSet set.name)

/-! ## Unknown terminals -/

section Least

variable {ids : List String} {id : String}

theorem least?_eq_none_iff : least? ids = none ↔ ids = [] := by
  cases ids with
  | nil => simp [least?]
  | cons first rest =>
    rw [least?]
    cases least? rest <;> simp

/-- The least is before all others. -/
theorem least?_eq_some (h : least? ids = some id) :
    id ∈ ids ∧ ∀ other ∈ ids, other ≠ id → id < other := by
  induction ids generalizing id with
  | nil => simp [least?] at h
  | cons first rest ih =>
    rw [least?] at h
    cases hrest : least? rest with
    | none =>
      have hnil : rest = [] := least?_eq_none_iff.1 hrest
      have hid : id = first := by simpa [hrest] using h.symm
      rw [hnil, hid]
      simp
    | some least =>
      obtain ⟨hmem, hbefore⟩ := ih hrest
      have hid : id = if least < first then least else first := by simpa [hrest] using h.symm
      by_cases hlt : least < first
      · rw [hid, if_pos hlt]
        refine ⟨List.mem_cons_of_mem _ hmem, fun other hother hne => ?_⟩
        rcases List.mem_cons.1 hother with heq | hother
        · rwa [heq]
        · exact hbefore other hother hne
      · rw [hid, if_neg hlt]
        refine ⟨List.mem_cons_self, fun other hother hne => ?_⟩
        have hle : first ≤ least := not_lt.1 hlt
        rcases List.mem_cons.1 hother with heq | hother
        · exact absurd heq hne
        · by_cases hleast : other = least
          · exact lt_of_le_of_ne (hleast ▸ hle) (Ne.symm hne)
          · exact lt_of_le_of_lt hle (hbefore other hother hleast)

/-- The element whose bytes come first is the least, wherever it stands in the list. -/
theorem least?_of_bytes (hid : id ∈ ids)
    (hleast : ∀ other ∈ ids, other ≠ id → Utf8.encode id < Utf8.encode other) :
    least? ids = some id := by
  cases hsome : least? ids with
  | none =>
    rw [least?_eq_none_iff.1 hsome] at hid
    exact absurd hid List.not_mem_nil
  | some least =>
    obtain ⟨hmem, hbefore⟩ := least?_eq_some hsome
    by_cases heq : least = id
    · rw [heq]
    · have hlt : id < least := Utf8.encode_lt_encode_iff.1 (hleast least hmem heq)
      have hgt : least < id := hbefore id hid (Ne.symm heq)
      exact absurd hlt (lt_asymm hgt)

end Least

variable {file : LayoutFile}

theorem mem_unknownLabels {id : String} :
    id ∈ file.unknownLabels ↔ id ∈ file.labelWidths.keys ∧ id ∉ file.terminals := by
  simp [unknownLabels]

theorem unknownLabels_eq_nil_iff : file.unknownLabels = [] ↔ file.LabelsKnown := by
  simp [unknownLabels, LabelsKnown]

/-! ## Repeated sets -/

/-- The name that repeats first is that of a set after sets of different names. -/
theorem repeatedSet_iff {sets : List ConnectionSet} {name : String} :
    firstRepeat? [] (sets.map ConnectionSet.name) = some name ↔
      ∃ before set after, sets = before ++ set :: after ∧
        (before.map ConnectionSet.name).Nodup ∧ (∃ earlier ∈ before, earlier.name = set.name) ∧
        set.name = name := by
  rw [firstRepeat?_eq_some_iff]
  constructor
  · intro h
    obtain ⟨names, more, hsplit, hnodup, -, hname⟩ := h
    obtain ⟨before, rest, hsets, hbefore, hrest⟩ := List.map_eq_append_iff.1 hsplit
    obtain ⟨set, after, hcons, hset, -⟩ := List.map_eq_cons_iff.1 hrest
    refine ⟨before, set, after, by rw [hsets, hcons], by rwa [hbefore], ?_, hset⟩
    have hmem : name ∈ before.map ConnectionSet.name := by simpa [hbefore] using hname
    rw [hset]
    simpa using hmem
  · intro h
    obtain ⟨before, set, after, hsets, hnodup, hearlier, hset⟩ := h
    refine ⟨before.map ConnectionSet.name, after.map ConnectionSet.name, ?_, hnodup, by simp, ?_⟩
    · rw [hsets, List.map_append, List.map_cons, hset]
    · rw [← hset]
      exact Or.inr (by simpa using hearlier)

/-! ## The check -/

theorem validate_eq_ok_iff : file.validate = .ok () ↔ file.LabelsKnown ∧ file.SetsDistinct := by
  rw [validate, ← unknownLabels_eq_nil_iff, ← least?_eq_none_iff, SetsDistinct]
  cases hleast : least? file.unknownLabels with
  | some id => simp
  | none =>
    cases hrepeat : firstRepeat? [] (file.connectionSets.map ConnectionSet.name) with
    | some name =>
      have hrepeats : ¬ (file.connectionSets.map ConnectionSet.name).Nodup := by
        intro hnodup
        have hnone : firstRepeat? [] (file.connectionSets.map ConnectionSet.name) = none :=
          firstRepeat?_eq_none_iff.2 ⟨hnodup, by simp⟩
        rw [hrepeat] at hnone
        cases hnone
      simp [hrepeats]
    | none =>
      have hnodup := (firstRepeat?_eq_none_iff.1 hrepeat).1
      simp [hnodup]

theorem validate_eq_error_iff {e : LayoutFileError} : file.validate = .error e ↔ Defect file e := by
  constructor
  · intro h
    rw [validate] at h
    cases hleast : least? file.unknownLabels with
    | some id =>
      obtain ⟨hmem, hbefore⟩ := least?_eq_some hleast
      obtain ⟨hkey, hid⟩ := mem_unknownLabels.1 hmem
      rw [hleast] at h
      cases h
      refine .unknownLabel hkey hid fun other hother hunknown hne => ?_
      rw [Utf8.encode_lt_encode_iff]
      exact hbefore other (mem_unknownLabels.2 ⟨hother, hunknown⟩) hne
    | none =>
      have hlabels := unknownLabels_eq_nil_iff.1 (least?_eq_none_iff.1 hleast)
      rw [hleast] at h
      cases hrepeat : firstRepeat? [] (file.connectionSets.map ConnectionSet.name) with
      | none => simp [hrepeat] at h
      | some name =>
        obtain ⟨before, set, after, hsets, hbefore, hset, hname⟩ := repeatedSet_iff.1 hrepeat
        rw [← hname] at hrepeat
        simp only [hrepeat] at h
        cases h
        exact .repeatedSet hlabels hsets hbefore hset
  · intro h
    rw [validate]
    cases h with
    | unknownLabel hkey hid hleast =>
      have hfound := least?_of_bytes (mem_unknownLabels.2 ⟨hkey, hid⟩) fun other hother hne =>
        hleast other (mem_unknownLabels.1 hother).1 (mem_unknownLabels.1 hother).2 hne
      rw [hfound]
    | repeatedSet hlabels hsets hbefore hset =>
      have hnone := least?_eq_none_iff.2 (unknownLabels_eq_nil_iff.2 hlabels)
      have hrepeat := repeatedSet_iff.2 ⟨_, _, _, hsets, hbefore, hset, rfl⟩
      rw [hnone]
      simp only [hrepeat]

section Order

variable {file' : LayoutFile}

theorem labelsKnown_congr (hterminals : file'.terminals = file.terminals)
    (hkeys : file'.labelWidths.keys.Perm file.labelWidths.keys) :
    file'.LabelsKnown ↔ file.LabelsKnown := by
  simp only [LabelsKnown, hterminals, hkeys.mem_iff]

theorem Defect.congr (hterminals : file'.terminals = file.terminals)
    (hsets : file'.connectionSets = file.connectionSets)
    (hkeys : file'.labelWidths.keys.Perm file.labelWidths.keys) {e : LayoutFileError}
    (h : Defect file e) : Defect file' e := by
  cases h with
  | unknownLabel hkey hid hleast =>
    simp only [← hterminals, ← hkeys.mem_iff] at hkey hid hleast
    exact .unknownLabel hkey hid hleast
  | repeatedSet hlabels hsplit hbefore hset =>
    exact .repeatedSet ((labelsKnown_congr hterminals hkeys).2 hlabels) (hsets.trans hsplit) hbefore
      hset

/-- The order of the label widths does not matter. -/
theorem validate_congr (hterminals : file'.terminals = file.terminals)
    (hsets : file'.connectionSets = file.connectionSets)
    (hkeys : file'.labelWidths.keys.Perm file.labelWidths.keys) :
    file'.validate = file.validate := by
  cases hfile : file.validate with
  | ok =>
    obtain ⟨hlabels, hdistinct⟩ := validate_eq_ok_iff.1 hfile
    rw [validate_eq_ok_iff, labelsKnown_congr hterminals hkeys, SetsDistinct, hsets]
    exact ⟨hlabels, hdistinct⟩
  | error e =>
    exact validate_eq_error_iff.2 ((validate_eq_error_iff.1 hfile).congr hterminals hsets hkeys)

end Order

/-- A file passes exactly if only terminals have label widths and no two sets have one name.
Otherwise the unknown terminal is reported whose bytes come first, in whatever order the label
widths are given, or else the first set with a name that occurs before it. -/
theorem validate_exact (file : LayoutFile) :
    (file.validate = .ok () ↔
      (∀ id ∈ file.labelWidths.keys, id ∈ file.terminals) ∧
        (file.connectionSets.map ConnectionSet.name).Nodup) ∧
    (∀ e, file.validate = .error e ↔ Defect file e) ∧
    ∀ file' : LayoutFile, file'.terminals = file.terminals →
      file'.connectionSets = file.connectionSets →
      file'.labelWidths.keys.Perm file.labelWidths.keys → file'.validate = file.validate := by
  refine ⟨validate_eq_ok_iff, fun e => validate_eq_error_iff, ?_⟩
  intro file' hterminals hsets hkeys
  exact validate_congr hterminals hsets hkeys

/-- A file with two unknown terminals, U+FF5E and U+1F600, and a repeated set. -/
def twoUnknown (labelWidths : Table String Nat) : LayoutFile where
  terminals := ["A", "B"]
  anchor := "A"
  center := 4
  scale := 1.0
  distances := [("A", "B", 4.0)]
  labelWidths
  connectionSets := [⟨"heat", [⟨"A", "B", true⟩]⟩, ⟨"heat", []⟩]

/-- The lesser of two unknown terminals is reported wherever it stands. In 16-bit units it would be
the greater one. -/
theorem validate_twoUnknown :
    let widths : Table String Nat := .ofList [("😀", 3), ("B", 1), ("～", 2)]
    let widths' : Table String Nat := .ofList [("～", 2), ("😀", 3), ("B", 1)]
    (twoUnknown widths).validate = .error (.unknownLabelTerminal "～") ∧
      widths'.keys.Perm widths.keys ∧
      (twoUnknown widths').validate = (twoUnknown widths).validate := by
  intro widths widths'
  have hperm : widths'.keys.Perm widths.keys := by decide
  have hexact := validate_exact (twoUnknown widths)
  refine ⟨?_, hperm, hexact.2.2 (twoUnknown widths') rfl rfl hperm⟩
  refine (hexact.2.1 _).2 (.unknownLabel ?_ ?_ ?_)
  · decide
  · decide
  · decide

end Piste.LayoutFile
