import Mathlib.Data.List.Nodup
import Piste.Command.Render
import Piste.Proofs.Outcome

/-!
# Loading a layout file and selecting its sets

`Loads` and `LoadFails` say what becomes of the content of a layout file: it is read, decoded,
parsed and checked, and the first of these that fails is reported (`loads_iff`, `loadFails_iff`).
The names of the sets of a loaded file differ, so that each name stands for one set at most:
`selects_iff` and `selectSets_eq_error_iff` say which sets are selected, or which name is unknown.
-/

namespace Piste

open Diagram Text Outcome

/-! ## Loading -/

/-- `file` is the content of a layout file that has been read and has passed all checks. -/
def Loads (content : Except Host.IoError (List UInt8)) (file : LayoutFile) : Prop :=
  ∃ bytes text, content = .ok bytes ∧ Utf8.decode? bytes = some text ∧
    Yaml.Reader.run LayoutFile.read text = .ok file ∧ file.validate = .ok ()

/-- Why the layout file at `path` cannot be loaded: the first that fails of reading it, decoding it,
parsing it and checking it. -/
inductive LoadFails (path : String) :
    Except Host.IoError (List UInt8) → LayoutFileError → Prop where
  | missing : LoadFails path (.error .noEntry) (.notFound path)
  | unreadable {e : Host.IoError} (herror : e ≠ .noEntry) :
    LoadFails path (.error e) (.unreadable e)
  | undecodable {bytes : List UInt8} (hbytes : Utf8.decode? bytes = none) :
    LoadFails path (.ok bytes) (.unreadable Command.notUtf8)
  | unparsable {bytes : List UInt8} {text : String} {e : Yaml.ReadError}
      (hbytes : Utf8.decode? bytes = some text)
      (htext : Yaml.Reader.run LayoutFile.read text = .error e) :
    LoadFails path (.ok bytes) (.invalid e)
  | unsound {bytes : List UInt8} {text : String} {file : LayoutFile} {e : LayoutFileError}
      (hbytes : Utf8.decode? bytes = some text)
      (htext : Yaml.Reader.run LayoutFile.read text = .ok file)
      (hfile : file.validate = .error e) :
    LoadFails path (.ok bytes) e

section Loading

variable {path : String} {content : Except Host.IoError (List UInt8)}

theorem ofYaml_eq_ok_iff {text : String} {file : LayoutFile} :
    LayoutFile.ofYaml text = .ok file ↔
      Yaml.Reader.run LayoutFile.read text = .ok file ∧ file.validate = .ok () := by
  rw [LayoutFile.ofYaml, bind_eq_ok_iff]
  constructor
  · rintro ⟨found, hfound, h⟩
    obtain ⟨⟨⟩, hvalid, h⟩ := bind_eq_ok_iff.1 h
    cases h
    exact ⟨mapError_eq_ok_iff.1 hfound, hvalid⟩
  · rintro ⟨hread, hvalid⟩
    exact ⟨file, mapError_eq_ok_iff.2 hread, bind_eq_ok_iff.2 ⟨(), hvalid, rfl⟩⟩

theorem ofYaml_eq_error_iff {text : String} {e : LayoutFileError} :
    LayoutFile.ofYaml text = .error e ↔
      (∃ cause, Yaml.Reader.run LayoutFile.read text = .error cause ∧ e = .invalid cause) ∨
        ∃ file, Yaml.Reader.run LayoutFile.read text = .ok file ∧ file.validate = .error e := by
  rw [LayoutFile.ofYaml, bind_eq_error_iff, mapError_eq_error_iff]
  refine or_congr_right (exists_congr fun file => ?_)
  rw [mapError_eq_ok_iff, bind_eq_error_iff]
  refine and_congr_right fun _ => ?_
  constructor
  · rintro (hvalid | ⟨_, -, h⟩)
    · exact hvalid
    · cases h
  · exact Or.inl

theorem loads_iff {file : LayoutFile} :
    Command.parseLayoutFile path content = .ok file ↔ Loads content file := by
  cases content with
  | error e => simp [Command.parseLayoutFile, Loads]
  | ok bytes =>
    cases hbytes : Utf8.decode? bytes with
    | none => simp [Command.parseLayoutFile, Loads, hbytes]
    | some text => simp [Command.parseLayoutFile, Loads, hbytes, ofYaml_eq_ok_iff]

theorem loadFails_iff {e : LayoutFileError} :
    Command.parseLayoutFile path content = .error e ↔ LoadFails path content e := by
  constructor
  · intro h
    cases content with
    | error cause =>
      by_cases hmissing : cause = .noEntry
      · subst hmissing
        cases h
        exact .missing
      · simp only [Command.parseLayoutFile, if_neg hmissing] at h
        cases h
        exact .unreadable hmissing
    | ok bytes =>
      cases hbytes : Utf8.decode? bytes with
      | none =>
        simp only [Command.parseLayoutFile, hbytes] at h
        cases h
        exact .undecodable hbytes
      | some text =>
        simp only [Command.parseLayoutFile, hbytes] at h
        rcases ofYaml_eq_error_iff.1 h with ⟨cause, htext, rfl⟩ | ⟨file, htext, hfile⟩
        · exact .unparsable hbytes htext
        · exact .unsound hbytes htext hfile
  · intro h
    cases h with
    | missing => rfl
    | unreadable herror => simp only [Command.parseLayoutFile, if_neg herror]
    | undecodable hbytes => simp only [Command.parseLayoutFile, hbytes]
    | unparsable hbytes htext =>
      simp only [Command.parseLayoutFile, hbytes]
      exact ofYaml_eq_error_iff.2 (Or.inl ⟨_, htext, rfl⟩)
    | unsound hbytes htext hfile =>
      simp only [Command.parseLayoutFile, hbytes]
      exact ofYaml_eq_error_iff.2 (Or.inr ⟨_, htext, hfile⟩)

/-- The sets of a file that has passed all checks have different names. -/
theorem nodup_of_validate {file : LayoutFile} (hvalid : file.validate = .ok ()) :
    (file.connectionSets.map ConnectionSet.name).Nodup := by
  unfold LayoutFile.validate at hvalid
  split at hvalid
  · cases hvalid
  · split at hvalid
    · cases hvalid
    · rename_i hrepeat
      exact (firstRepeat?_eq_none_iff.1 hrepeat).1

theorem Loads.nodup {file : LayoutFile} (h : Loads content file) :
    (file.connectionSets.map ConnectionSet.name).Nodup := by
  obtain ⟨-, -, -, -, -, hvalid⟩ := h
  exact nodup_of_validate hvalid

end Loading

/-! ## Selecting -/

/-- `sets` are the sets of the file that `names` ask for in their order, or all sets in file order
if there are no names. -/
def Selects (file : LayoutFile) (names : List String) (sets : List ConnectionSet) : Prop :=
  if names = [] then sets = file.connectionSets
  else List.Forall₂ (fun name set => set ∈ file.connectionSets ∧ set.name = name) names sets

section Selecting

variable {file : LayoutFile} {names : List String}

/-- A set that is found is one of the file and has the name asked for. -/
theorem mem_of_findSet {name : String} {set : ConnectionSet} (h : file.findSet name = .ok set) :
    set ∈ file.connectionSets ∧ set.name = name := by
  rw [LayoutFile.findSet] at h
  split at h
  · rename_i found hfound
    cases h
    exact ⟨List.mem_of_find?_eq_some hfound, by simpa using List.find?_some hfound⟩
  · cases h

theorem findSet_eq_error_iff {name : String} {e : LayoutFileError} :
    file.findSet name = .error e ↔
      (∀ set ∈ file.connectionSets, set.name ≠ name) ∧ e = .unknownSet name := by
  constructor
  · intro h
    rw [LayoutFile.findSet] at h
    split at h
    · cases h
    · rename_i hnone
      cases h
      exact ⟨by simpa using List.find?_eq_none.1 hnone, rfl⟩
  · rintro ⟨hnone, rfl⟩
    cases hfind : file.findSet name with
    | ok set => exact absurd (mem_of_findSet hfind).2 (hnone set (mem_of_findSet hfind).1)
    | error e =>
      rw [LayoutFile.findSet] at hfind
      split at hfind
      · cases hfind
      · exact hfind.symm

theorem exists_findSet_iff {name : String} :
    (∃ set, file.findSet name = .ok set) ↔ ∃ set ∈ file.connectionSets, set.name = name := by
  cases hfind : file.findSet name with
  | error e => simpa using (findSet_eq_error_iff.1 hfind).1
  | ok found => simpa using ⟨found, mem_of_findSet hfind⟩

/-- Names are looked up one by one. -/
theorem selectSets_of_ne_nil (hnames : names ≠ []) :
    file.selectSets names = names.mapM file.findSet := by
  rw [LayoutFile.selectSets, if_neg (by simpa using hnames)]

/-- In a file whose sets have different names there is one set at most to be found. -/
theorem selects_iff (hdistinct : (file.connectionSets.map ConnectionSet.name).Nodup)
    {sets : List ConnectionSet} :
    file.selectSets names = .ok sets ↔ Selects file names sets := by
  have hfind : ∀ name set, file.findSet name = .ok set ↔
      set ∈ file.connectionSets ∧ set.name = name := by
    intro name set
    refine ⟨mem_of_findSet, ?_⟩
    rintro ⟨hmem, hname⟩
    obtain ⟨found, hfound⟩ := exists_findSet_iff.2 ⟨set, hmem, hname⟩
    obtain ⟨hfoundMem, hfoundName⟩ := mem_of_findSet hfound
    rw [hfound, List.inj_on_of_nodup_map hdistinct hfoundMem hmem (hfoundName.trans hname.symm)]
  rw [Selects]
  by_cases hnames : names = []
  · simp [hnames, LayoutFile.selectSets, eq_comm]
  · rw [selectSets_of_ne_nil hnames, if_neg hnames, mapM_eq_ok_iff]
    simp only [hfind]

/-- The first name that is not that of a set is reported. -/
theorem selectSets_eq_error_iff {e : LayoutFileError} :
    file.selectSets names = .error e ↔
      ∃ before name after, names = before ++ name :: after ∧
        (∀ earlier ∈ before, ∃ set ∈ file.connectionSets, set.name = earlier) ∧
        (∀ set ∈ file.connectionSets, set.name ≠ name) ∧ e = .unknownSet name := by
  by_cases hnames : names = []
  · simp [hnames, LayoutFile.selectSets]
  · rw [selectSets_of_ne_nil hnames, mapM_eq_error_iff]
    simp only [exists_findSet_iff, findSet_eq_error_iff]

/-- No name and no set are the only way to select nothing. -/
theorem Selects.nil_iff :
    Selects file names [] ↔ names = [] ∧ file.connectionSets = [] := by
  rw [Selects]
  by_cases hnames : names = []
  · simp [hnames, eq_comm]
  · simp [hnames]

end Selecting

end Piste
