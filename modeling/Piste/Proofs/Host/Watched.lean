import Piste.Host.Machine
import Piste.Proofs.Host.FileTree

/-!
# Watched machines

A watched machine is a machine with two things added. Its operations on files may fail although its
tree allows them, for lack of rights or of room: a file may then not be seen, and one that was being
written may hold anything. And it keeps a record of the programs that it has been asked to run.

* `attempt_ok_iff` and `attempt_error` say what an operation that changes the tree leaves behind.
* `Mirrors` relates what a command does on a watched machine without faults to what it does on the
  machine itself. It goes through commands step by step (`Mirrors.bind`).
-/

namespace Piste

open Host FileTree

namespace Host

/-- A write that breaks off. -/
structure Breakdown where
  error : IoError
  /-- What the file holds then, or `none` if it has not been touched. -/
  left : Option (List UInt8)

/-- Failures that the file tree gives no reason for. -/
structure Faults where
  look : String → Option IoError
  read : String → Option IoError
  write : String → Option Breakdown
  createDirectories : String → Option IoError
  copy : String → String → Option Breakdown

/-- All goes as the file tree says. -/
def Faults.none : Faults where
  look _ := .none
  read _ := .none
  write _ := .none
  createDirectories _ := .none
  copy _ _ := .none

/-- The tree after a write to a file has broken off. -/
def Breakdown.leave (breakdown : Breakdown) (tree : FileTree) (directory : Location)
    (path : String) : FileTree :=
  match breakdown.left with
  | none => tree
  | some content =>
    match tree.write directory path content with
    | .ok after => after
    | .error _ => tree

end Host

/-- A machine with faults and with a record of the programs that it has been asked to run. -/
structure Watched extends Machine where
  faults : Faults
  runs : List (String × List String)

namespace Watched

variable {watched after : Watched} {path : String} {content : List UInt8}

/-- What reading a file gives. -/
def readFile (watched : Watched) (path : String) : Except IoError (List UInt8) :=
  match watched.faults.read path with
  | some e => .error e
  | none => watched.tree.read watched.directory path

/-- Whether a file or a directory is seen. What cannot be looked at is not. -/
def pathExists (watched : Watched) (path : String) : Bool :=
  match watched.faults.look path with
  | some _ => false
  | none => (watched.tree.find watched.directory path).toBool

/-- Changes the tree, unless that fails or breaks off while `path` is being written. -/
def attempt (watched : Watched) (fault : Option Breakdown) (path : String)
    (result : Except IoError FileTree) : Except IoError Unit × Watched :=
  match fault with
  | some breakdown =>
    (.error breakdown.error,
      { watched with tree := breakdown.leave watched.tree watched.directory path })
  | none =>
    match result with
    | .ok tree => (.ok (), { watched with tree })
    | .error e => (.error e, watched)

/-- Creates a directory with the directories above it. -/
def createDirectories (watched : Watched) (path : String) : Except IoError Unit × Watched :=
  watched.attempt ((watched.faults.createDirectories path).map (⟨·, none⟩)) path
    (watched.tree.createDirectories watched.directory path)

def copyFile (watched : Watched) (source target : String) : Except IoError Unit × Watched :=
  watched.attempt (watched.faults.copy source target) target
    (watched.tree.copy watched.directory source target)

def writeFile (watched : Watched) (path : String) (content : List UInt8) :
    Except IoError Unit × Watched :=
  watched.attempt (watched.faults.write path) path
    (watched.tree.write watched.directory path content)

/-- Runs an external program, and records that. -/
def run (watched : Watched) (program : String) (arguments : List String) :
    Except IoError Exit × Watched :=
  let (exit, tree) := watched.programs watched.tree watched.directory program arguments
  (exit, { watched with tree, runs := watched.runs ++ [(program, arguments)] })

instance : Host (StateM Watched) where
  home := fun watched => (watched.home, watched)
  readFile path := fun watched => (watched.readFile path, watched)
  writeFile path content := fun watched => watched.writeFile path content
  pathExists path := fun watched => (watched.pathExists path, watched)
  createDirectories path := fun watched => watched.createDirectories path
  copyFile source target := fun watched => watched.copyFile source target
  run program arguments := fun watched => watched.run program arguments
  print text := fun watched => ((), { watched with output := watched.output ++ text })
  newStamp := fun watched => (watched.stamp, watched)

/-! ## Operations -/

theorem readFile_run (watched : Watched) (path : String) :
    (Host.readFile path : StateM Watched _).run watched = (watched.readFile path, watched) := rfl

theorem createDirectories_run (watched : Watched) (path : String) :
    (Host.createDirectories path : StateM Watched _).run watched =
      watched.createDirectories path := rfl

theorem copyFile_run (watched : Watched) (source target : String) :
    (Host.copyFile source target : StateM Watched _).run watched =
      watched.copyFile source target := rfl

theorem run_run (watched : Watched) (program : String) (arguments : List String) :
    (Host.run program arguments : StateM Watched _).run watched =
      watched.run program arguments := rfl

/-- One step of a program, and then the rest. -/
theorem run_bind {α β : Type} {action : StateM Watched α} {next : α → StateM Watched β} {a : α}
    (h : action.run watched = (a, after)) :
    (action >>= next).run watched = (next a).run after := by
  rw [StateT.run_bind, h]
  rfl

/-- Where only what is so is said of a result, and something is said, that is all there is to it. -/
theorem result_eq_iff {α : Type} {result : α × Watched} {holds : α → Watched → Prop}
    (hsound : ∀ a after, holds a after → result = (a, after)) (htotal : ∃ a after, holds a after)
    {a : α} : result = (a, after) ↔ holds a after := by
  constructor
  · intro h
    obtain ⟨a', after', hholds⟩ := htotal
    have heq := hsound a' after' hholds
    rw [h] at heq
    cases heq
    exact hholds
  · exact hsound a after

section Operations

variable {fault : Option Breakdown} {result : Except IoError FileTree} {e : IoError}

/-- A write that breaks off has touched no other file. -/
theorem filesChanged_leave (breakdown : Breakdown) (tree : FileTree) (directory : Location)
    (path : String) :
    FilesChanged (fun location => tree.locate directory path = .ok location) tree
      (breakdown.leave tree directory path) := by
  rw [Breakdown.leave]
  split
  · exact .refl _ tree
  · rename_i content _
    split
    · rename_i written hwrite
      obtain ⟨location, executable, htarget, hwritten⟩ := write_eq_ok_iff.1 hwrite
      rw [hwritten]
      exact filesChanged_target htarget content executable
    · exact .refl _ tree

theorem attempt_ok_iff :
    watched.attempt fault path result = (.ok (), after) ↔
      fault = none ∧ ∃ tree, result = .ok tree ∧ after = { watched with tree } := by
  unfold attempt
  cases fault with
  | some breakdown => simp
  | none =>
    cases result with
    | error e => simp
    | ok tree => simp [eq_comm]

/-- An operation that fails may have touched the file that it was to write. -/
theorem attempt_error (h : watched.attempt fault path result = (.error e, after)) :
    ∃ tree, after = { watched with tree } ∧
      FilesChanged (fun location => watched.tree.locate watched.directory path = .ok location)
        watched.tree tree := by
  unfold attempt at h
  cases fault with
  | some breakdown =>
    cases h
    exact ⟨_, rfl, filesChanged_leave breakdown _ _ path⟩
  | none =>
    cases result with
    | ok tree => cases h
    | error e =>
      cases h
      exact ⟨watched.tree, rfl, .refl _ _⟩

theorem createDirectories_ok_iff :
    watched.createDirectories path = (.ok (), after) ↔
      watched.faults.createDirectories path = none ∧
        ∃ tree, watched.tree.createDirectories watched.directory path = .ok tree ∧
          after = { watched with tree } := by
  rw [createDirectories, attempt_ok_iff, Option.map_eq_none_iff]

/-- What is seen is found. -/
theorem exists_find_of_pathExists (h : watched.pathExists path = true) :
    ∃ location entry, watched.tree.find watched.directory path = .ok (location, entry) := by
  rw [pathExists] at h
  split at h
  · cases h
  · cases hfind : watched.tree.find watched.directory path with
    | error e => simp [hfind, Except.toBool] at h
    | ok found => exact ⟨found.1, found.2, rfl⟩

/-- Where directories cannot be created nothing changes. -/
theorem createDirectories_error (h : watched.createDirectories path = (.error e, after)) :
    after = watched := by
  unfold createDirectories attempt at h
  cases hfault : watched.faults.createDirectories path with
  | some e =>
    rw [hfault] at h
    cases h
    rfl
  | none =>
    rw [hfault] at h
    cases hresult : watched.tree.createDirectories watched.directory path with
    | ok tree => simp [hresult] at h
    | error e =>
      rw [hresult] at h
      cases h
      rfl

/-- Copying writes the target and nothing else, even when it fails. -/
theorem copyFile_filesChanged {source target : String} {ending : Except IoError Unit}
    (h : watched.copyFile source target = (ending, after)) :
    FilesChanged (fun location => watched.tree.locate watched.directory target = .ok location)
      watched.tree after.tree := by
  cases ending with
  | error e =>
    obtain ⟨tree, hafter, hfiles⟩ := attempt_error h
    rw [hafter]
    exact hfiles
  | ok =>
    obtain ⟨-, tree, hcopy, hafter⟩ := attempt_ok_iff.1 h
    obtain ⟨place, content, executable, location, former, -, htarget, htree⟩ :=
      copy_eq_ok_iff.1 hcopy
    rw [hafter, htree]
    exact filesChanged_target htarget _ executable

/-- Nothing but the tree has changed. -/
theorem attempt_others {ending : Except IoError Unit}
    (h : watched.attempt fault path result = (ending, after)) :
    after = { watched with tree := after.tree } := by
  cases ending with
  | error e =>
    obtain ⟨tree, hafter, -⟩ := attempt_error h
    rw [hafter]
  | ok =>
    obtain ⟨-, tree, -, hafter⟩ := attempt_ok_iff.1 h
    rw [hafter]

/-- The tree after a run is what the program has made of it. -/
theorem programs_of_run {program : String} {arguments : List String}
    {ending : Except IoError Exit} (h : watched.run program arguments = (ending, after)) :
    watched.programs watched.tree watched.directory program arguments = (ending, after.tree) := by
  cases h
  rfl

/-- What has been read stands in the tree. -/
theorem read_of_readFile (h : watched.readFile path = .ok content) :
    watched.tree.read watched.directory path = .ok content := by
  rw [readFile] at h
  split at h
  · cases h
  · exact h

end Operations

/-! ## Machines without faults -/

/-- What an action does on a watched machine without faults, another one does on the machine. -/
def Mirrors {α : Type} (action : StateM Watched α) (plain : StateM Machine α) : Prop :=
  ∀ watched : Watched, watched.faults = Faults.none →
    (action.run watched).1 = (plain.run watched.toMachine).1 ∧
    (action.run watched).2.toMachine = (plain.run watched.toMachine).2 ∧
    (action.run watched).2.faults = Faults.none

section Mirrors

variable {α β : Type} {action : StateM Watched α} {plain : StateM Machine α}

theorem Mirrors.pure (a : α) : Mirrors (Pure.pure a) (Pure.pure a) :=
  fun _ hfaults => ⟨rfl, rfl, hfaults⟩

theorem Mirrors.bind {next : α → StateM Watched β} {next' : α → StateM Machine β}
    (h : Mirrors action plain) (hnext : ∀ a, Mirrors (next a) (next' a)) :
    Mirrors (action >>= next) (plain >>= next') := by
  intro watched hfaults
  obtain ⟨hanswer, hmachine, hfaults'⟩ := h watched hfaults
  have hrest := hnext (action.run watched).1 (action.run watched).2 hfaults'
  rw [hmachine] at hrest
  have hplain : (plain >>= next').run watched.toMachine =
      (next' (action.run watched).1).run (plain.run watched.toMachine).2 := by
    rw [hanswer]
    rfl
  rw [hplain]
  exact hrest

theorem mirrors_readFile (path : String) : Mirrors (Host.readFile path) (Host.readFile path) := by
  intro watched hfaults
  refine ⟨?_, rfl, hfaults⟩
  show watched.readFile path = _
  rw [readFile, hfaults]
  rfl

theorem mirrors_pathExists (path : String) :
    Mirrors (Host.pathExists path) (Host.pathExists path) := by
  intro watched hfaults
  refine ⟨?_, rfl, hfaults⟩
  show watched.pathExists path = _
  rw [pathExists, hfaults]
  rfl

/-- Without a fault the tree changes as it does on the machine. -/
theorem mirrors_of_attempt {action : StateM Watched (Except IoError Unit)} (path : String)
    {change : Machine → Except IoError FileTree}
    (h : ∀ watched : Watched, watched.faults = Faults.none →
      action.run watched = watched.attempt none path (change watched.toMachine)) :
    Mirrors action (Machine.update change) := by
  intro watched hfaults
  rw [h watched hfaults]
  show _ = (Machine.update change watched.toMachine).1 ∧
    _ = (Machine.update change watched.toMachine).2 ∧ _
  unfold attempt Machine.update
  cases change watched.toMachine with
  | ok tree => exact ⟨rfl, rfl, hfaults⟩
  | error e => exact ⟨rfl, rfl, hfaults⟩

theorem mirrors_writeFile (path : String) (content : List UInt8) :
    Mirrors (Host.writeFile path content) (Host.writeFile path content) := by
  refine mirrors_of_attempt path fun watched hfaults => ?_
  show watched.writeFile path content = _
  rw [writeFile, hfaults]
  rfl

theorem mirrors_createDirectories (path : String) :
    Mirrors (Host.createDirectories path) (Host.createDirectories path) := by
  refine mirrors_of_attempt path fun watched hfaults => ?_
  show watched.createDirectories path = _
  rw [createDirectories, hfaults]
  rfl

theorem mirrors_copyFile (source target : String) :
    Mirrors (Host.copyFile source target) (Host.copyFile source target) := by
  refine mirrors_of_attempt target fun watched hfaults => ?_
  show watched.copyFile source target = _
  rw [copyFile, hfaults]
  rfl

theorem mirrors_run (program : String) (arguments : List String) :
    Mirrors (Host.run program arguments) (Host.run program arguments) :=
  fun _ hfaults => ⟨rfl, rfl, hfaults⟩

end Mirrors

end Watched

end Piste
