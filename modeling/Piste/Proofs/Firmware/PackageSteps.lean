import Piste.Firmware.Package
import Piste.Proofs.Host.Installed
import Piste.Proofs.Host.Watched

/-!
# The steps of packaging

A package is made in steps, each of which may fail: the images are looked for, the output directory
is created, the application image is copied, and the tool merges the images.

* `Packages` says what comes of it, step by step, and `package_eq_iff` that this is what the program
  does. It holds on every machine, with any paths and links.
* A package is made if and only if all steps succeed (`Packages.made_iff`). The tool is run once if
  the copy has been made, and not at all otherwise (`Packages.runs_eq`).
* Where programs are installed, a tool that does not start changes nothing
  (`Packages.tree_of_start`).
* `mirrors_makePackage` takes this to machines as they are, without faults.
-/

namespace Piste

open Firmware Host FileTree

/-- What packaging comes to on a machine. -/
def Watched.package (watched : Watched) (paths : BuildPaths) (tool : Esptool) (stamp : String) :
    Except PackageError Package × Watched :=
  (makePackage paths tool stamp : StateM Watched _).run watched

/-- The images that do not exist. -/
def Watched.absent (watched : Watched) (paths : BuildPaths) : List String :=
  paths.inputs.filter fun path => !watched.pathExists path

/-- What comes of packaging, and the machine then. -/
inductive Packages (before : Watched) (paths : BuildPaths) (tool : Esptool) (stamp : String) :
    Except PackageError Package → Watched → Prop where
  | incomplete (habsent : before.absent paths ≠ []) :
    Packages before paths tool stamp (.error (.missingInputs (before.absent paths))) before
  | uncreated {e : IoError} {after : Watched} (habsent : before.absent paths = [])
      (hcreate : before.createDirectories paths.outputDirectory = (.error e, after)) :
    Packages before paths tool stamp (.error (.createDirectory paths.outputDirectory e)) after
  | uncopied {e : IoError} {created after : Watched} (habsent : before.absent paths = [])
      (hcreate : before.createDirectories paths.outputDirectory = (.ok (), created))
      (hcopy : created.copyFile paths.application (paths.copy stamp) = (.error e, after)) :
    Packages before paths tool stamp (.error (.copy paths.application (paths.copy stamp) e)) after
  | ran {ending : Except IoError Exit} {created copied after : Watched}
      (habsent : before.absent paths = [])
      (hcreate : before.createDirectories paths.outputDirectory = (.ok (), created))
      (hcopy : created.copyFile paths.application (paths.copy stamp) = (.ok (), copied))
      (hrun : copied.run tool.program (tool.mergeArguments paths (paths.merged stamp)) =
        (ending, after)) :
    Packages before paths tool stamp
      (({ copy := paths.copy stamp, merged := paths.merged stamp } : Package).ofExit tool.program
        ending) after

section Packaging

variable {before after : Watched} {paths : BuildPaths} {tool : Esptool} {stamp : String}
  {outcome : Except PackageError Package}

theorem run_missing (list : List String) (watched : Watched) :
    (missing list : StateM Watched _).run watched =
      (list.filter (fun path => !watched.pathExists path), watched) := by
  induction list with
  | nil => rfl
  | cons path rest ih =>
    have hrest : (missing (path :: rest) : StateM Watched _).run watched =
        (if watched.pathExists path then ((missing rest : StateM Watched _).run watched).1
          else path :: ((missing rest : StateM Watched _).run watched).1,
          ((missing rest : StateM Watched _).run watched).2) := rfl
    rw [hrest, ih]
    cases hexists : watched.pathExists path with
    | true => simp [hexists]
    | false => simp [hexists]

/-- The program does what `Packages` says. -/
theorem Packages.package_eq (h : Packages before paths tool stamp outcome after) :
    before.package paths tool stamp = (outcome, after) := by
  have hmissing : (missing paths.inputs : StateM Watched _).run before =
      (before.absent paths, before) := run_missing paths.inputs before
  unfold Watched.package makePackage
  refine (Watched.run_bind hmissing).trans ?_
  cases h with
  | incomplete habsent =>
    cases hlist : before.absent paths with
    | nil => exact absurd hlist habsent
    | cons path more => rfl
  | uncreated habsent hcreate =>
    rw [habsent]
    exact Watched.run_bind ((Watched.createDirectories_run _ _).trans hcreate)
  | uncopied habsent hcreate hcopy =>
    rw [habsent]
    refine (Watched.run_bind ((Watched.createDirectories_run _ _).trans hcreate)).trans ?_
    exact Watched.run_bind ((Watched.copyFile_run _ _ _).trans hcopy)
  | ran habsent hcreate hcopy hrun =>
    rw [habsent]
    refine (Watched.run_bind ((Watched.createDirectories_run _ _).trans hcreate)).trans ?_
    refine (Watched.run_bind ((Watched.copyFile_run _ _ _).trans hcopy)).trans ?_
    exact Watched.run_bind ((Watched.run_run _ _ _).trans hrun)

/-- Something of what `Packages` says is the case. -/
theorem exists_packages (before : Watched) (paths : BuildPaths) (tool : Esptool) (stamp : String) :
    ∃ outcome after, Packages before paths tool stamp outcome after := by
  by_cases habsent : before.absent paths = []
  · rcases hcreate : before.createDirectories paths.outputDirectory with ⟨e | _, created⟩
    · exact ⟨_, _, .uncreated habsent hcreate⟩
    rcases hcopy : created.copyFile paths.application (paths.copy stamp) with ⟨e | _, copied⟩
    · exact ⟨_, _, .uncopied habsent hcreate hcopy⟩
    · exact ⟨_, _, .ran habsent hcreate hcopy rfl⟩
  · exact ⟨_, _, .incomplete habsent⟩

theorem package_eq_iff :
    before.package paths tool stamp = (outcome, after) ↔
      Packages before paths tool stamp outcome after :=
  Watched.result_eq_iff (fun _ _ => Packages.package_eq) (exists_packages before paths tool stamp)

theorem Packages.made_iff (h : Packages before paths tool stamp outcome after) {package : Package} :
    outcome = .ok package ↔
      package = { copy := paths.copy stamp, merged := paths.merged stamp } ∧
        before.absent paths = [] ∧
        ∃ created copied exit,
          before.createDirectories paths.outputDirectory = (.ok (), created) ∧
          created.copyFile paths.application (paths.copy stamp) = (.ok (), copied) ∧
          copied.run tool.program (tool.mergeArguments paths (paths.merged stamp)) =
            (.ok exit, after) ∧
          exit.success = true := by
  constructor
  · intro hok
    cases h with
    | incomplete => cases hok
    | uncreated => cases hok
    | uncopied => cases hok
    | @ran ending created copied _ habsent hcreate hcopy hrun =>
      cases ending with
      | error e => cases hok
      | ok exit =>
        rw [Package.ofExit] at hok
        split at hok
        · rename_i hsuccess
          cases hok
          exact ⟨rfl, habsent, created, copied, exit, hcreate, hcopy, hrun, hsuccess⟩
        · cases hok
  · intro hsteps
    obtain ⟨hpackage, habsent, created, copied, exit, hcreate, hcopy, hrun, hsuccess⟩ := hsteps
    have hmade := (Packages.ran habsent hcreate hcopy hrun).package_eq
    rw [h.package_eq] at hmade
    rw [(Prod.mk.inj hmade).1, hpackage, Package.ofExit, if_pos hsuccess]

/-- The application image had been copied when packaging ended. -/
inductive PastCopy : Except PackageError Package → Prop where
  | made (package : Package) : PastCopy (.ok package)
  | notStarted (program : String) (e : IoError) : PastCopy (.error (.start program e))
  | failed (program errorOutput : String) : PastCopy (.error (.failed program errorOutput))

/-- The tool has run after the copy, however it has ended. -/
theorem pastCopy_of_ofExit {package : Package} {program : String} {ending : Except IoError Exit}
    (h : package.ofExit program ending = outcome) : PastCopy outcome := by
  rw [← h]
  cases ending with
  | error e => exact .notStarted program e
  | ok exit =>
    rw [Package.ofExit]
    split
    · exact .made package
    · exact .failed program _

/-- The tool has been run if and only if the application image had been copied. -/
theorem Packages.runs_eq (h : Packages before paths tool stamp outcome after) :
    ¬ PastCopy outcome ∧ after.runs = before.runs ∨
      PastCopy outcome ∧ after.runs = before.runs ++
        [(tool.program, tool.mergeArguments paths (paths.merged stamp))] := by
  cases h with
  | incomplete => exact Or.inl ⟨nofun, rfl⟩
  | uncreated habsent hcreate =>
    rw [Watched.createDirectories_error hcreate]
    exact Or.inl ⟨nofun, rfl⟩
  | uncopied habsent hcreate hcopy =>
    have hcreated := congrArg Watched.runs (Watched.attempt_others hcreate)
    have hcopied := congrArg Watched.runs (Watched.attempt_others hcopy)
    exact Or.inl ⟨nofun, hcopied.trans hcreated⟩
  | ran habsent hcreate hcopy hrun =>
    have hcreated := congrArg Watched.runs (Watched.attempt_others hcreate)
    have hcopied := congrArg Watched.runs (Watched.attempt_others hcopy)
    refine Or.inr ⟨pastCopy_of_ofExit rfl, ?_⟩
    cases hrun
    exact congrArg (· ++ _) (hcopied.trans hcreated)

/-- The call ends with the run of the tool, if it comes to that. -/
theorem Packages.exists_run (h : Packages before paths tool stamp outcome after)
    (hpast : PastCopy outcome) :
    ∃ created copied ending,
      before.createDirectories paths.outputDirectory = (.ok (), created) ∧
      created.copyFile paths.application (paths.copy stamp) = (.ok (), copied) ∧
      copied.run tool.program (tool.mergeArguments paths (paths.merged stamp)) =
        (ending, after) := by
  cases h with
  | incomplete => cases hpast
  | uncreated => cases hpast
  | uncopied => cases hpast
  | ran habsent hcreate hcopy hrun => exact ⟨_, _, _, hcreate, hcopy, hrun⟩

/-- Where programs are installed, a tool that is not started leaves what the copy has left. -/
theorem Packages.tree_of_start {environment : Table String String} {program : String} {e : IoError}
    (h : Packages before paths tool stamp (.error (.start program e)) after)
    (hprograms : before.programs = Installed.programs environment) :
    ∃ created copied,
      before.createDirectories paths.outputDirectory = (.ok (), created) ∧
      created.copyFile paths.application (paths.copy stamp) = (.ok (), copied) ∧
      after.tree = copied.tree := by
  generalize houtcome : (.error (.start program e) : Except PackageError Package) = outcome at h
  cases h with
  | incomplete => cases houtcome
  | uncreated => cases houtcome
  | uncopied => cases houtcome
  | @ran ending created copied _ habsent hcreate hcopy hrun =>
    refine ⟨created, copied, hcreate, hcopy, ?_⟩
    have hcreated : created.programs = before.programs :=
      congrArg (·.programs) (Watched.attempt_others hcreate)
    have hcopied : copied.programs = created.programs :=
      congrArg (·.programs) (Watched.attempt_others hcopy)
    cases ending with
    | ok exit =>
      rw [Package.ofExit] at houtcome
      split at houtcome
      · cases houtcome
      · cases houtcome
    | error cause =>
      have hended := Watched.programs_of_run hrun
      rw [hcopied, hcreated, hprograms] at hended
      exact Installed.programs_error hended

theorem Packages.missing_of_absent (h : Packages before paths tool stamp outcome after)
    (habsent : before.absent paths ≠ []) :
    outcome = .error (.missingInputs (before.absent paths)) ∧ after = before := by
  cases h with
  | incomplete => exact ⟨rfl, rfl⟩
  | uncreated hnone => exact absurd hnone habsent
  | uncopied hnone => exact absurd hnone habsent
  | ran hnone => exact absurd hnone habsent

theorem Packages.absent_of_missing {list : List String}
    (h : Packages before paths tool stamp (.error (.missingInputs list)) after) :
    before.absent paths ≠ [] := by
  generalize houtcome : (.error (.missingInputs list) : Except PackageError Package) = outcome at h
  cases h with
  | incomplete habsent => exact habsent
  | uncreated => cases houtcome
  | uncopied => cases houtcome
  | ran => nomatch pastCopy_of_ofExit houtcome.symm

theorem Packages.eq_of_createDirectory {path : String} {e : IoError}
    (h : Packages before paths tool stamp (.error (.createDirectory path e)) after) :
    after = before := by
  generalize houtcome :
    (.error (.createDirectory path e) : Except PackageError Package) = outcome at h
  cases h with
  | incomplete => rfl
  | uncreated habsent hcreate => exact Watched.createDirectories_error hcreate
  | uncopied => cases houtcome
  | ran => nomatch pastCopy_of_ofExit houtcome.symm

end Packaging

/-! ## Machines without faults -/

theorem mirrors_missing (list : List String) : Watched.Mirrors (missing list) (missing list) := by
  induction list with
  | nil => exact .pure _
  | cons path rest ih =>
    refine (Watched.mirrors_pathExists path).bind fun found => ?_
    exact ih.bind fun others => .pure _

theorem mirrors_makePackage (paths : BuildPaths) (tool : Esptool) (stamp : String) :
    Watched.Mirrors (makePackage paths tool stamp) (makePackage paths tool stamp) := by
  unfold makePackage
  refine (mirrors_missing paths.inputs).bind fun list => ?_
  cases list with
  | cons path more => exact .pure _
  | nil =>
    refine (Watched.mirrors_createDirectories paths.outputDirectory).bind fun created => ?_
    cases created with
    | error e => exact .pure _
    | ok =>
      refine (Watched.mirrors_copyFile paths.application (paths.copy stamp)).bind fun copied => ?_
      cases copied with
      | error e => exact .pure _
      | ok => exact (Watched.mirrors_run _ _).bind fun ending => .pure _

end Piste
