import Piste.Proofs.Firmware.PackageSteps

/-!
# What packaging leaves behind

Packaging writes two files in the directory of packages, and it creates the directory. Unless there
are links in the tree, nothing else changes.

* No image has the name of a file of a package, and no two packages share one
  (`ne_of_mem_imageNames`, `packageName_injective`, `copyName_ne_mergedName`).
* `Touches` is all that packaging may change of the tree: the directory of packages and the two
  files of the package in it. `Confined` carries it through the steps, and `Packages.confined` to
  the end.
* `KnownEnd` says what is known of the machine when packaging has ended, by its outcome, and
  `package_knownEnd` that it is the case. The tool may end as it likes, and it may do what it likes
  to the file that it is told to write.
* `not_forall_confined` is a copy that is written through a link.
-/

namespace Piste

open Firmware Host FileTree Text
open BuildPaths (forProject packageDirectory)

/-! ## Names -/

/-- The names of images. -/
def imageNames : List String :=
  ["firmware.bin", "bootloader.bin", "partition-table.bin"]

/-- The name of a file of a package. -/
def packageName (start stamp : String) : String :=
  start ++ stamp ++ ".bin"

/-- The name of the copy of the application image. -/
def copyName (stamp : String) : String :=
  packageName "firmware_" stamp

/-- The name of the merged image. -/
def mergedName (stamp : String) : String :=
  packageName "merged_firmware_" stamp

section Names

variable {start name stamp stamp' : String}

theorem toList_packageName (start stamp : String) :
    (packageName start stamp).toList = start.toList ++ (stamp.toList ++ ".bin".toList) := by
  rw [packageName, String.toList_append, String.toList_append, List.append_assoc]

/-- Files of one kind have names as different as their stamps. -/
theorem packageName_injective (h : packageName start stamp = packageName start stamp') :
    stamp = stamp' := by
  have hlist := congrArg String.toList h
  rw [toList_packageName, toList_packageName] at hlist
  exact String.toList_inj.1 (List.append_cancel_right (List.append_cancel_left hlist))

theorem packageName_ne (hstart : ¬ start.toList <+: name.toList) :
    name ≠ packageName start stamp := by
  intro h
  refine hstart ?_
  rw [h, toList_packageName]
  exact List.prefix_append _ _

/-- Files of different kinds have different names, whatever their stamps are. -/
theorem copyName_ne_mergedName : copyName stamp ≠ mergedName stamp' := by
  refine packageName_ne ?_
  rw [copyName, toList_packageName]
  intro hprefix
  obtain ⟨rest, hrest⟩ := hprefix
  have hhead := congrArg List.head? hrest
  simp at hhead

/-- A stamp without slashes makes a name. -/
theorem isName_packageName (hstart : '/' ∉ start.toList) (hstamp : '/' ∉ stamp.toList) :
    Path.IsName (packageName start stamp) := by
  have hlength : 4 ≤ (packageName start stamp).toList.length := by
    rw [toList_packageName, List.length_append, List.length_append]
    exact Nat.le_trans (Nat.le_add_left 4 _) (Nat.le_add_left _ _)
  have hne : ∀ short : String, short.toList.length < 4 → packageName start stamp ≠ short := by
    intro short hshort h
    rw [h] at hlength
    omega
  refine ⟨hne "" (by decide), ?_, hne "." (by decide), hne ".." (by decide)⟩
  rw [toList_packageName, List.mem_append, List.mem_append, not_or, not_or]
  exact ⟨hstart, hstamp, by decide⟩

theorem isName_copyName (hstamp : '/' ∉ stamp.toList) : Path.IsName (copyName stamp) :=
  isName_packageName (by decide) hstamp

theorem isName_mergedName (hstamp : '/' ∉ stamp.toList) : Path.IsName (mergedName stamp) :=
  isName_packageName (by decide) hstamp

theorem isName_packageDirectory : Path.IsName packageDirectory :=
  ⟨by decide, by decide, by decide, by decide⟩

theorem isName_of_mem_imageNames (h : name ∈ imageNames) : Path.IsName name := by
  have hall : ∀ name ∈ imageNames, name ≠ "" ∧ '/' ∉ name.toList ∧ name ≠ "." ∧ name ≠ ".." := by
    decide
  obtain ⟨hnonempty, hslash, hhere, habove⟩ := hall name h
  exact ⟨hnonempty, hslash, hhere, habove⟩

/-- No image has the name of a package or of their directory. -/
theorem ne_of_mem_imageNames (h : name ∈ imageNames) (stamp : String) :
    name ≠ packageDirectory ∧ name ≠ copyName stamp ∧ name ≠ mergedName stamp := by
  have hall : ∀ name ∈ imageNames, name ≠ packageDirectory ∧
      ¬ "firmware_".toList <+: name.toList ∧ ¬ "merged_firmware_".toList <+: name.toList := by
    decide
  obtain ⟨hdirectory, hcopy, hmerged⟩ := hall name h
  exact ⟨hdirectory, packageName_ne hcopy, packageName_ne hmerged⟩

end Names

/-! ## Places -/

/-- The file that `merge_bin` is told to write, which is the argument after `-o`. -/
def Firmware.Esptool.output? (arguments : List String) : Option String :=
  (((arguments.dropWhile (· ≠ "merge_bin")).dropWhile (· ≠ "-o")).drop 1).head?

/-- In the run that packaging may come to, the tool changes no file but the one that it is told to
write. -/
def Firmware.Esptool.WritesOnly (tool : Esptool) (before : Watched) (paths : BuildPaths)
    (stamp : String) : Prop :=
  ∀ created copied, before.createDirectories paths.outputDirectory = (.ok (), created) →
    created.copyFile paths.application (paths.copy stamp) = (.ok (), copied) →
    ∀ output, Esptool.output? (tool.mergeArguments paths (paths.merged stamp)) = some output →
      FilesChanged (fun location => copied.tree.locate copied.directory output = .ok location)
        copied.tree
        (copied.run tool.program (tool.mergeArguments paths (paths.merged stamp))).2.tree

/-- The images are merged into the file that is asked for, whatever the chip is called. -/
theorem output?_mergeArguments (tool : Esptool) (paths : BuildPaths) (merged : String) :
    Esptool.output? (tool.mergeArguments paths merged) = some merged := by
  unfold Esptool.output? Esptool.mergeArguments
  by_cases hchip : tool.chip = "merge_bin"
  · simp [hchip]
  · simp [hchip]

/-- The file that the tool is told to write is the merged image. -/
theorem Firmware.Esptool.WritesOnly.filesChanged {tool : Esptool} {paths : BuildPaths}
    {stamp : String} {before created copied after : Watched} {ending : Except IoError Exit}
    (h : tool.WritesOnly before paths stamp)
    (hcreate : before.createDirectories paths.outputDirectory = (.ok (), created))
    (hcopy : created.copyFile paths.application (paths.copy stamp) = (.ok (), copied))
    (hrun : copied.run tool.program (tool.mergeArguments paths (paths.merged stamp)) =
      (ending, after)) :
    FilesChanged
      (fun location => copied.tree.locate copied.directory (paths.merged stamp) = .ok location)
      copied.tree after.tree := by
  have hfiles := h created copied hcreate hcopy _ (output?_mergeArguments tool paths _)
  rwa [hrun] at hfiles

/-- The places of the files of a package, in the directory of packages. -/
def PackageFiles (stamp : String) (out location : Location) : Prop :=
  location = copyName stamp :: out ∨ location = mergedName stamp :: out

/-- All that packaging may change of a tree. -/
structure Touches (stamp : String) (out : Location) (before after : FileTree) : Prop where
  /-- Nothing but a directory has stood in the place of the directory of packages. -/
  wasFree : before.at? out = some .directory ∨ before.at? out = none
  /-- It is there now, and apart from it only the files of the package may have changed. -/
  files : FilesChanged (PackageFiles stamp out) (before.put out .directory) after

section Places

variable {before created after tree : FileTree} {directory home location out : Location}
  {project environment path stamp name : String} {entry : Entry}

/-- The images are in some directory, under their names. -/
theorem exists_join_of_mem_inputs
    (h : path ∈ (forProject project environment).inputs) :
    ∃ base, ∃ name ∈ imageNames, path = Path.join base name := by
  simp only [BuildPaths.inputs, List.mem_cons, List.not_mem_nil, or_false] at h
  rcases h with h | h | h
  · exact ⟨_, "firmware.bin", by decide, h⟩
  · exact ⟨_, "bootloader.bin", by decide, h⟩
  · exact ⟨_, "partition-table.bin", by decide, h⟩

/-- An image is in a place with such a name. -/
theorem exists_name_of_locate_input (hlinks : tree.LinkFree)
    (hpath : path ∈ (forProject project environment).inputs)
    (h : tree.locate directory path = .ok location) :
    ∃ name ∈ imageNames, ∃ parent, location = name :: parent := by
  obtain ⟨base, name, hname, hjoin⟩ := exists_join_of_mem_inputs hpath
  rw [hjoin] at h
  obtain ⟨parent, -, hlocation⟩ := locate_join_eq_ok hlinks (isName_of_mem_imageNames hname) h
  exact ⟨name, hname, parent, hlocation⟩

/-- What has another name is no file of the package. -/
theorem not_packageFiles (hcopy : name ≠ copyName stamp) (hmerged : name ≠ mergedName stamp)
    (out parent : Location) : ¬ PackageFiles stamp out (name :: parent) := by
  simp [PackageFiles, hcopy, hmerged]

/-- A project with a bootloader has a directory. -/
theorem exists_home (hlinks : tree.LinkFree)
    (h : tree.find directory (forProject project environment).bootloader =
      .ok (location, entry)) :
    ∃ home, tree.resolve directory project = .ok home := by
  have himage : Path.IsName "bootloader.bin" := isName_of_mem_imageNames (by decide)
  have hfolder : Path.IsName "bootloader" := ⟨by decide, by decide, by decide, by decide⟩
  obtain ⟨folder, hresolve, -⟩ := locate_join_eq_ok hlinks himage (find_eq_ok_iff.1 h).1
  obtain ⟨home, hhome, -⟩ := (resolve_join_eq_ok_iff hfolder).1 hresolve
  exact ⟨home, hhome⟩

/-- The directory of packages is where it is looked for. -/
theorem resolve_outputDirectory (hhome : tree.resolve directory project = .ok home)
    (hout : tree.at? (packageDirectory :: home) = some .directory) :
    tree.resolve directory (forProject project environment).outputDirectory =
      .ok (packageDirectory :: home) := by
  have henter : enter home packageDirectory = .ok (packageDirectory :: home) :=
    rfl
  exact (resolve_join_eq_ok_iff isName_packageDirectory).2 ⟨home, hhome, henter, hout⟩

/-- A file in a directory is where its name says. -/
theorem location_of_locate_join {base : String} (hlinks : tree.LinkFree)
    (hname : Path.IsName name)
    (hbase : tree.resolve directory base = .ok out)
    (h : tree.locate directory (Path.join base name) = .ok location) : location = name :: out := by
  obtain ⟨parent, hparent, hlocation⟩ := locate_join_eq_ok hlinks hname h
  rw [hbase] at hparent
  cases hparent
  exact hlocation

namespace Touches

theorem of_created
    (hcreated : before.at? out = some .directory ∧ after = before ∨
      before.at? out = none ∧ after = before.put out .directory) :
    Touches stamp out before after := by
  refine ⟨hcreated.imp And.left And.left, ?_⟩
  rcases hcreated with ⟨hthere, hsame⟩ | ⟨-, hput⟩
  · intro location hchanged
    refine absurd ?_ hchanged
    rw [hsame, at?_put]
    split
    · rename_i hroot
      rw [hroot, at?, if_pos rfl]
    · split
      · rename_i hout
        rw [hout, hthere]
      · rfl
  · rw [hput]
    exact .refl _ _

theorem trans_files (h : Touches stamp out before created)
    (hfiles : FilesChanged (PackageFiles stamp out) created after) :
    Touches stamp out before after :=
  ⟨h.wasFree, h.files.trans hfiles⟩

/-- The directory of packages is there. -/
theorem isDirectory (h : Touches stamp out before after) : after.at? out = some .directory := by
  refine h.files.keepsWays.directories out ?_
  rw [at?_put]
  simp

theorem keepsWays (h : Touches stamp out before after) : KeepsWays before after :=
  (keepsWays_put_directory h.wasFree).trans h.files.keepsWays

/-- Images are found where they were, and as they were. -/
theorem find_input (hlinks : before.LinkFree)
    (h : Touches stamp (packageDirectory :: home) before after)
    (hpath : path ∈ (forProject project environment).inputs)
    (hfind : before.find directory path = .ok (location, entry)) :
    after.find directory path = .ok (location, entry) := by
  obtain ⟨name, hname, parent, hlocation⟩ :=
    exists_name_of_locate_input hlinks hpath (find_eq_ok_iff.1 hfind).1
  obtain ⟨hdirectory, hcopy, hmerged⟩ := ne_of_mem_imageNames hname stamp
  have hout : name :: parent ≠ packageDirectory :: home := by
    simp [hdirectory]
  refine find_of_keeps h.keepsWays hfind ?_
  rw [hlocation, h.files.at?_eq (not_packageFiles hcopy hmerged _ _), at?_put_of_ne hout]

end Touches

end Places

/-! ## What is left behind -/

/-- So far nothing has changed but the record of runs and the tree, and that only in the directory
of packages. -/
structure Confined (stamp : String) (home : Location) (before after : Watched) : Prop where
  others : after = { before with tree := after.tree, runs := after.runs }
  touches : Touches stamp (packageDirectory :: home) before.tree after.tree

section Steps

variable {before created copied after : Watched} {project environment stamp : String}
  {tool : Esptool} {home : Location} {ending : Except IoError Unit} {ended : Except IoError Exit}

theorem find_of_absent_eq_nil {paths : BuildPaths} (habsent : before.absent paths = []) :
    ∀ path ∈ paths.inputs,
      ∃ location entry, before.tree.find before.directory path = .ok (location, entry) := by
  intro path hpath
  have hfound := List.filter_eq_nil_iff.1 habsent path hpath
  exact Watched.exists_find_of_pathExists (by simpa using hfound)

namespace Confined

/-- The directory of packages has been created in that of the project, unless it was there. -/
theorem exists_of_created (hlinks : before.tree.LinkFree)
    (habsent : before.absent (forProject project environment) = [])
    (hcreate : before.createDirectories (forProject project environment).outputDirectory =
      (.ok (), created)) :
    ∃ home, before.tree.resolve before.directory project = .ok home ∧
      before.tree.locate before.directory (forProject project environment).outputDirectory =
        .ok (packageDirectory :: home) ∧
      Confined stamp home before created := by
  have hbootloader : (forProject project environment).bootloader ∈
      (forProject project environment).inputs := by simp [BuildPaths.inputs]
  obtain ⟨location, entry, hfind⟩ := find_of_absent_eq_nil habsent _ hbootloader
  obtain ⟨home, hhome⟩ := exists_home hlinks hfind
  obtain ⟨-, tree, htree, hcreated⟩ := Watched.createDirectories_ok_iff.1 hcreate
  obtain ⟨hlocate, hout⟩ := createDirectories_join hlinks isName_packageDirectory hhome htree
  rw [hcreated]
  exact ⟨home, hhome, hlocate, rfl, .of_created hout⟩

theorem directory_eq (h : Confined stamp home before after) :
    after.directory = before.directory := by
  rw [h.others]

variable (hhome : before.tree.resolve before.directory project = .ok home)
include hhome

theorem resolve_outputDirectory (h : Confined stamp home before after) (environment : String) :
    after.tree.resolve after.directory (forProject project environment).outputDirectory =
      .ok (packageDirectory :: home) := by
  rw [h.directory_eq]
  have hhome' := resolve_of_keeps h.touches.keepsWays hhome
  exact Piste.resolve_outputDirectory hhome' h.touches.isDirectory

variable (hlinks : before.tree.LinkFree) (hstamp : '/' ∉ stamp.toList)
include hlinks hstamp

/-- Copying keeps to the copy. -/
theorem copyFile (h : Confined stamp home before created)
    {source : String}
    (hcopy : created.copyFile source ((forProject project environment).copy stamp) =
      (ending, copied)) :
    Confined stamp home before copied := by
  have hcopied := Watched.attempt_others hcopy
  have hfiles := Watched.copyFile_filesChanged hcopy
  have hplace : FilesChanged (PackageFiles stamp (packageDirectory :: home)) created.tree
      copied.tree := by
    refine hfiles.mono fun location hlocation => Or.inl ?_
    have hout := h.resolve_outputDirectory hhome environment
    have hlinks' := h.touches.keepsWays.linkFree hlinks
    exact location_of_locate_join hlinks' (isName_copyName hstamp) hout hlocation
  refine ⟨?_, h.touches.trans_files hplace⟩
  rw [hcopied, h.others]

/-- The tool keeps to the merged image. -/
theorem run (h : Confined stamp home before copied)
    (hfiles : FilesChanged
      (fun location => copied.tree.locate copied.directory
        ((forProject project environment).merged stamp) = .ok location) copied.tree after.tree)
    (hrun : copied.run tool.program (tool.mergeArguments (forProject project environment)
      ((forProject project environment).merged stamp)) = (ended, after)) :
    Confined stamp home before after ∧
      FilesChanged (· = mergedName stamp :: packageDirectory :: home) copied.tree
        after.tree := by
  have hout := h.resolve_outputDirectory hhome environment
  have hlinks' := h.touches.keepsWays.linkFree hlinks
  have hplace := hfiles.mono fun location hlocation =>
    location_of_locate_join hlinks' (isName_mergedName hstamp) hout hlocation
  refine ⟨⟨?_, h.touches.trans_files (hplace.mono fun _ => Or.inr)⟩, hplace⟩
  cases hrun
  rw [h.others]

/-- The copy is what the application image was. -/
theorem read_copy (h : Confined stamp home before created)
    (habsent : before.absent (forProject project environment) = [])
    (hcopy : created.copyFile (forProject project environment).application
      ((forProject project environment).copy stamp) = (.ok (), copied)) :
    ∃ content,
      before.tree.read before.directory (forProject project environment).application =
        .ok content ∧
      copied.tree.read copied.directory ((forProject project environment).copy stamp) =
        .ok content := by
  obtain ⟨-, tree, htree, hcopied⟩ := Watched.attempt_ok_iff.1 hcopy
  obtain ⟨place, content, executable, location, former, hfind, htarget, hput⟩ :=
    copy_eq_ok_iff.1 htree
  have happlication : (forProject project environment).application ∈
      (forProject project environment).inputs := by simp [BuildPaths.inputs]
  obtain ⟨place', entry, hfound⟩ := find_of_absent_eq_nil habsent _ happlication
  have hsame := h.touches.find_input hlinks happlication hfound
  rw [← h.directory_eq, hfind] at hsame
  cases hsame
  -- The source is not the target, which is emptied before it is written.
  have hne : location ≠ place := by
    have himage : Path.IsName "firmware.bin" := isName_of_mem_imageNames (by decide)
    have hlinks' := h.touches.keepsWays.linkFree hlinks
    obtain ⟨parent, -, hplace⟩ := locate_join_eq_ok hlinks' himage (find_eq_ok_iff.1 hfind).1
    have hlocation := location_of_locate_join hlinks' (isName_copyName hstamp)
      (h.resolve_outputDirectory hhome environment) (target_eq_ok_iff.1 htarget).1
    intro hsame
    rw [hlocation, hplace] at hsame
    exact (ne_of_mem_imageNames (by decide) stamp).2.1 (List.cons.inj hsame).1.symm
  rw [if_neg hne] at hput
  refine ⟨content, read_eq_ok_iff.2 ⟨place, executable, hfound⟩, ?_⟩
  rw [hcopied, hput]
  exact read_put_target htarget content executable

/-- The copy is there still when only the merged image has been written. -/
theorem find_copy_of_run (h : Confined stamp home before copied) (environment : String)
    (hafter : Confined stamp home before after)
    (hfiles : FilesChanged (· = mergedName stamp :: packageDirectory :: home) copied.tree
      after.tree) :
    after.tree.find after.directory ((forProject project environment).copy stamp) =
      copied.tree.find copied.directory ((forProject project environment).copy stamp) := by
  have hresolve := h.resolve_outputDirectory hhome environment
  have hresolve' := hafter.resolve_outputDirectory hhome environment
  rw [h.directory_eq] at hresolve ⊢
  rw [hafter.directory_eq] at hresolve' ⊢
  have hcopied := h.touches.keepsWays.linkFree hlinks
  have hended := hafter.touches.keepsWays.linkFree hlinks
  refine find_join_congr hcopied hended (isName_copyName hstamp) hresolve hresolve'
    (hfiles.at?_eq ?_)
  intro hsame
  exact copyName_ne_mergedName (List.cons.inj hsame).1

end Confined

namespace Packages

variable {outcome : Except PackageError Package} (hlinks : before.tree.LinkFree)
  (hstamp : '/' ∉ stamp.toList)
  (htool : tool.WritesOnly before (forProject project environment) stamp)
include hlinks hstamp htool

/-- Packaging keeps to the directory of packages. -/
theorem confined
    (h : Packages before (forProject project environment) tool stamp outcome after) :
    after = before ∨
      before.absent (forProject project environment) = [] ∧
      ∃ home, before.tree.resolve before.directory project = .ok home ∧
        before.tree.locate before.directory (forProject project environment).outputDirectory =
          .ok (packageDirectory :: home) ∧
        Confined stamp home before after := by
  cases h with
  | incomplete => exact Or.inl rfl
  | uncreated habsent hcreate => exact Or.inl (Watched.createDirectories_error hcreate)
  | uncopied habsent hcreate hcopy =>
    obtain ⟨home, hhome, hlocate, hcreated⟩ := Confined.exists_of_created hlinks habsent hcreate
    exact Or.inr ⟨habsent, home, hhome, hlocate, hcreated.copyFile hhome hlinks hstamp hcopy⟩
  | ran habsent hcreate hcopy hrun =>
    obtain ⟨home, hhome, hlocate, hcreated⟩ := Confined.exists_of_created hlinks habsent hcreate
    have hcopied := hcreated.copyFile hhome hlinks hstamp hcopy
    have hfiles := htool.filesChanged hcreate hcopy hrun
    exact Or.inr ⟨habsent, home, hhome, hlocate,
      (hcopied.run hhome hlinks hstamp hfiles hrun).1⟩

/-- Packaging leaves the images as they were. -/
theorem find_input
    (h : Packages before (forProject project environment) tool stamp outcome after) :
    ∀ path ∈ (forProject project environment).inputs,
      after.tree.find after.directory path = before.tree.find before.directory path := by
  intro path hpath
  rcases h.confined hlinks hstamp htool with hsame | ⟨habsent, home, -, -, hconfined⟩
  · rw [hsame]
  · obtain ⟨location, entry, hfind⟩ := find_of_absent_eq_nil habsent path hpath
    rw [hconfined.directory_eq, hfind]
    exact hconfined.touches.find_input hlinks hpath hfind

/-- Once copied, the application image is in the copy. -/
theorem exists_copied
    (h : Packages before (forProject project environment) tool stamp outcome after)
    (hpast : PastCopy outcome) :
    ∃ content,
      before.tree.read before.directory (forProject project environment).application =
        .ok content ∧
      after.tree.read after.directory ((forProject project environment).copy stamp) =
        .ok content := by
  cases h with
  | incomplete => cases hpast
  | uncreated => cases hpast
  | uncopied => cases hpast
  | ran habsent hcreate hcopy hrun =>
    obtain ⟨home, hhome, -, hcreated⟩ := Confined.exists_of_created hlinks habsent hcreate
    have hcopied := hcreated.copyFile hhome hlinks hstamp hcopy
    obtain ⟨hafter, hfiles⟩ := hcopied.run hhome hlinks hstamp
      (htool.filesChanged hcreate hcopy hrun) hrun
    obtain ⟨content, happlication, hcopy⟩ :=
      hcreated.read_copy hhome hlinks hstamp habsent hcopy
    have hfind := hcopied.find_copy_of_run hhome hlinks hstamp environment hafter hfiles
    exact ⟨content, happlication, (read_congr hfind).trans hcopy⟩

end Packages

end Steps

/-- What is known of the machine when packaging has ended. -/
structure KnownEnd (before : Watched) (paths : BuildPaths) (tool : Esptool) (stamp : String)
    (outcome : Except PackageError Package) (after : Watched) : Prop where
  /-- The first step that fails has given the outcome. -/
  packages : Packages before paths tool stamp outcome after
  /-- Nothing is done if images are missing, and they are named. -/
  missing : before.absent paths ≠ [] →
    outcome = .error (.missingInputs (before.absent paths)) ∧ after = before
  /-- Otherwise none is said to be missing. -/
  present : before.absent paths = [] → ∀ list, outcome ≠ .error (.missingInputs list)
  /-- Nothing is done if the directory of packages cannot be created. -/
  uncreated : ∀ path e, outcome = .error (.createDirectory path e) → after = before
  /-- The tool has been run once if the application image had been copied, -/
  run : PastCopy outcome → after.runs =
    before.runs ++ [(tool.program, tool.mergeArguments paths (paths.merged stamp))]
  /-- and not at all if it had not. -/
  notRun : ¬ PastCopy outcome → after.runs = before.runs
  /-- A package is made if and only if all steps succeed. -/
  made_iff : ∀ package, outcome = .ok package ↔
    package = { copy := paths.copy stamp, merged := paths.merged stamp } ∧
      before.absent paths = [] ∧
      ∃ created copied exit,
        before.createDirectories paths.outputDirectory = (.ok (), created) ∧
        created.copyFile paths.application (paths.copy stamp) = (.ok (), copied) ∧
        copied.run tool.program (tool.mergeArguments paths (paths.merged stamp)) =
          (.ok exit, after) ∧
        exit.success = true
  /-- Once copied, the application image is in the copy. -/
  copied : before.tree.LinkFree → PastCopy outcome → ∃ content,
    before.tree.read before.directory paths.application = .ok content ∧
    after.tree.read after.directory (paths.copy stamp) = .ok content
  /-- The images are as they were. -/
  inputs : before.tree.LinkFree → ∀ path ∈ paths.inputs,
    after.tree.find after.directory path = before.tree.find before.directory path
  /-- Nothing has changed, or nothing outside the directory of packages. -/
  confined : before.tree.LinkFree → after = before ∨ ∃ home,
    before.tree.locate before.directory paths.outputDirectory = .ok (packageDirectory :: home) ∧
    Confined stamp home before after

theorem Packages.knownEnd {before after : Watched} {project environment stamp : String}
    {tool : Esptool} {outcome : Except PackageError Package}
    (h : Packages before (forProject project environment) tool stamp outcome after)
    (hstamp : '/' ∉ stamp.toList)
    (htool : tool.WritesOnly before (forProject project environment) stamp) :
    KnownEnd before (forProject project environment) tool stamp outcome after := by
  have hruns := h.runs_eq
  refine ⟨h, h.missing_of_absent, ?_, ?_, ?_, ?_, fun _ => h.made_iff,
    fun hlinks => h.exists_copied hlinks hstamp htool,
    fun hlinks => h.find_input hlinks hstamp htool, ?_⟩
  · intro hnone list hmissing
    rw [hmissing] at h
    exact h.absent_of_missing hnone
  · intro path e hcause
    rw [hcause] at h
    exact h.eq_of_createDirectory
  · intro hpast
    rcases hruns with ⟨hnot, -⟩ | ⟨-, hruns⟩
    · exact absurd hpast hnot
    · exact hruns
  · intro hnot
    rcases hruns with ⟨-, hruns⟩ | ⟨hpast, -⟩
    · exact hruns
    · exact absurd hpast hnot
  · intro hlinks
    rcases h.confined hlinks hstamp htool with hsame | ⟨-, home, -, hlocate, hconfined⟩
    · exact Or.inl hsame
    · exact Or.inr ⟨home, hlocate, hconfined⟩

/-- Whatever the machine is like and however the tool ends, packaging ends in a known state. -/
theorem package_knownEnd (before : Watched) (project environment stamp : String) (tool : Esptool)
    (hstamp : '/' ∉ stamp.toList)
    (htool : tool.WritesOnly before (forProject project environment) stamp) :
    KnownEnd before (forProject project environment) tool stamp
      (before.package (forProject project environment) tool stamp).1
      (before.package (forProject project environment) tool stamp).2 := by
  obtain ⟨outcome, after, h⟩ := exists_packages before (forProject project environment) tool stamp
  rw [h.package_eq]
  exact h.knownEnd hstamp htool

/-- It is enough to look at the one run that packaging may come to. -/
theorem writesOnly_of_filesChanged {tool : Esptool} {before created copied : Watched}
    {paths : BuildPaths} {stamp : String}
    (hcreated : (before.createDirectories paths.outputDirectory).2 = created)
    (hcopied : (created.copyFile paths.application (paths.copy stamp)).2 = copied)
    (hfiles : FilesChanged
      (fun location => copied.tree.locate copied.directory (paths.merged stamp) = .ok location)
      copied.tree
      (copied.run tool.program (tool.mergeArguments paths (paths.merged stamp))).2.tree) :
    tool.WritesOnly before paths stamp := by
  intro created' copied' hcreate hcopy output houtput
  rw [output?_mergeArguments] at houtput
  cases houtput
  have hcreated' : created' = created := by rw [← hcreated, hcreate]
  rw [hcreated'] at hcopy
  have hcopied' : copied' = copied := by rw [← hcopied, hcopy]
  rw [hcopied']
  exact hfiles

/-- A script that writes one letter to the merged image and then ends with a status. -/
def mergeScript (status : String) : String :=
  "#!/bin/sh\nprintf m > \"$5\"\nexit " ++ status ++ "\n"

/-- A project that has been built, with two tools of which one fails. -/
def workshop : Watched where
  tree := ⟨.ofList [
    (["work"], .directory), (["bootloader", "work"], .directory),
    (["partition_table", "work"], .directory), ([".pio", "work"], .directory),
    (["build", ".pio", "work"], .directory), (["esp", "build", ".pio", "work"], .directory),
    (["firmware.bin", "esp", "build", ".pio", "work"], .file [0xe9, 3] false),
    (["bootloader.bin", "bootloader", "work"], .file [0xe9] false),
    (["partition-table.bin", "partition_table", "work"], .file [0xaa] false),
    (["merging.sh"], .file (Utf8.encode (mergeScript "0")) true),
    (["failing.sh"], .file (Utf8.encode (mergeScript "1")) true)]⟩
  directory := []
  home := none
  programs := Installed.programs ∅
  stamp := ""
  output := ""
  faults := .none
  runs := []

/-- The tool that fails. -/
def failing : Esptool := ⟨"./failing.sh", "esp32"⟩

/-- A tool that is not installed. -/
def uninstalled : Esptool := ⟨"esptool.py", "esp32"⟩

theorem linkFree_workshop : workshop.tree.LinkFree :=
  linkFree_of_entries (by decide +kernel)

theorem writesOnly_failing : failing.WritesOnly workshop (forProject "work" "esp") "7" :=
  writesOnly_of_filesChanged rfl rfl (filesChanged_of_keys (by decide +kernel))

theorem writesOnly_uninstalled : uninstalled.WritesOnly workshop (forProject "work" "esp") "7" :=
  writesOnly_of_filesChanged rfl rfl (filesChanged_of_keys (by decide +kernel))

theorem read_copy_workshop {tool : Esptool} {cause : PackageError} {after : Watched}
    (hknown : KnownEnd workshop (forProject "work" "esp") tool "7" (.error cause) after)
    (hpast : PastCopy (.error cause)) :
    after.tree.read after.directory "work/OTAbuilds/firmware_7.bin" = .ok [0xe9, 3] := by
  obtain ⟨content, hread, hcopy⟩ := hknown.copied linkFree_workshop hpast
  have happlication : workshop.tree.read workshop.directory (forProject "work" "esp").application =
      .ok [0xe9, 3] := by decide +kernel
  rw [happlication] at hread
  cases hread
  have hpath : (forProject "work" "esp").copy "7" = "work/OTAbuilds/firmware_7.bin" := by
    decide +kernel
  rw [← hpath]
  exact hcopy

/-- Whether the tool fails or is not installed, the copy of the application image stays. -/
theorem package_workshop :
    '/' ∉ "7".toList ∧
      (∃ after, workshop.package (forProject "work" "esp") failing "7" =
          (.error (.failed "./failing.sh" ""), after) ∧
        after.tree.read after.directory "work/OTAbuilds/firmware_7.bin" = .ok [0xe9, 3]) ∧
      ∃ after, workshop.package (forProject "work" "esp") uninstalled "7" =
          (.error (.start "esptool.py" .noEntry), after) ∧
        after.tree.read after.directory "work/OTAbuilds/firmware_7.bin" = .ok [0xe9, 3] := by
  refine ⟨by decide, ?_, ?_⟩
  · have hknown := package_knownEnd workshop "work" "esp" "7" failing (by decide)
      writesOnly_failing
    have houtcome : (workshop.package (forProject "work" "esp") failing "7").1 =
        .error (.failed "./failing.sh" "") := by decide +kernel
    rw [houtcome] at hknown
    refine ⟨_, ?_, read_copy_workshop hknown (.failed _ _)⟩
    rw [← houtcome]
  · have hknown := package_knownEnd workshop "work" "esp" "7" uninstalled (by decide)
      writesOnly_uninstalled
    have houtcome : (workshop.package (forProject "work" "esp") uninstalled "7").1 =
        .error (.start "esptool.py" .noEntry) := by decide +kernel
    rw [houtcome] at hknown
    refine ⟨_, ?_, read_copy_workshop hknown (.notStarted _ _)⟩
    rw [← houtcome]

/-- The workshop with a link to a file elsewhere in the place of the next copy. -/
def linkedWorkshop : Watched :=
  { workshop with
    tree := ((workshop.tree.put ["OTAbuilds", "work"] .directory).put
      ["firmware_7.bin", "OTAbuilds", "work"] (.link "../../keep.bin")).put
      ["keep.bin"] (.file [1] false) }

/-- The workshop with a bootloader that cannot be looked at. -/
def lockedWorkshop : Watched :=
  { workshop with faults := { Faults.none with look := fun path =>
      if path = "work/bootloader/bootloader.bin" then some .denied else none } }

/-- Links lead out of the directory of packages, and images that are there may be said to be
missing. -/
theorem not_forall_confined :
    (¬ ∀ (before : Watched) (project environment stamp : String) (tool : Esptool),
      '/' ∉ stamp.toList → tool.WritesOnly before (forProject project environment) stamp →
      ∀ out, before.tree.locate before.directory
          (forProject project environment).outputDirectory = .ok out →
        ∀ location, ¬ out <:+ location →
          (before.package (forProject project environment) tool stamp).2.tree.at? location =
            before.tree.at? location) ∧
    ¬ ∀ (before : Watched) (project environment stamp : String) (tool : Esptool),
      '/' ∉ stamp.toList → tool.WritesOnly before (forProject project environment) stamp →
      ∀ list, (before.package (forProject project environment) tool stamp).1 =
          .error (.missingInputs list) →
        ∀ path ∈ list, (before.tree.find before.directory path).toBool = false := by
  constructor
  · intro h
    have htool : failing.WritesOnly linkedWorkshop (forProject "work" "esp") "7" :=
      writesOnly_of_filesChanged rfl rfl (filesChanged_of_keys (by decide +kernel))
    have hout : linkedWorkshop.tree.locate linkedWorkshop.directory
        (forProject "work" "esp").outputDirectory = .ok ["OTAbuilds", "work"] := by
      decide +kernel
    have hkeep := h linkedWorkshop "work" "esp" "7" failing (by decide) htool _ hout ["keep.bin"]
      (by decide)
    revert hkeep
    decide +kernel
  · intro h
    have htool : failing.WritesOnly lockedWorkshop (forProject "work" "esp") "7" :=
      writesOnly_of_filesChanged rfl rfl (filesChanged_of_keys (by decide +kernel))
    have hmissing : (lockedWorkshop.package (forProject "work" "esp") failing "7").1 =
        .error (.missingInputs ["work/bootloader/bootloader.bin"]) := by
      decide +kernel
    have hthere := h lockedWorkshop "work" "esp" "7" failing (by decide) htool _ hmissing _
      (List.mem_singleton_self _)
    revert hthere
    decide +kernel

end Piste
