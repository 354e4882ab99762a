import Piste.Proofs.Firmware.Packaging

/-!
# Packages over time

A project is built and packaged again and again. Between two calls images may be replaced, and each
call may end in any way. No package is lost by that, as long as the stamps differ.

* A `Round` is one call, and a `History` is a row of calls on one set of paths.
* `Stands` says that the files of a package are what they were when it was made. Images that are
  replaced leave them alone (`Stands.replaced`), and so do packages with other stamps
  (`Stands.packaged`).
* `History.stands` is the induction on the history, and `History.packages_kept` says what is found
  at the paths of the packages.
-/

namespace Piste

open Firmware Host FileTree
open BuildPaths (forProject packageDirectory)

/-- A call of packaging, under a stamp that fits into a name and with a tool that then changes no
file but the one that it is told to write. -/
structure Round (paths : BuildPaths) where
  before : Watched
  tool : Esptool
  stamp : String
  noSlash : '/' ∉ stamp.toList
  writesOnly : tool.WritesOnly before paths stamp

namespace Round

variable {paths : BuildPaths}

/-- What has come of it. -/
def outcome (round : Round paths) : Except PackageError Package :=
  (round.before.package paths round.tool round.stamp).1

/-- The machine afterwards. -/
def after (round : Round paths) : Watched :=
  (round.before.package paths round.tool round.stamp).2

theorem packages (round : Round paths) :
    Packages round.before paths round.tool round.stamp round.outcome round.after :=
  package_eq_iff.1 rfl

end Round

/-- Nothing has changed in the tree but the images. -/
structure Replaced (paths : BuildPaths) (before after : Watched) : Prop where
  directory : after.directory = before.directory
  files : FilesChanged
    (fun location => ∃ path ∈ paths.inputs, before.tree.locate before.directory path = .ok location)
    before.tree after.tree

/-- Calls one after the other, from one machine to another. In between images may be replaced, and
programs may come to do other things. -/
inductive History (paths : BuildPaths) (first : Watched) : List (Round paths) → Watched → Prop where
  | start : History paths first [] first
  | call {rounds : List (Round paths)} {last : Watched} (h : History paths first rounds last)
      (round : Round paths) (hreplaced : Replaced paths last round.before) :
    History paths first (rounds ++ [round]) round.after

/-- What a call has left behind, at some later time. -/
structure Round.Kept {paths : BuildPaths} (round : Round paths) (now : Watched) : Prop where
  /-- Once copied, the application image is in the copy as it was at the call. -/
  copy : PastCopy round.outcome → ∃ content,
    round.before.tree.read round.before.directory paths.application = .ok content ∧
    now.tree.read now.directory (paths.copy round.stamp) = .ok content
  /-- The call has ended with the run of the tool, and the merged image is what that has left. -/
  merged : PastCopy round.outcome → ∃ created copied ending,
    round.before.createDirectories paths.outputDirectory = (.ok (), created) ∧
    created.copyFile paths.application (paths.copy round.stamp) = (.ok (), copied) ∧
    copied.run round.tool.program
      (round.tool.mergeArguments paths (paths.merged round.stamp)) = (ending, round.after) ∧
    now.tree.find now.directory (paths.merged round.stamp) =
      round.after.tree.find round.after.directory (paths.merged round.stamp)
  /-- The call has not touched the images. -/
  inputs : ∀ path ∈ paths.inputs,
    round.after.tree.find round.after.directory path =
      round.before.tree.find round.before.directory path

/-- The files of a package are what they were, in a directory of packages that is still there. -/
structure Stands (paths : BuildPaths) (stamp : String) (out : Location) (after now : Watched) :
    Prop where
  linkFree : after.tree.LinkFree
  linkFree_now : now.tree.LinkFree
  directory : now.directory = after.directory
  resolve : after.tree.resolve after.directory paths.outputDirectory = .ok out
  resolve_now : now.tree.resolve now.directory paths.outputDirectory = .ok out
  files : ∀ location, PackageFiles stamp out location →
    now.tree.at? location = after.tree.at? location

section Steps

variable {project environment stamp stamp' : String} {after now later : Watched}
  {out location : Location}

/-- The directory of packages has the name of none of their files. -/
theorem packageDirectory_ne (stamp : String) :
    packageDirectory ≠ copyName stamp ∧ packageDirectory ≠ mergedName stamp :=
  ⟨packageName_ne (by decide), packageName_ne (by decide)⟩

/-- Packages with different stamps share no file. -/
theorem not_packageFiles_of_ne (hne : stamp ≠ stamp') (h : PackageFiles stamp out location)
    (parent : Location) : ¬ PackageFiles stamp' parent location := by
  rcases h with h | h
  · rw [h]
    have hcopy : copyName stamp ≠ copyName stamp' := fun heq => hne (packageName_injective heq)
    exact not_packageFiles hcopy copyName_ne_mergedName parent out
  · rw [h]
    have hmerged : mergedName stamp ≠ mergedName stamp' :=
      fun heq => hne (packageName_injective heq)
    exact not_packageFiles copyName_ne_mergedName.symm hmerged parent out

namespace Stands

/-- At the path of such a file the same is found as before. -/
theorem find_eq {paths : BuildPaths} {name : String} (h : Stands paths stamp out after now)
    (hname : Path.IsName name) (hfile : PackageFiles stamp out (name :: out)) :
    now.tree.find now.directory (Path.join paths.outputDirectory name) =
      after.tree.find after.directory (Path.join paths.outputDirectory name) := by
  have hnow := h.resolve_now
  rw [h.directory] at hnow ⊢
  exact find_join_congr h.linkFree h.linkFree_now hname h.resolve hnow (h.files _ hfile)

/-- Images that are replaced are in other places. -/
theorem replaced (h : Stands (forProject project environment) stamp out after now)
    (hreplaced : Replaced (forProject project environment) now later) :
    Stands (forProject project environment) stamp out after later := by
  have hkeeps := hreplaced.files.keepsWays
  refine ⟨h.linkFree, hkeeps.linkFree h.linkFree_now, hreplaced.directory.trans h.directory,
    h.resolve, ?_, ?_⟩
  · rw [hreplaced.directory]
    exact resolve_of_keeps hkeeps h.resolve_now
  · intro location hfile
    rw [← h.files location hfile]
    refine hreplaced.files.at?_eq fun himage => ?_
    obtain ⟨path, hpath, hlocate⟩ := himage
    obtain ⟨name, hname, parent, hlocation⟩ :=
      exists_name_of_locate_input h.linkFree_now hpath hlocate
    obtain ⟨-, hcopy, hmerged⟩ := ne_of_mem_imageNames hname stamp
    rw [hlocation] at hfile
    exact not_packageFiles hcopy hmerged out parent hfile

/-- A package with another stamp is in other places. -/
theorem packaged {round : Round (forProject project environment)}
    (h : Stands (forProject project environment) stamp out after round.before)
    (hne : stamp ≠ round.stamp) :
    Stands (forProject project environment) stamp out after round.after := by
  rcases round.packages.confined h.linkFree_now round.noSlash round.writesOnly with
    hsame | ⟨-, home, -, -, hconfined⟩
  · rw [hsame]
    exact h
  have hkeeps := hconfined.touches.keepsWays
  refine ⟨h.linkFree, hkeeps.linkFree h.linkFree_now, hconfined.directory_eq.trans h.directory,
    h.resolve, ?_, ?_⟩
  · rw [hconfined.directory_eq]
    exact resolve_of_keeps hkeeps h.resolve_now
  · intro location hfile
    have hplace : ¬ PackageFiles round.stamp (packageDirectory :: home) location :=
      not_packageFiles_of_ne hne hfile _
    have hdirectory : location ≠ packageDirectory :: home := by
      intro hsame
      rw [hsame] at hfile
      obtain ⟨hcopy, hmerged⟩ := packageDirectory_ne stamp
      exact not_packageFiles hcopy hmerged out home hfile
    rw [hconfined.touches.files.at?_eq hplace, at?_put_of_ne hdirectory, h.files location hfile]

end Stands

namespace Round

variable {round : Round (forProject project environment)}

variable (hlinks : round.before.tree.LinkFree)
include hlinks

/-- Packaging makes no links. -/
theorem linkFree_after : round.after.tree.LinkFree := by
  rcases round.packages.confined hlinks round.noSlash round.writesOnly with
    hsame | ⟨-, home, -, -, hconfined⟩
  · rw [hsame]
    exact hlinks
  · exact hconfined.touches.keepsWays.linkFree hlinks

/-- A package that has just been made stands. -/
theorem exists_stands (hpast : PastCopy round.outcome) :
    ∃ out, Stands (forProject project environment) round.stamp out round.after round.after := by
  have hafter := linkFree_after hlinks
  obtain ⟨content, -, hcopy⟩ :=
    round.packages.exists_copied hlinks round.noSlash round.writesOnly hpast
  obtain ⟨location, executable, hfind⟩ := read_eq_ok_iff.1 hcopy
  have hlocate := (find_eq_ok_iff.1 hfind).1
  obtain ⟨out, hout, -⟩ := locate_join_eq_ok hafter (isName_copyName round.noSlash) hlocate
  exact ⟨out, hafter, hafter, rfl, hout, hout, fun _ _ => rfl⟩

/-- What stands is found. -/
theorem kept_of_stands
    (hstands : PastCopy round.outcome →
      ∃ out, Stands (forProject project environment) round.stamp out round.after now) :
    round.Kept now := by
  refine ⟨?_, ?_, round.packages.find_input hlinks round.noSlash round.writesOnly⟩
  · intro hpast
    obtain ⟨out, hout⟩ := hstands hpast
    obtain ⟨content, hread, hcopy⟩ :=
      round.packages.exists_copied hlinks round.noSlash round.writesOnly hpast
    have hfind := hout.find_eq (isName_copyName round.noSlash) (Or.inl rfl)
    exact ⟨content, hread, (read_congr hfind).trans hcopy⟩
  · intro hpast
    obtain ⟨out, hout⟩ := hstands hpast
    obtain ⟨created, copied, ending, hcreate, hcopy, hrun⟩ := round.packages.exists_run hpast
    have hfind := hout.find_eq (isName_mergedName round.noSlash) (Or.inr rfl)
    exact ⟨created, copied, ending, hcreate, hcopy, hrun, hfind⟩

end Round

end Steps

namespace History

section Prefixes

variable {paths : BuildPaths} {first last : Watched} {earlier later : List (Round paths)}

/-- A history comes to an end after each of its calls. -/
theorem exists_middle (h : History paths first (earlier ++ later) last) :
    ∃ middle, History paths first earlier middle ∧ History paths middle later last := by
  generalize hrounds : earlier ++ later = rounds at h
  induction h generalizing later with
  | start =>
    obtain ⟨hearlier, hlater⟩ := List.append_eq_nil_iff.1 hrounds
    rw [hearlier, hlater]
    exact ⟨first, .start, .start⟩
  | @call rounds last h round hreplaced ih =>
    rcases List.eq_nil_or_concat later with hlater | ⟨rest, final, hlater⟩
    · rw [hlater, List.append_nil] at hrounds
      rw [hlater, hrounds]
      exact ⟨_, h.call round hreplaced, .start⟩
    · rw [hlater, List.concat_eq_append, ← List.append_assoc] at hrounds
      obtain ⟨hrest, hfinal⟩ := List.append_inj' hrounds rfl
      cases hfinal
      obtain ⟨middle, hearlier, hmiddle⟩ := ih hrest
      rw [hlater, List.concat_eq_append]
      exact ⟨middle, hearlier, hmiddle.call round hreplaced⟩

end Prefixes

section Packages

variable {project environment : String} {first last : Watched}
  {rounds earlier later : List (Round (forProject project environment))}

/-- No links come up. -/
theorem linkFree (h : History (forProject project environment) first rounds last)
    (hlinks : first.tree.LinkFree) :
    last.tree.LinkFree ∧ ∀ round ∈ rounds, round.before.tree.LinkFree := by
  induction h with
  | start => exact ⟨hlinks, nofun⟩
  | @call rounds last h next hreplaced ih =>
    obtain ⟨hlast, hrounds⟩ := ih
    have hbefore := hreplaced.files.keepsWays.linkFree hlast
    refine ⟨Round.linkFree_after hbefore, ?_⟩
    intro round hround
    rcases List.mem_append.1 hround with hround | hround
    · exact hrounds round hround
    · rw [List.mem_singleton.1 hround]
      exact hbefore

/-- All packages that have been made stand. -/
theorem stands (h : History (forProject project environment) first rounds last)
    (hlinks : first.tree.LinkFree) (hdistinct : (rounds.map Round.stamp).Nodup) :
    ∀ round ∈ rounds, PastCopy round.outcome →
      ∃ out, Stands (forProject project environment) round.stamp out round.after last := by
  induction h with
  | start =>
    intro round hround
    cases hround
  | @call rounds last h next hreplaced ih =>
    rw [List.map_append, List.map_singleton, List.nodup_append] at hdistinct
    obtain ⟨hrounds, -, hnext⟩ := hdistinct
    intro round hround hpast
    rcases List.mem_append.1 hround with hround | hround
    · obtain ⟨out, hout⟩ := ih hrounds round hround hpast
      have hne : round.stamp ≠ next.stamp :=
        hnext _ (List.mem_map_of_mem hround) _ (List.mem_singleton_self _)
      exact ⟨out, (hout.replaced hreplaced).packaged hne⟩
    · rw [List.mem_singleton.1 hround] at hpast ⊢
      have hbefore := hreplaced.files.keepsWays.linkFree (h.linkFree hlinks).1
      exact Round.exists_stands hbefore hpast

/-- Packages with different stamps are kept: at every time of a history each call so far has left
the images as they were, and its package is what it was. -/
theorem packages_kept (h : History (forProject project environment) first (earlier ++ later) last)
    (hlinks : first.tree.LinkFree) (hdistinct : ((earlier ++ later).map Round.stamp).Nodup) :
    ∃ middle, History (forProject project environment) first earlier middle ∧
      History (forProject project environment) middle later last ∧
      ∀ round ∈ earlier, round.Kept middle := by
  obtain ⟨middle, hearlier, hlater⟩ := h.exists_middle
  rw [List.map_append] at hdistinct
  have hstands := hearlier.stands hlinks (List.nodup_append.1 hdistinct).1
  have hbefore := (hearlier.linkFree hlinks).2
  refine ⟨middle, hearlier, hlater, ?_⟩
  intro round hround
  exact Round.kept_of_stands (hbefore round hround) (hstands round hround)

end Packages

end History

/-- The first call in the workshop, in which the tool fails. -/
def firstRound : Round (forProject "work" "esp") where
  before := workshop
  tool := failing
  stamp := "7"
  noSlash := by decide
  writesOnly := writesOnly_failing

/-- The workshop with another application image. -/
def rebuilt : Watched :=
  { firstRound.after with
    tree := firstRound.after.tree.put ["firmware.bin", "esp", "build", ".pio", "work"]
      (.file [0xe9, 4] false) }

/-- The second call, with a tool that works. -/
def secondRound : Round (forProject "work" "esp") where
  before := rebuilt
  tool := ⟨"./merging.sh", "esp32"⟩
  stamp := "8"
  noSlash := by decide
  writesOnly := writesOnly_of_filesChanged rfl rfl (filesChanged_of_keys (by decide +kernel))

theorem history_workshop :
    History (forProject "work" "esp") workshop [firstRound, secondRound] secondRound.after := by
  have hfirst : History (forProject "work" "esp") workshop [firstRound] firstRound.after :=
    History.start.call firstRound ⟨rfl, .refl _ _⟩
  have hdirectory : rebuilt.directory = firstRound.after.directory := by decide +kernel
  have happlication : firstRound.after.tree.at? ["firmware.bin", "esp", "build", ".pio", "work"] =
      some (.file [0xe9, 3] false) := by
    decide +kernel
  have hfile : ¬ LeadsOn
      (firstRound.after.tree.at? ["firmware.bin", "esp", "build", ".pio", "work"]) := by
    rw [happlication]
    exact not_leadsOn_file
  have hlocate : firstRound.after.tree.locate firstRound.after.directory
      (forProject "work" "esp").application =
        .ok ["firmware.bin", "esp", "build", ".pio", "work"] := by
    decide +kernel
  have hfiles : FilesChanged
      (fun location => ∃ path ∈ (forProject "work" "esp").inputs,
        firstRound.after.tree.locate firstRound.after.directory path = .ok location)
      firstRound.after.tree rebuilt.tree := by
    unfold rebuilt
    refine (filesChanged_put hfile).mono fun location hlocation => ?_
    rw [hlocation]
    exact ⟨_, List.mem_cons_self, hlocate⟩
  exact hfirst.call secondRound ⟨hdirectory, hfiles⟩

/-- The first package is kept when the second one is made of another image. -/
theorem packages_kept_workshop :
    workshop.tree.LinkFree ∧ ([firstRound, secondRound].map Round.stamp).Nodup ∧
      ∃ last, History (forProject "work" "esp") workshop [firstRound, secondRound] last ∧
        last.tree.read last.directory "work/OTAbuilds/firmware_7.bin" = .ok [0xe9, 3] := by
  have hdistinct : ([firstRound, secondRound].map Round.stamp).Nodup := by decide
  have happlication : firstRound.before.tree.read firstRound.before.directory
      (forProject "work" "esp").application = .ok [0xe9, 3] := by
    decide +kernel
  have houtcome : firstRound.outcome = .error (.failed "./failing.sh" "") := by decide +kernel
  have hpast : PastCopy firstRound.outcome := by
    rw [houtcome]
    exact .failed _ _
  have hhistory : History (forProject "work" "esp") workshop ([firstRound, secondRound] ++ [])
    secondRound.after := history_workshop
  obtain ⟨last, hlast, -, hkept⟩ := hhistory.packages_kept linkFree_workshop hdistinct
  obtain ⟨content, hread, hcopy⟩ := (hkept firstRound List.mem_cons_self).copy hpast
  rw [happlication] at hread
  cases hread
  have hpath : (forProject "work" "esp").copy firstRound.stamp =
      "work/OTAbuilds/firmware_7.bin" := by
    decide +kernel
  rw [hpath] at hcopy
  exact ⟨linkFree_workshop, hdistinct, last, hlast, hcopy⟩

end Piste
