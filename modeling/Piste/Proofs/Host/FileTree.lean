import Piste.Host.FileTree
import Piste.Proofs.Table
import Piste.Proofs.Host.Path
import Piste.Proofs.Outcome

/-!
# What changes in a file tree

The operations on a file tree change what stands at one place, or create directories. `FilesChanged`
says at which places files may have changed, and `KeepsWays` that no directory has gone and that the
links are the same.

* Paths lead to the same places as long as the ways are kept (`locate_of_keeps`, `find_of_keeps`).
* In a tree without links a path that ends in a name leads to this name in the directory that the
  path before it leads to (`locate_join`).
* `write_eq_ok_iff`, `copy_eq_ok_iff` and `createDirectories_join` are the operations.
-/

namespace Piste.Host.FileTree

open Outcome Piste.Host.Path

variable {tree after : FileTree} {directory location parent : Location} {path base name : String}
  {content : List UInt8} {executable : Bool} {entry : Entry}

/-! ## Places -/

theorem at?_put (other : Location) :
    (tree.put location entry).at? other =
      if other = [] then some .directory
      else if other = location then some entry
      else tree.at? other := by
  by_cases hroot : other = []
  · simp [at?, hroot]
  · simp [at?, put, hroot, Table.get?_insert]

theorem at?_put_self (hroot : location ≠ []) :
    (tree.put location entry).at? location = some entry := by
  rw [at?_put, if_neg hroot, if_pos rfl]

theorem at?_put_of_ne {other : Location} (hne : other ≠ location) :
    (tree.put location entry).at? other = tree.at? other := by
  rw [at?_put, if_neg hne]
  split
  · rename_i hroot
    rw [hroot, at?, if_pos rfl]
  · rfl

/-! ## Changes -/

/-- Paths may lead on from a directory or a link. -/
def LeadsOn (entry : Option Entry) : Prop :=
  entry = some .directory ∨ ∃ path, entry = some (.link path)

instance (entry : Option Entry) : Decidable (LeadsOn entry) :=
  match entry with
  | none => .isFalse (by simp [LeadsOn])
  | some (.file _ _) => .isFalse (by simp [LeadsOn])
  | some .directory => .isTrue (Or.inl rfl)
  | some (.link path) => .isTrue (Or.inr ⟨path, rfl⟩)

/-- Every directory is one still, and the links are the same. -/
structure KeepsWays (before after : FileTree) : Prop where
  directories : ∀ location,
    before.at? location = some .directory → after.at? location = some .directory
  links : ∀ location path,
    after.at? location = some (.link path) ↔ before.at? location = some (.link path)

/-- Files have been written or removed at some of the given places, and nothing else has changed. -/
def FilesChanged (places : Location → Prop) (before after : FileTree) : Prop :=
  ∀ location, after.at? location ≠ before.at? location →
    places location ∧ ¬ LeadsOn (before.at? location) ∧ ¬ LeadsOn (after.at? location)

/-- There are files and directories only. -/
def LinkFree (tree : FileTree) : Prop :=
  ∀ location path, tree.at? location ≠ some (.link path)

section Changes

variable {before middle : FileTree} {places : Location → Prop}

theorem not_leadsOn_none : ¬ LeadsOn none := by
  simp [LeadsOn]

theorem not_leadsOn_file : ¬ LeadsOn (some (.file content executable)) := by
  simp [LeadsOn]

theorem linkFree_of_entries (h : ∀ entry ∈ tree.entries.entries, entry.2.isLink = false) :
    tree.LinkFree := by
  intro location path hlink
  rw [at?] at hlink
  split at hlink
  · cases hlink
  · cases h _ (Table.get?_eq_some_iff.1 hlink)

theorem KeepsWays.trans (h : KeepsWays before middle) (h' : KeepsWays middle after) :
    KeepsWays before after where
  directories location hlocation := h'.directories location (h.directories location hlocation)
  links location path := (h'.links location path).trans (h.links location path)

theorem KeepsWays.linkFree (h : KeepsWays before after) (hlinks : before.LinkFree) :
    after.LinkFree :=
  fun location path hlink => hlinks location path ((h.links location path).1 hlink)

theorem FilesChanged.refl (places : Location → Prop) (tree : FileTree) :
    FilesChanged places tree tree :=
  fun _ h => absurd rfl h

/-- Elsewhere all is as before. -/
theorem FilesChanged.at?_eq (h : FilesChanged places before after) (hlocation : ¬ places location) :
    after.at? location = before.at? location := by
  by_contra hne
  exact hlocation (h location hne).1

theorem FilesChanged.keepsWays (h : FilesChanged places before after) :
    KeepsWays before after := by
  constructor
  · intro location hdirectory
    by_contra hne
    rw [← hdirectory] at hne
    exact (h location hne).2.1 (Or.inl hdirectory)
  · intro location path
    by_cases hsame : after.at? location = before.at? location
    · rw [hsame]
    · obtain ⟨-, hbefore, hafter⟩ := h location hsame
      exact iff_of_false (fun hlink => hafter (Or.inr ⟨path, hlink⟩))
        (fun hlink => hbefore (Or.inr ⟨path, hlink⟩))

theorem FilesChanged.mono {places' : Location → Prop} (h : FilesChanged places before after)
    (hplaces : ∀ location, places location → places' location) :
    FilesChanged places' before after := by
  intro location hchanged
  obtain ⟨hplace, hfiles⟩ := h location hchanged
  exact ⟨hplaces location hplace, hfiles⟩

theorem FilesChanged.trans (h : FilesChanged places before middle)
    (h' : FilesChanged places middle after) : FilesChanged places before after := by
  intro location hchanged
  by_cases hfirst : middle.at? location = before.at? location
  · rw [← hfirst] at hchanged ⊢
    exact h' location hchanged
  · obtain ⟨hplace, hbefore, hmiddle⟩ := h location hfirst
    refine ⟨hplace, hbefore, ?_⟩
    by_cases hsecond : after.at? location = middle.at? location
    · rwa [hsecond]
    · exact (h' location hsecond).2.2

theorem filesChanged_put (hfile : ¬ LeadsOn (tree.at? location)) :
    FilesChanged (· = location) tree (tree.put location (.file content executable)) := by
  intro other hother
  have hplace : other = location := by
    by_contra hne
    exact hother (at?_put_of_ne hne)
  have hroot : location ≠ [] := by
    intro hroot
    exact hfile (Or.inl (by rw [hroot, at?, if_pos rfl]))
  refine ⟨hplace, ?_, ?_⟩
  · rwa [hplace]
  · rw [hplace, at?_put_self hroot]
    exact not_leadsOn_file

/-- Where neither tree has an entry nothing has changed. -/
theorem filesChanged_of_keys
    (h : ∀ location ∈ before.entries.keys ++ after.entries.keys,
      after.at? location ≠ before.at? location →
        places location ∧ ¬ LeadsOn (before.at? location) ∧ ¬ LeadsOn (after.at? location)) :
    FilesChanged places before after := by
  intro location hchanged
  refine h location ?_ hchanged
  by_contra hkey
  rw [List.mem_append, not_or, ← Table.get?_eq_none_iff, ← Table.get?_eq_none_iff] at hkey
  exact hchanged (by rw [at?, at?, hkey.1, hkey.2])

theorem keepsWays_put_directory
    (hfree : tree.at? location = some .directory ∨ tree.at? location = none) :
    KeepsWays tree (tree.put location .directory) := by
  constructor
  · intro other hother
    rw [at?_put]
    split
    · rfl
    · split
      · rfl
      · exact hother
  · intro other path
    by_cases hplace : other = location
    · rw [hplace, at?_put]
      rcases hfree with hthere | hnone
      · simp [hthere]
      · simp [hnone]
    · rw [at?_put_of_ne hplace]

end Changes

/-! ## Following paths -/

section Ways

variable {again again' : Location → List String → Except IoError Location} {names : List String}
  {links : Nat}

theorem follow_cons_eq_ok_iff :
    tree.follow again directory (name :: names) = .ok location ↔
      ∃ next, enter directory name = .ok next ∧
        (names = [] ∧ next = location ∧ (∀ path, tree.at? next ≠ some (.link path)) ∨
          tree.at? next = some .directory ∧ tree.follow again next names = .ok location ∨
          ∃ path, tree.at? next = some (.link path) ∧
            again (origin next.tail path) (linkNames path ++ names) = .ok location) := by
  rw [follow, bind_eq_ok_iff]
  refine exists_congr fun next => and_congr_right fun _ => ?_
  cases hnext : tree.at? next with
  | none => cases names <;> simp
  | some entry =>
    cases entry with
    | file content executable => cases names <;> simp
    | link path => simp
    | directory =>
      constructor
      · intro h
        exact Or.inr (Or.inl ⟨rfl, h⟩)
      · intro h
        rcases h with ⟨hlast, hlocation, -⟩ | ⟨-, h⟩ | ⟨path, hlink, -⟩
        · rw [hlast, ← hlocation]
          rfl
        · exact h
        · cases hlink

/-- Names lead to the same place as long as the ways are kept. -/
theorem follow_of_keeps (hkeeps : KeepsWays tree after)
    (hagain : ∀ start names, again start names = .ok location → again' start names = .ok location)
    (h : tree.follow again directory names = .ok location) :
    after.follow again' directory names = .ok location := by
  induction names generalizing directory with
  | nil => exact h
  | cons name names ih =>
    obtain ⟨next, henter, hnext⟩ := follow_cons_eq_ok_iff.1 h
    refine follow_cons_eq_ok_iff.2 ⟨next, henter, ?_⟩
    rcases hnext with ⟨hlast, hlocation, hend⟩ | ⟨hdirectory, hrest⟩ | ⟨path, hlink, hrest⟩
    · exact Or.inl ⟨hlast, hlocation, fun path h => hend path ((hkeeps.links next path).1 h)⟩
    · exact Or.inr (Or.inl ⟨hkeeps.directories next hdirectory, ih hrest⟩)
    · exact Or.inr (Or.inr ⟨path, (hkeeps.links next path).2 hlink, hagain _ _ hrest⟩)

theorem walk_of_keeps (hkeeps : KeepsWays tree after)
    (h : tree.walk links directory names = .ok location) :
    after.walk links directory names = .ok location := by
  induction links generalizing directory names with
  | zero =>
    refine follow_of_keeps hkeeps ?_ h
    exact fun _ _ hlost => hlost
  | succ links ih => exact follow_of_keeps hkeeps (fun _ _ => ih) h

/-- A path leads to the same place as long as the ways are kept. -/
theorem locate_of_keeps (hkeeps : KeepsWays tree after)
    (h : tree.locate directory path = .ok location) :
    after.locate directory path = .ok location := by
  obtain ⟨_, hcheck, hwalk⟩ := bind_eq_ok_iff.1 h
  exact bind_eq_ok_iff.2 ⟨(), hcheck, walk_of_keeps hkeeps hwalk⟩

end Ways

/-! ## Trees without links -/

/-- The directory that names lead to in a tree without links. -/
def descend (tree : FileTree) (directory : Location) : List String → Except IoError Location
  | [] => .ok directory
  | name :: rest => do
    let location ← enter directory name
    match tree.at? location with
    | none => .error .noEntry
    | some .directory => tree.descend location rest
    | some _ => .error .notDirectory

/-- The directory that the names of a path lead to in a tree without links. -/
def resolve (tree : FileTree) (directory : Location) (path : String) : Except IoError Location :=
  tree.descend (origin directory path) (components path)

section Descent

variable {names more : List String}

theorem descend_cons_eq_ok_iff :
    tree.descend directory (name :: names) = .ok location ↔
      ∃ next, enter directory name = .ok next ∧ tree.at? next = some .directory ∧
        tree.descend next names = .ok location := by
  rw [descend, bind_eq_ok_iff]
  refine exists_congr fun next => and_congr_right fun _ => ?_
  cases hnext : tree.at? next with
  | none => simp
  | some entry => cases entry <;> simp

theorem descend_append_eq_ok_iff :
    tree.descend directory (names ++ more) = .ok location ↔
      ∃ middle, tree.descend directory names = .ok middle ∧
        tree.descend middle more = .ok location := by
  induction names generalizing directory with
  | nil => simp [descend]
  | cons name names ih =>
    simp only [List.cons_append, descend_cons_eq_ok_iff, ih]
    constructor
    · intro h
      obtain ⟨next, henter, hnext, middle, hnames, hmore⟩ := h
      exact ⟨middle, ⟨next, henter, hnext, hnames⟩, hmore⟩
    · intro h
      obtain ⟨middle, ⟨next, henter, hnext, hnames⟩, hmore⟩ := h
      exact ⟨next, henter, hnext, middle, hnames, hmore⟩

/-- Names lead to the same directory as long as no directory goes. -/
theorem descend_of_keeps (hkeeps : KeepsWays tree after)
    (h : tree.descend directory names = .ok location) :
    after.descend directory names = .ok location := by
  induction names generalizing directory with
  | nil => exact h
  | cons name names ih =>
    obtain ⟨next, henter, hnext, hnames⟩ := descend_cons_eq_ok_iff.1 h
    exact descend_cons_eq_ok_iff.2 ⟨next, henter, hkeeps.directories next hnext, ih hnames⟩

theorem resolve_of_keeps (hkeeps : KeepsWays tree after)
    (h : tree.resolve directory base = .ok parent) : after.resolve directory base = .ok parent :=
  descend_of_keeps hkeeps h

/-- Without links nothing is followed again, and the last name is entered whatever stands there. -/
theorem follow_concat (hlinks : tree.LinkFree)
    (again : Location → List String → Except IoError Location) :
    tree.follow again directory (names ++ [name]) =
      tree.descend directory names >>= fun above => enter above name := by
  induction names generalizing directory with
  | nil =>
    show (enter directory name >>= _) = enter directory name
    cases enter directory name with
    | error e => rfl
    | ok next =>
      simp only [bind, Except.bind]
      cases hnext : tree.at? next with
      | none => rfl
      | some entry =>
        cases entry with
        | file content executable => rfl
        | directory => rfl
        | link path => exact absurd hnext (hlinks next path)
  | cons first names ih =>
    rw [List.cons_append, follow, descend, bind_assoc]
    refine bind_congr fun next => ?_
    cases hnext : tree.at? next with
    | none => simp [bind, Except.bind]
    | some entry =>
      cases entry with
      | file content executable => simp [bind, Except.bind]
      | directory => exact ih
      | link path => exact absurd hnext (hlinks next path)

theorem walk_concat (hlinks : tree.LinkFree) (links : Nat) :
    tree.walk links directory (names ++ [name]) =
      tree.descend directory names >>= fun above => enter above name := by
  cases links with
  | zero => exact follow_concat hlinks _
  | succ links => exact follow_concat hlinks _

/-- A name leads to its place in the directory before it, if it is short enough. -/
theorem enter_name (hname : IsName name) :
    enter parent name =
      if maxNameSize < name.utf8ByteSize then .error .tooLong else .ok (name :: parent) := by
  rw [enter, if_neg hname.notHere, if_neg hname.notAbove]

theorem origin_join (hname : IsName name) :
    origin directory (join base name) = origin directory base := by
  rw [origin, isAbsolute_join hname, origin]

theorem locate_join (hlinks : tree.LinkFree) (hname : IsName name) :
    tree.locate directory (join base name) =
      checkPath (join base name) >>= fun _ =>
        tree.resolve directory base >>= fun parent => enter parent name := by
  rw [locate, components_join hname, walk_concat hlinks, origin_join hname]
  rfl

/-- A name leads to a directory in the directory before it. -/
theorem resolve_join_eq_ok_iff (hname : IsName name) :
    tree.resolve directory (join base name) = .ok location ↔
      ∃ parent, tree.resolve directory base = .ok parent ∧ enter parent name = .ok location ∧
        tree.at? location = some .directory := by
  rw [resolve, origin_join hname, components_join hname, descend_append_eq_ok_iff]
  refine exists_congr fun parent => and_congr_right fun _ => ?_
  rw [descend_cons_eq_ok_iff]
  constructor
  · intro h
    obtain ⟨next, henter, hnext, hend⟩ := h
    cases hend
    exact ⟨henter, hnext⟩
  · intro h
    exact ⟨location, h.1, h.2, rfl⟩

/-- Where a path that ends in a name leads. -/
theorem locate_join_eq_ok (hlinks : tree.LinkFree) (hname : IsName name)
    (h : tree.locate directory (join base name) = .ok location) :
    ∃ parent, tree.resolve directory base = .ok parent ∧ location = name :: parent := by
  rw [locate_join hlinks hname] at h
  obtain ⟨_, -, h⟩ := bind_eq_ok_iff.1 h
  obtain ⟨parent, hparent, henter⟩ := bind_eq_ok_iff.1 h
  refine ⟨parent, hparent, ?_⟩
  rw [enter_name hname] at henter
  split at henter
  · cases henter
  · cases henter
    rfl

end Descent

/-! ## What stands at a path -/

theorem found_eq_ok_iff {other : Location} :
    tree.found path other = .ok (location, entry) ↔
      other = location ∧ tree.at? location = some entry ∧
        (endsInSlash path = true → entry = .directory) := by
  rw [found]
  constructor
  · intro h
    split at h
    · cases h
    rename_i hentry
    split at h
    · cases h
    rename_i hslash
    cases h
    exact ⟨rfl, hentry, by simpa using hslash⟩
  · intro h
    obtain ⟨hplace, hentry, hslash⟩ := h
    rw [hplace, hentry]
    exact if_neg (by simpa using hslash)

theorem find_eq_ok_iff :
    tree.find directory path = .ok (location, entry) ↔
      tree.locate directory path = .ok location ∧ tree.at? location = some entry ∧
        (endsInSlash path = true → entry = .directory) := by
  rw [find, bind_eq_ok_iff]
  simp only [found_eq_ok_iff]
  constructor
  · intro h
    obtain ⟨place, hplace, hsame, hentry⟩ := h
    rw [hsame] at hplace
    exact ⟨hplace, hentry⟩
  · intro h
    exact ⟨location, h.1, rfl, h.2⟩

/-- What is found at a path is found there as long as it stands at its place and the ways are
kept. -/
theorem find_of_keeps (hkeeps : KeepsWays tree after)
    (h : tree.find directory path = .ok (location, entry))
    (hentry : after.at? location = tree.at? location) :
    after.find directory path = .ok (location, entry) := by
  obtain ⟨hplace, hbefore, hslash⟩ := find_eq_ok_iff.1 h
  exact find_eq_ok_iff.2 ⟨locate_of_keeps hkeeps hplace, hentry.trans hbefore, hslash⟩

/-- What a path that ends in a name finds, or why it does not, depends on the directory before the
name and on what stands there under the name. -/
theorem find_join_congr (hlinks : tree.LinkFree) (hlinks' : after.LinkFree) (hname : IsName name)
    (hparent : tree.resolve directory base = .ok parent)
    (hparent' : after.resolve directory base = .ok parent)
    (hentry : after.at? (name :: parent) = tree.at? (name :: parent)) :
    after.find directory (join base name) = tree.find directory (join base name) := by
  rw [find, find, locate_join hlinks hname, locate_join hlinks' hname, hparent, hparent']
  cases checkPath (join base name) with
  | error e => rfl
  | ok =>
    show (enter parent name >>= _) = (enter parent name >>= _)
    rw [enter_name hname]
    split
    · rfl
    · simp only [bind, Except.bind, found, hentry]

theorem read_eq_ok_iff :
    tree.read directory path = .ok content ↔
      ∃ location executable,
        tree.find directory path = .ok (location, .file content executable) := by
  rw [read, bind_eq_ok_iff]
  constructor
  · intro h
    obtain ⟨⟨location, entry⟩, hfind, h⟩ := h
    cases entry with
    | directory => cases h
    | link path => cases h
    | file found executable =>
      cases h
      exact ⟨location, executable, hfind⟩
  · intro h
    obtain ⟨location, executable, hfind⟩ := h
    exact ⟨_, hfind, rfl⟩

theorem read_congr {directory' : Location}
    (h : after.find directory' path = tree.find directory path) :
    after.read directory' path = tree.read directory path := by
  rw [read, h, read]

/-! ## Operations -/

theorem target_eq_ok_iff :
    tree.target directory path = .ok (location, executable) ↔
      tree.locate directory path = .ok location ∧ endsInSlash path = false ∧
        (tree.at? location = none ∧ executable = false ∨
          ∃ content, tree.at? location = some (.file content executable)) := by
  rw [target, bind_eq_ok_iff]
  constructor
  · intro h
    obtain ⟨place, hplace, h⟩ := h
    split at h
    · cases h
    · rename_i hslash
      rw [Bool.not_eq_true] at hslash
      split at h
      · rename_i hnone
        cases h
        exact ⟨hplace, hslash, Or.inl ⟨hnone, rfl⟩⟩
      · rename_i hfile
        cases h
        exact ⟨hplace, hslash, Or.inr ⟨_, hfile⟩⟩
      · cases h
      · cases h
  · intro h
    obtain ⟨hplace, hslash, hentry⟩ := h
    refine ⟨location, hplace, ?_⟩
    rcases hentry with ⟨hnone, hplain⟩ | ⟨content, hfile⟩
    · simp [hslash, hnone, hplain]
    · simp [hslash, hfile]

/-- Where a file can be written neither a directory nor a link stands. -/
theorem not_leadsOn_target (h : tree.target directory path = .ok (location, executable)) :
    ¬ LeadsOn (tree.at? location) := by
  obtain ⟨-, -, hentry⟩ := target_eq_ok_iff.1 h
  rcases hentry with ⟨hnone, -⟩ | ⟨content, hfile⟩
  · rw [hnone]
    exact not_leadsOn_none
  · rw [hfile]
    exact not_leadsOn_file

theorem ne_root_of_target (h : tree.target directory path = .ok (location, executable)) :
    location ≠ [] := by
  intro hroot
  refine not_leadsOn_target h (Or.inl ?_)
  rw [hroot, at?, if_pos rfl]

theorem filesChanged_target (h : tree.target directory path = .ok (location, executable))
    (content : List UInt8) (executable' : Bool) :
    FilesChanged (fun place => tree.locate directory path = .ok place) tree
      (tree.put location (.file content executable')) := by
  intro other hother
  have hchanged := filesChanged_put (not_leadsOn_target h) other hother
  refine ⟨?_, hchanged.2⟩
  rw [hchanged.1]
  exact (target_eq_ok_iff.1 h).1

/-- A file that has been put where a path leads is read at the path. -/
theorem read_put_target (h : tree.target directory path = .ok (location, executable))
    (content : List UInt8) (executable' : Bool) :
    (tree.put location (.file content executable')).read directory path = .ok content := by
  obtain ⟨hplace, hslash, -⟩ := target_eq_ok_iff.1 h
  have hkeeps := (filesChanged_target h content executable').keepsWays
  refine read_eq_ok_iff.2 ⟨location, executable', find_eq_ok_iff.2 ⟨?_, ?_, ?_⟩⟩
  · exact locate_of_keeps hkeeps hplace
  · exact at?_put_self (ne_root_of_target h)
  · simp [hslash]

theorem write_eq_ok_iff :
    tree.write directory path content = .ok after ↔
      ∃ location executable, tree.target directory path = .ok (location, executable) ∧
        after = tree.put location (.file content executable) := by
  rw [write, bind_eq_ok_iff]
  constructor
  · intro h
    obtain ⟨⟨location, executable⟩, htarget, h⟩ := h
    cases h
    exact ⟨location, executable, htarget, rfl⟩
  · intro h
    obtain ⟨location, executable, htarget, hafter⟩ := h
    exact ⟨(location, executable), htarget, congrArg Except.ok hafter.symm⟩

/-- A copy is the source in another place, unless it is in the same place. -/
theorem copy_eq_ok_iff {source target : String} :
    tree.copy directory source target = .ok after ↔
      ∃ place content executable location former,
        tree.find directory source = .ok (place, .file content executable) ∧
        tree.target directory target = .ok (location, former) ∧
        after =
          tree.put location (.file (if location = place then [] else content) executable) := by
  rw [copy, bind_eq_ok_iff]
  constructor
  · intro h
    obtain ⟨⟨place, entry⟩, hfind, h⟩ := h
    cases entry with
    | directory => cases h
    | link path => cases h
    | file content executable =>
      obtain ⟨⟨location, former⟩, htarget, h⟩ := bind_eq_ok_iff.1 h
      cases h
      exact ⟨place, content, executable, location, former, hfind, htarget, rfl⟩
  · intro h
    obtain ⟨place, content, executable, location, former, hfind, htarget, hafter⟩ := h
    refine ⟨_, hfind, bind_eq_ok_iff.2 ⟨_, htarget, ?_⟩⟩
    exact congrArg Except.ok hafter.symm

/-- Directories that are there already are passed through. -/
theorem createAll_append {names more : List String}
    (h : tree.descend directory names = .ok parent) :
    tree.createAll directory (names ++ more) = tree.createAll parent more := by
  induction names generalizing directory with
  | nil =>
    cases h
    rfl
  | cons name names ih =>
    obtain ⟨next, henter, hnext, hnames⟩ := descend_cons_eq_ok_iff.1 h
    rw [List.cons_append, createAll, henter]
    simp only [bind, Except.bind, hnext]
    exact ih hnames

/-- One name more than the directories that are there: it is a directory already, or becomes one. -/
theorem createDirectories_join (hlinks : tree.LinkFree) (hname : IsName name)
    (hparent : tree.resolve directory base = .ok parent)
    (h : tree.createDirectories directory (join base name) = .ok after) :
    tree.locate directory (join base name) = .ok (name :: parent) ∧
      (tree.at? (name :: parent) = some .directory ∧ after = tree ∨
        tree.at? (name :: parent) = none ∧ after = tree.put (name :: parent) .directory) := by
  rw [createDirectories] at h
  split at h
  · cases h
  rename_i hnul
  split at h
  · cases h
  rename_i hlong
  rw [components_join hname, origin_join hname] at h
  have hcreate : tree.createAll parent [name] = .ok after := (createAll_append hparent).symm.trans h
  rw [createAll, enter_name hname] at hcreate
  split at hcreate
  · cases hcreate
  rename_i hshort
  constructor
  · have hcheck : checkPath (join base name) = .ok () := by
      rw [checkPath, if_neg hnul, if_neg (by simpa using join_ne_empty hname), if_neg hlong]
    rw [locate_join hlinks hname, hcheck, hparent]
    show enter parent name = _
    rw [enter_name hname, if_neg hshort]
  · simp only [bind, Except.bind] at hcreate
    split at hcreate
    · rename_i hnone
      cases hcreate
      exact Or.inr ⟨hnone, rfl⟩
    · rename_i hdirectory
      cases hcreate
      exact Or.inl ⟨hdirectory, rfl⟩
    · cases hcreate
    · rename_i path hlink
      exact absurd hlink (hlinks _ path)

end Piste.Host.FileTree
