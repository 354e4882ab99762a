import Piste.Host.Installed

/-!
# Programs that do not start

A program changes the file tree by running, and one that does not start changes nothing
(`programs_error`). A name that is none of an installed program does not start
(`programs_of_named?_eq_none`).
-/

namespace Piste.Host.Installed

variable {environment : Table String String} {tree after : FileTree} {directory : Location}
  {program : String} {arguments : List String} {e : IoError}

theorem runPath_error
    (h : runPath environment tree directory program arguments = (.error e, after)) :
    after = tree := by
  unfold runPath at h
  split at h
  · cases h
  · cases h
    rfl
  · split at h
    · cases h
      rfl
    · split at h
      · cases h
        rfl
      · split at h
        · cases h
        · cases h
          rfl
        · cases h
          rfl
  · cases h
    rfl

/-- A program that does not start changes nothing. -/
theorem programs_error
    (h : programs environment tree directory program arguments = (.error e, after)) :
    after = tree := by
  unfold programs at h
  split at h
  · cases h
    rfl
  split at h
  · exact runPath_error h
  split at h
  · cases h
    rfl
  split at h
  · cases h
    rfl
  split at h
  · cases h
  · cases h
    rfl

/-- There is no such program. -/
theorem programs_of_named?_eq_none
    (hnul : (program :: arguments).any (·.toList.contains '\x00') = false)
    (hslash : program.toList.contains '/' = false)
    (hpoints : (program = "." || program = "..") = false)
    (hshort : program.utf8ByteSize ≤ FileTree.maxNameSize) (hname : named? program = none) :
    programs environment tree directory program arguments = (.error .noEntry, tree) := by
  unfold programs
  rw [hnul, hslash, hpoints, if_neg (Nat.not_lt.2 hshort), hname]
  rfl

end Piste.Host.Installed
