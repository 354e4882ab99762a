import Piste.Host.Basic
import Piste.Host.FileTree

/-!
# Modelled machines

A machine as a value: its file tree, what external programs do, and what has been printed. Commands
run on it as functions from machines to machines.
-/

namespace Piste

open Host

/-- What external programs do: from the file tree, the working directory, the program and its
arguments to the way it ends and the file tree then. -/
abbrev Programs :=
  FileTree → Location → String → List String → Except IoError Exit × FileTree

/-- A machine that commands run on. -/
structure Machine where
  tree : FileTree
  directory : Location
  home : Option String
  programs : Programs
  stamp : String
  output : String

namespace Machine

/-- Changes the file tree, unless that fails. -/
def update (change : Machine → Except IoError FileTree) :
    StateM Machine (Except IoError Unit) := fun machine =>
  match change machine with
  | .ok tree => (.ok (), { machine with tree })
  | .error e => (.error e, machine)

instance : Host (StateM Machine) where
  home := fun machine => (machine.home, machine)
  readFile path := fun machine => (machine.tree.read machine.directory path, machine)
  writeFile path content := update fun machine =>
    machine.tree.write machine.directory path content
  pathExists path := fun machine =>
    ((machine.tree.find machine.directory path).toBool, machine)
  createDirectories path := update fun machine =>
    machine.tree.createDirectories machine.directory path
  copyFile source target := update fun machine =>
    machine.tree.copy machine.directory source target
  run program arguments := fun machine =>
    let (exit, tree) := machine.programs machine.tree machine.directory program arguments
    (exit, { machine with tree })
  print text := fun machine => ((), { machine with output := machine.output ++ text })
  newStamp := fun machine => (machine.stamp, machine)

end Machine

end Piste
