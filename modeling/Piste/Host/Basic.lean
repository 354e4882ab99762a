import Piste.Host.IoError
import Piste.Host.Path

/-!
# The host of a command

What commands ask of the machine that they run on: files, external programs, standard output. The
commands are written over any host, so that they run on a real machine as well as on a modelled one.
-/

namespace Piste

/-- How an external program ended, and what it wrote to standard error. -/
structure Exit where
  success : Bool
  errorOutput : List UInt8

/-- A place that text is written to. What it holds back is written out by `flush`. -/
structure Host.Writer (m : Type → Type) where
  write (text : String) : ExceptT Host.IoError m Unit
  flush : ExceptT Host.IoError m Unit

/-- A machine that commands run on. -/
class Host (m : Type → Type) where
  /-- The home directory of the user. -/
  home : m (Option String)
  readFile (path : String) : m (Except Host.IoError (List UInt8))
  writeFile (path : String) (content : List UInt8) : m (Except Host.IoError Unit)
  /-- Whether a file or a directory is seen. What cannot be looked at is not. -/
  pathExists (path : String) : m Bool
  /-- Creates a directory with the directories above it. One that exists is left alone. -/
  createDirectories (path : String) : m (Except Host.IoError Unit)
  copyFile (source target : String) : m (Except Host.IoError Unit)
  /-- Runs an external program to its end. -/
  run (program : String) (arguments : List String) : m (Except Host.IoError Exit)
  /-- Writes to standard output. -/
  print (text : String) : m Unit
  /-- A name for output files that has not been used before and sorts by time. -/
  newStamp : m String

/-- Standard output, which holds nothing back and takes any text. -/
def Host.standardOutput {m : Type → Type} [Monad m] [Host m] : Host.Writer m where
  write text := ExceptT.lift (Host.print text)
  flush := pure ()

end Piste
