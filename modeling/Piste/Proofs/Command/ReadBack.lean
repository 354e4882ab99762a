import Piste.Proofs.Command.Printing
import Piste.Proofs.Diagram.Fault
import Piste.Proofs.Text.TrimmedLines
import Piste.Proofs.Text.Utf8

/-!
# Reading printed sets back

The text of printed sets is made of lines, six for each set: its header, the four lines of its
diagram, and an empty one. Headers are not marked as such, and an empty line may also be part of a
diagram, but the lines can be counted, and the name is what stands between the fixed beginning and
the fixed end of its header. `readSets?` reads sets in this way, and finds what was printed
(`readSets?_printedBytes`). So no other sets print as the same text.
-/

namespace Piste

open Diagram Host Text

/-! ## The lines of a set -/

/-- What stands before the name in a header line. -/
def headerStart : List Char :=
  (Style.sequence Style.bold.onCode).toList

/-- What stands behind the name in a header line. -/
def headerEnd : List Char :=
  (Style.sequence Style.bold.offCode).toList ++ [':']

/-- A set of which the lines can be counted: there are as many as a diagram has, and neither they
nor the name go over to another line. -/
structure Diagram.RenderedSet.Legible (set : RenderedSet) : Prop where
  lineCount : set.lines.length = rowCount
  name : '\n' ∉ set.name.toList
  lines : ∀ line ∈ set.lines, '\n' ∉ line.toList

/-- The lines that are printed of a set. -/
def Diagram.RenderedSet.printedLines (set : RenderedSet) : List (List Char) :=
  (headerStart ++ set.name.toList ++ headerEnd) :: (set.lines.map String.toList ++ [[]])

theorem toList_text (set : RenderedSet) :
    set.text.toList = set.printedLines.flatMap fun line => line ++ ['\n'] := by
  have hlines : (String.join (set.lines.map (· ++ "\n"))).toList =
      (set.lines.map String.toList).flatMap fun line => line ++ ['\n'] := by
    rw [String.toList_join, List.flatMap_map, List.flatMap_map]
    exact congrArg (List.flatMap · set.lines) (funext fun line => String.toList_append)
  rw [RenderedSet.text, RenderedSet.printedLines, List.flatMap_cons, List.flatMap_append,
    String.toList_append, String.toList_append, hlines]
  simp [Style.span, Span.render, Style.apply, headerStart, headerEnd]

theorem Diagram.RenderedSet.Legible.newline_notMem {set : RenderedSet} (h : set.Legible) :
    ∀ line ∈ set.printedLines, '\n' ∉ line := by
  have hstart : '\n' ∉ headerStart := by decide
  have hend : '\n' ∉ headerEnd := by decide
  intro line hline
  rcases List.mem_cons.1 hline with rfl | hline
  · simp [hstart, hend, h.name]
  · rcases List.mem_append.1 hline with hline | hline
    · obtain ⟨text, htext, rfl⟩ := List.mem_map.1 hline
      exact h.lines text htext
    · rw [List.mem_singleton.1 hline]
      exact List.not_mem_nil

/-! ## Reading -/

/-- The name in a header line. -/
def nameOfHeader? (line : List Char) : Option (List Char) :=
  headerStart.isPrefixOf? line >>= headerEnd.isSuffixOf?

/-- The sets that take up all lines, six each. Behind the last line feed there is nothing. -/
def setsOfLines? : List (List Char) → Option (List RenderedSet)
  | header :: first :: second :: third :: fourth :: [] :: rest => do
    let name ← nameOfHeader? header
    let more ← setsOfLines? rest
    return ⟨String.ofList name, [first, second, third, fourth].map String.ofList⟩ :: more
  | [[]] => some []
  | _ => none

/-- The sets in a printed text. -/
def readSets? (bytes : List UInt8) : Option (List RenderedSet) :=
  setsOfLines? ((Utf8.decodeLossy bytes).splitOn '\n')

theorem nameOfHeader?_header (name : List Char) :
    nameOfHeader? (headerStart ++ name ++ headerEnd) = some name := by
  rw [nameOfHeader?, Option.bind_eq_bind, Option.bind_eq_some_iff]
  refine ⟨name ++ headerEnd, ?_, ?_⟩
  · rw [List.isPrefixOf?_eq_some_iff_append_eq, List.append_assoc]
  · rw [List.isSuffixOf?_eq_some_iff_append_eq]

theorem setsOfLines?_printedLines {set : RenderedSet} (hset : set.lines.length = rowCount)
    (rest : List (List Char)) :
    setsOfLines? (set.printedLines ++ rest) = (setsOfLines? rest).map (set :: ·) := by
  obtain ⟨name, lines⟩ := set
  match lines, hset with
  | [first, second, third, fourth], _ =>
    simp only [RenderedSet.printedLines, List.map_cons, List.map_nil, List.cons_append,
      List.nil_append, setsOfLines?, nameOfHeader?_header]
    cases setsOfLines? rest <;> simp

/-- What is read back are the sets that were printed. -/
theorem readSets?_printedBytes {sets : List RenderedSet} (hsets : ∀ set ∈ sets, set.Legible) :
    readSets? (printedBytes sets) = some sets := by
  rw [readSets?, printedBytes, Utf8.decodeLossy_encode, String.toList_join, List.flatMap_map]
  induction sets with
  | nil => rfl
  | cons set sets ih =>
    rw [List.forall_mem_cons] at hsets
    rw [List.flatMap_cons, toList_text, splitOn_flatMap_newline hsets.1.newline_notMem,
      setsOfLines?_printedLines hsets.1.lineCount, ih hsets.2, Option.map_some]

/-- Printed sets are found again, and no other sets print as the same text. That a set has as many
lines as a diagram is so of every set that is drawn. -/
theorem printed_sets_unique (full : IoError) {sets : List RenderedSet}
    (hsets : ∀ set ∈ sets, set.Legible) :
    readSets? (printTo none full sets).2 = some sets ∧
      (∀ sets', (∀ set ∈ sets', set.Legible) →
        (printTo none full sets').2 = (printTo none full sets).2 → sets' = sets) ∧
      ∀ (layout : Layout) set rendered, layout.drawSet set = .ok rendered →
        rendered.lines.length = rowCount := by
  have hread : ∀ sets, (∀ set ∈ sets, RenderedSet.Legible set) →
      readSets? (printTo none full sets).2 = some sets := by
    intro sets hsets
    rw [printTo_unlimited]
    exact readSets?_printedBytes hsets
  refine ⟨hread sets hsets, fun sets' hsets' hsame => ?_, fun layout set rendered hdraw => ?_⟩
  · have hread' := hread sets' hsets'
    rw [hsame, hread sets hsets] at hread'
    exact (Option.some.inj hread').symm
  · exact (drawSet_eq_ok_iff.1 hdraw).2.2

/-- A set with a colon and an escape sequence in its name, and with a line like a header. -/
def lookalike : RenderedSet :=
  ⟨"a:\x1b[0m:", ["", "\x1b[1mb\x1b[0m:", "", "|"]⟩

/-- The same lines under the name that the line like a header has. -/
def lookalikeInside : RenderedSet :=
  ⟨"b", lookalike.lines⟩

theorem printed_lookalikes_unique :
    readSets? (printTo none (.system 28) [lookalike, lookalikeInside]).2 =
        some [lookalike, lookalikeInside] ∧
      (printTo none (.system 28) [lookalike]).2 ≠
        (printTo none (.system 28) [lookalike, lookalikeInside]).2 := by
  have hfirst : lookalike.Legible := ⟨rfl, by decide, by decide⟩
  have hsecond : lookalikeInside.Legible := ⟨rfl, by decide, by decide⟩
  have hboth : ∀ set ∈ [lookalike, lookalikeInside], set.Legible := by simp [hfirst, hsecond]
  obtain ⟨hread, hunique, -⟩ := printed_sets_unique (.system 28) hboth
  refine ⟨hread, fun hsame => ?_⟩
  have := hunique [lookalike] (by simp [hfirst]) hsame
  cases this

end Piste
