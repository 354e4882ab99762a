import Mathlib.Data.List.DropRight
import Piste.Proofs.Text.Blank

/-!
# Lines without the blanks around them

`trimmedLines` trims a text, and then each of its lines. It can be had in another order: cut the
text at its line feeds, trim what is between them (`pieces`), and drop the empty pieces at both
ends (`trimmedLines_eq`). In this form it does not matter how lines end and what is trimmed first.

So blanks next to line feeds have no effect on trimmed lines (`Padded.trimmedLines_eq`), and
trimmed lines that are written one after the other are found again (`trimmedLines_written`).
-/

namespace Piste.Text

/-- The lines of a text, without the blanks around the text and around each line. -/
def trimmedLines (text : List Char) : List (List Char) :=
  (lines (trim text)).map trim

/-- What is between the line feeds of a text, without the blanks around it. -/
def pieces (text : List Char) : List (List Char) :=
  (text.splitOn '\n').map trim

/-- Drops what is empty at both ends. -/
def dropEmptyEnds (texts : List (List Char)) : List (List Char) :=
  (texts.dropWhile List.isEmpty).rdropWhile List.isEmpty

section

variable {text cs ds blanks : List Char}

/-! ## Cutting at line feeds -/

theorem splitOn_newline_cons (cs : List Char) :
    ('\n' :: cs).splitOn '\n' = [] :: cs.splitOn '\n' :=
  List.splitOn_append_cons_self_of_not_mem List.not_mem_nil cs

theorem splitOn_cons {c : Char} (hc : c ≠ '\n') {first : List Char} {more : List (List Char)}
    (h : cs.splitOn '\n' = first :: more) : (c :: cs).splitOn '\n' = (c :: first) :: more := by
  rw [List.splitOn_cons_eq_if_modifyHead, if_neg (by simpa using hc), h, List.modifyHead_cons]

theorem exists_splitOn (cs : List Char) : ∃ first more, cs.splitOn '\n' = first :: more :=
  List.exists_cons_of_ne_nil (List.splitOn_ne_nil _ _)

/-- A character after a text goes to the last piece. -/
theorem splitOn_concat {c : Char} (hc : c ≠ '\n') (cs : List Char) :
    ∃ before last, cs.splitOn '\n' = before ++ [last] ∧
      (cs ++ [c]).splitOn '\n' = before ++ [last ++ [c]] := by
  induction cs with
  | nil => exact ⟨[], [], List.splitOn_nil _, List.splitOn_eq_singleton (by simpa using hc.symm)⟩
  | cons d cs ih =>
    obtain ⟨before, last, hcs, hconcat⟩ := ih
    by_cases hd : d = '\n'
    · subst hd
      refine ⟨[] :: before, last, ?_, ?_⟩
      · rw [splitOn_newline_cons, hcs, List.cons_append]
      · rw [List.cons_append, splitOn_newline_cons, hconcat, List.cons_append]
    cases before with
    | nil => exact ⟨[], d :: last, splitOn_cons hd hcs, splitOn_cons hd hconcat⟩
    | cons first before =>
      exact ⟨(d :: first) :: before, last, splitOn_cons hd hcs, splitOn_cons hd hconcat⟩

/-- Lines that are written one after the other, each with a line feed, come first when the text is
cut at its line feeds. -/
theorem splitOn_flatMap_newline {texts : List (List Char)} (htexts : ∀ line ∈ texts, '\n' ∉ line)
    (rest : List Char) :
    ((texts.flatMap fun line => line ++ ['\n']) ++ rest).splitOn '\n' =
      texts ++ rest.splitOn '\n' := by
  induction texts with
  | nil => rfl
  | cons line texts ih =>
    rw [List.forall_mem_cons] at htexts
    rw [List.flatMap_cons, List.append_assoc, List.append_assoc, List.singleton_append,
      List.splitOn_append_cons_self_of_not_mem htexts.1, ih htexts.2, List.cons_append]

/-! ## Pieces -/

theorem pieces_nil : pieces [] = [[]] := rfl

theorem pieces_of_notMem (hnewline : '\n' ∉ text) : pieces text = [trim text] := by
  rw [pieces, List.splitOn_eq_singleton hnewline, List.map_singleton]

theorem pieces_append_newline (cs ds : List Char) :
    pieces (cs ++ '\n' :: ds) = pieces cs ++ pieces ds := by
  rw [pieces, List.splitOn_append_cons_self, List.map_append, pieces, pieces]

theorem pieces_cons_of_isBlank {c : Char} (hblank : isBlank c = true) (hc : c ≠ '\n') :
    pieces (c :: cs) = pieces cs := by
  obtain ⟨first, more, hcs⟩ := exists_splitOn cs
  have htrim : trim ([c] ++ first) = trim first := trim_blanks_append (by simpa using hblank)
  rw [List.singleton_append] at htrim
  rw [pieces, splitOn_cons hc hcs, List.map_cons, htrim, pieces, hcs, List.map_cons]

theorem pieces_concat_of_isBlank {c : Char} (hblank : isBlank c = true) (hc : c ≠ '\n') :
    pieces (cs ++ [c]) = pieces cs := by
  obtain ⟨before, last, hcs, hconcat⟩ := splitOn_concat hc cs
  have htrim : trim (last ++ [c]) = trim last := trim_append_blanks (by simpa using hblank)
  rw [pieces, hconcat, List.map_append, List.map_singleton, htrim, pieces, hcs, List.map_append,
    List.map_singleton]

/-! ## Empty pieces at the ends -/

theorem dropEmptyEnds_nil_cons (texts : List (List Char)) :
    dropEmptyEnds ([] :: texts) = dropEmptyEnds texts := rfl

theorem dropEmptyEnds_concat_nil (texts : List (List Char)) :
    dropEmptyEnds (texts ++ [[]]) = dropEmptyEnds texts := by
  rw [dropEmptyEnds, List.dropWhile_append]
  by_cases hnone : texts.dropWhile List.isEmpty = []
  · simp [dropEmptyEnds, hnone]
  · simp [dropEmptyEnds, hnone]

theorem dropEmptyEnds_eq_self {texts : List (List Char)} (hhead : ∀ t ∈ texts.head?, t ≠ [])
    (hlast : ∀ t ∈ texts.getLast?, t ≠ []) : dropEmptyEnds texts = texts := by
  have hdrop : texts.dropWhile List.isEmpty = texts := by
    cases texts with
    | nil => rfl
    | cons t texts => exact List.dropWhile_cons_of_neg (by simpa using hhead t rfl)
  rw [dropEmptyEnds, hdrop, List.rdropWhile_eq_self_iff]
  intro hne
  simpa using hlast _ (List.getLast?_eq_some_getLast hne)

theorem dropEmptyEnds_pieces_blanks_append (hblanks : ∀ c ∈ blanks, isBlank c = true) :
    dropEmptyEnds (pieces (blanks ++ cs)) = dropEmptyEnds (pieces cs) := by
  induction blanks with
  | nil => rfl
  | cons c blanks ih =>
    rw [List.forall_mem_cons] at hblanks
    rw [← ih hblanks.2, List.cons_append]
    by_cases hc : c = '\n'
    · have hpieces := pieces_append_newline [] (blanks ++ cs)
      rw [hc, ← List.nil_append ('\n' :: (blanks ++ cs)), hpieces, pieces_nil,
        List.singleton_append, dropEmptyEnds_nil_cons]
    · rw [pieces_cons_of_isBlank hblanks.1 hc]

theorem dropEmptyEnds_pieces_append_blanks (hblanks : ∀ c ∈ blanks, isBlank c = true) :
    dropEmptyEnds (pieces (cs ++ blanks)) = dropEmptyEnds (pieces cs) := by
  induction blanks generalizing cs with
  | nil => rw [List.append_nil]
  | cons c blanks ih =>
    rw [List.forall_mem_cons] at hblanks
    rw [← List.singleton_append, ← List.append_assoc, ih hblanks.2]
    by_cases hc : c = '\n'
    · rw [hc, pieces_append_newline, pieces_nil, dropEmptyEnds_concat_nil]
    · rw [pieces_concat_of_isBlank hblanks.1 hc]

/-! ## Trimmed lines are pieces -/

/-- The lines are the pieces, but for the blanks and for an empty piece at the end. -/
theorem IsLines.pieces_eq {texts : List (List Char)} (h : IsLines text texts) :
    pieces text = texts.map trim ∨ pieces text = texts.map trim ++ [[]] := by
  induction h with
  | done => exact Or.inr rfl
  | last _ hnewline => exact Or.inl (pieces_of_notMem hnewline)
  | @feed line rest more hnewline _ _ ih =>
    rw [pieces_append_newline, pieces_of_notMem hnewline]
    exact ih.imp (congrArg _) (congrArg _)
  | @returnFeed line rest more hnewline _ ih =>
    have hline : '\n' ∉ line ++ ['\r'] := by simpa using hnewline
    have hreturn : ∀ c ∈ ['\r'], isBlank c = true := List.forall_mem_singleton.2 rfl
    have htrim : trim (line ++ ['\r']) = trim line := trim_append_blanks hreturn
    rw [← List.singleton_append, ← List.append_assoc, pieces_append_newline,
      pieces_of_notMem hline, htrim]
    exact ih.imp (congrArg _) (congrArg _)

/-- Where a text does not begin with a blank, neither does its first piece. -/
theorem pieces_head_ne_nil (hhead : ∃ c ∈ text.head?, isBlank c = false) :
    ∀ piece ∈ (pieces text).head?, piece ≠ [] := by
  obtain ⟨c, hc, hblank⟩ := hhead
  obtain ⟨cs, rfl⟩ := List.head?_eq_some_iff.1 hc
  obtain ⟨first, more, hcs⟩ := exists_splitOn cs
  have hnewline : c ≠ '\n' := by
    rintro rfl
    cases hblank
  rw [pieces, splitOn_cons hnewline hcs]
  intro piece hpiece
  rw [← Option.some.inj hpiece]
  exact trim_ne_nil_of_mem List.mem_cons_self hblank

/-- Where a text does not end with a blank, neither does its last piece. -/
theorem pieces_getLast_ne_nil (hlast : ∃ c ∈ text.getLast?, isBlank c = false) :
    ∀ piece ∈ (pieces text).getLast?, piece ≠ [] := by
  obtain ⟨c, hc, hblank⟩ := hlast
  obtain ⟨cs, rfl⟩ := List.getLast?_eq_some_iff.1 hc
  have hnewline : c ≠ '\n' := by
    rintro rfl
    cases hblank
  obtain ⟨before, last, -, hconcat⟩ := splitOn_concat hnewline cs
  rw [pieces, hconcat, List.map_append, List.map_singleton, List.getLast?_concat]
  intro piece hpiece
  rw [← Option.some.inj hpiece]
  exact trim_ne_nil_of_mem (List.mem_append_right last List.mem_cons_self) hblank

/-- In a trimmed text the lines are the pieces, and no empty one is at an end. -/
theorem trimmedLines_of_trim_eq_self (htrim : trim text = text) :
    trimmedLines text = dropEmptyEnds (pieces text) ∧
      dropEmptyEnds (trimmedLines text) = trimmedLines text := by
  by_cases hne : text = []
  · rw [hne]
    exact ⟨rfl, rfl⟩
  have htrims := trim_eq_iff.1 htrim
  have hhead := pieces_head_ne_nil
    ⟨_, List.head?_eq_some_head hne, htrims.head _ (List.head?_eq_some_head hne)⟩
  have hlast := pieces_getLast_ne_nil
    ⟨_, List.getLast?_eq_some_getLast hne, htrims.last _ (List.getLast?_eq_some_getLast hne)⟩
  have hlines : trimmedLines text = pieces text := by
    rw [trimmedLines, htrim]
    rcases (isLines_lines text).pieces_eq with hpieces | hpieces
    · exact hpieces.symm
    · rw [hpieces, List.getLast?_concat] at hlast
      exact absurd rfl (hlast [] rfl)
  have hdrop : dropEmptyEnds (pieces text) = pieces text := dropEmptyEnds_eq_self hhead hlast
  rw [hlines, hdrop]
  exact ⟨rfl, rfl⟩

theorem trimmedLines_trim (text : List Char) : trimmedLines (trim text) = trimmedLines text := by
  rw [trimmedLines, trim_trim, trimmedLines]

theorem dropEmptyEnds_trimmedLines (text : List Char) :
    dropEmptyEnds (trimmedLines text) = trimmedLines text := by
  rw [← trimmedLines_trim]
  exact (trimmedLines_of_trim_eq_self (trim_trim text)).2

/-- Trimmed lines are the pieces without the empty ones at both ends. -/
theorem trimmedLines_eq (text : List Char) : trimmedLines text = dropEmptyEnds (pieces text) := by
  obtain ⟨before, after, hsplit, hbefore, hafter⟩ := (trims_trim text).dropped
  have hpieces : dropEmptyEnds (pieces text) = dropEmptyEnds (pieces (trim text)) := by
    conv_lhs => rw [hsplit, dropEmptyEnds_pieces_append_blanks hafter,
      dropEmptyEnds_pieces_blanks_append hbefore]
  rw [hpieces, ← trimmedLines_trim]
  exact (trimmedLines_of_trim_eq_self (trim_trim text)).1

/-- Of blanks alone there are no trimmed lines. -/
theorem trimmedLines_eq_nil_iff : trimmedLines text = [] ↔ ∀ c ∈ text, isBlank c = true := by
  rw [trimmedLines, List.map_eq_nil_iff, lines_eq_nil_iff, trim_eq_nil_iff]

/-! ## Blanks next to line feeds -/

/-- `padded` is `text` with blanks put in before and after its line feeds. -/
inductive Padded : (text padded : List Char) → Prop where
  | nil : Padded [] []
  | char {c : Char} {cs ds : List Char} (hc : c ≠ '\n') (h : Padded cs ds) :
    Padded (c :: cs) (c :: ds)
  | feed {before after cs ds : List Char} (hbefore : ∀ c ∈ before, isBlank c = true ∧ c ≠ '\n')
      (hafter : ∀ c ∈ after, isBlank c = true ∧ c ≠ '\n') (h : Padded cs ds) :
    Padded ('\n' :: cs) (before ++ '\n' :: (after ++ ds))

theorem splitOn_append {before first : List Char} {more : List (List Char)}
    (hbefore : '\n' ∉ before) (h : cs.splitOn '\n' = first :: more) :
    (before ++ cs).splitOn '\n' = (before ++ first) :: more := by
  induction before with
  | nil => exact h
  | cons c before ih =>
    rw [List.mem_cons, not_or] at hbefore
    exact splitOn_cons (Ne.symm hbefore.1) (ih hbefore.2)

/-- Padding changes the pieces by blanks. The first piece may get blanks at its end only. -/
theorem Padded.exists_splitOn (h : Padded cs ds) :
    ∃ first first' more more', cs.splitOn '\n' = first :: more ∧ ds.splitOn '\n' = first' :: more' ∧
      trimEnd first = trimEnd first' ∧ more.map trim = more'.map trim := by
  induction h with
  | nil => exact ⟨[], [], [], [], rfl, rfl, rfl, rfl⟩
  | @char c _ _ hc _ ih =>
    obtain ⟨first, first', more, more', hcs, hds, hfirst, hmore⟩ := ih
    refine ⟨c :: first, c :: first', more, more', splitOn_cons hc hcs, splitOn_cons hc hds, ?_,
      hmore⟩
    rw [trimEnd_cons, hfirst, ← trimEnd_cons]
  | @feed before after cs ds hbefore hafter _ ih =>
    obtain ⟨first, first', more, more', hcs, hds, hfirst, hmore⟩ := ih
    have hnewline : ∀ blanks : List Char, (∀ c ∈ blanks, isBlank c = true ∧ c ≠ '\n') →
        '\n' ∉ blanks := fun blanks h hmem => (h _ hmem).2 rfl
    have hblanks : trim (after ++ first') = trim first := by
      rw [trim_blanks_append fun c hc => (hafter c hc).1, trim_congr hfirst]
    refine ⟨[], before, first :: more, (after ++ first') :: more', ?_, ?_, ?_, ?_⟩
    · rw [splitOn_newline_cons, hcs]
    · rw [List.splitOn_append_cons_self_of_not_mem (hnewline before hbefore),
        splitOn_append (hnewline after hafter) hds]
    · exact (trimEnd_eq_nil_iff.2 fun c hc => (hbefore c hc).1).symm
    · rw [List.map_cons, List.map_cons, hblanks, hmore]

/-- Blanks next to line feeds have no effect on trimmed lines. -/
theorem Padded.trimmedLines_eq (h : Padded cs ds) : trimmedLines ds = trimmedLines cs := by
  obtain ⟨first, first', more, more', hcs, hds, hfirst, hmore⟩ := h.exists_splitOn
  have hpieces : pieces ds = pieces cs := by
    rw [pieces, hds, List.map_cons, ← trim_congr hfirst, ← hmore, pieces, hcs, List.map_cons]
  rw [Text.trimmedLines_eq, Text.trimmedLines_eq, hpieces]

/-- A text with a carriage return before each line feed. -/
def withReturns (text : List Char) : List Char :=
  text.flatMap fun c => if c = '\n' then ['\r', '\n'] else [c]

theorem padded_withReturns (text : List Char) : Padded text (withReturns text) := by
  induction text with
  | nil => exact .nil
  | cons c cs ih =>
    by_cases hc : c = '\n'
    · have hreturn : ∀ c ∈ ['\r'], isBlank c = true ∧ c ≠ '\n' :=
        List.forall_mem_singleton.2 ⟨rfl, by decide⟩
      subst hc
      exact @Padded.feed ['\r'] [] _ _ hreturn (List.forall_mem_nil _) ih
    · rw [withReturns, List.flatMap_cons, if_neg hc]
      exact .char hc ih

/-! ## Trimmed lines that are written again -/

theorem pieces_flatMap_newline {texts : List (List Char)} (htexts : ∀ line ∈ texts, '\n' ∉ line) :
    pieces (texts.flatMap fun line => line ++ ['\n']) = texts.map trim ++ [[]] := by
  have hsplit := splitOn_flatMap_newline htexts []
  rw [List.append_nil] at hsplit
  rw [pieces, hsplit, List.map_append]
  rfl

theorem newline_notMem_of_mem_trimmedLines {line : List Char} (hline : line ∈ trimmedLines text) :
    '\n' ∉ line := by
  obtain ⟨whole, hwhole, rfl⟩ := List.mem_map.1 hline
  intro hmem
  exact (isLines_lines _).newline_notMem whole hwhole ((trims_trim whole).mem hmem)

theorem map_trim_trimmedLines (text : List Char) :
    (trimmedLines text).map trim = trimmedLines text := by
  rw [trimmedLines, List.map_map]
  exact List.map_congr_left fun line _ => trim_trim line

/-- Trimmed lines that are written one after the other are the trimmed lines of what is written. -/
theorem trimmedLines_written (text : List Char) :
    trimmedLines ((trimmedLines text).flatMap fun line => line ++ ['\n']) = trimmedLines text := by
  have hpieces := pieces_flatMap_newline fun line (hline : line ∈ trimmedLines text) =>
    newline_notMem_of_mem_trimmedLines hline
  rw [trimmedLines_eq, hpieces, map_trim_trimmedLines, dropEmptyEnds_concat_nil,
    dropEmptyEnds_trimmedLines]

end

end Piste.Text
