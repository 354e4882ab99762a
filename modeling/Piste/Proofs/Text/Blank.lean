import Mathlib.Data.List.TakeWhile
import Piste.Text.Blank

/-!
# Trimming and lines

What `Text.trimEnd` drops is a run of blanks (`exists_trimEnd_append`), and it leaves none at the
end (`isBlank_getLast_trimEnd`). Of blanks alone nothing is left (`trimEnd_eq_nil_iff`). `Trims`
says the same of both ends, and `trim_eq_iff` that nothing else is the trimmed text. Blanks around a
text make no difference to what is left of it (`trim_blanks_append`, `trim_append_blanks`).

`IsLines` says what the lines of a text are and how each of them may end; `lines_eq_iff` says that
`Text.lines` finds them. Texts that are written line by line are split into the same lines
(`lines_flatMap_newline`).
-/

namespace Piste.Text

/-! ## Trimming -/

theorem exists_trimEnd_append (cs : List Char) :
    ∃ blanks, cs = trimEnd cs ++ blanks ∧ ∀ c ∈ blanks, isBlank c = true := by
  refine ⟨(cs.reverse.takeWhile isBlank).reverse, ?_, ?_⟩
  · rw [trimEnd, ← List.reverse_append, List.takeWhile_append_dropWhile, List.reverse_reverse]
  · intro c hc
    exact List.all_eq_true.1 List.all_takeWhile c (List.mem_reverse.1 hc)

theorem isBlank_getLast_trimEnd {cs : List Char} {c : Char}
    (hlast : (trimEnd cs).getLast? = some c) : isBlank c = false := by
  rw [trimEnd, List.getLast?_reverse] at hlast
  have hhead := List.head?_dropWhile_not isBlank cs.reverse
  rw [hlast] at hhead
  exact hhead

/-- Nothing is left exactly of blanks. -/
theorem trimEnd_eq_nil_iff {cs : List Char} : trimEnd cs = [] ↔ ∀ c ∈ cs, isBlank c = true := by
  rw [trimEnd, List.reverse_eq_nil_iff, List.dropWhile_eq_nil_iff]
  simp only [List.mem_reverse]

theorem trimEnd_eq_self {cs : List Char} (hlast : ∀ c ∈ cs.getLast?, isBlank c = false) :
    trimEnd cs = cs := by
  obtain ⟨blanks, hsplit, hblanks⟩ := exists_trimEnd_append cs
  cases hlastBlank : blanks.getLast? with
  | none =>
    rw [List.getLast?_eq_none_iff] at hlastBlank
    rw [hlastBlank, List.append_nil] at hsplit
    exact hsplit.symm
  | some c =>
    have hmem := hblanks c (List.mem_of_getLast? hlastBlank)
    rw [hsplit, List.getLast?_append, hlastBlank] at hlast
    rw [hlast c rfl] at hmem
    cases hmem

theorem trimEnd_append_blanks {cs blanks : List Char} (hblanks : ∀ c ∈ blanks, isBlank c = true) :
    trimEnd (cs ++ blanks) = trimEnd cs := by
  rw [trimEnd, List.reverse_append, List.dropWhile_append_of_pos, trimEnd]
  intro c hc
  exact hblanks c (List.mem_reverse.1 hc)

/-- `kept` is a text without the blanks at its ends. -/
structure Trims (cs kept : List Char) : Prop where
  dropped : ∃ before after, cs = before ++ kept ++ after ∧ (∀ c ∈ before, isBlank c = true) ∧
    ∀ c ∈ after, isBlank c = true
  head : ∀ c ∈ kept.head?, isBlank c = false
  last : ∀ c ∈ kept.getLast?, isBlank c = false

theorem Trims.mem {cs kept : List Char} (h : Trims cs kept) {c : Char} (hc : c ∈ kept) :
    c ∈ cs := by
  obtain ⟨before, after, rfl, -⟩ := h.dropped
  exact List.mem_append_left after (List.mem_append_right before hc)

theorem trims_trim (cs : List Char) : Trims cs (trim cs) := by
  obtain ⟨blanks, hsplit, hblanks⟩ := exists_trimEnd_append (cs.dropWhile isBlank)
  refine ⟨⟨cs.takeWhile isBlank, blanks, ?_, ?_, hblanks⟩, ?_, ?_⟩
  · rw [List.append_assoc, trim, ← hsplit, List.takeWhile_append_dropWhile]
  · exact fun c hc => List.all_eq_true.1 List.all_takeWhile c hc
  · intro c hc
    have hhead := List.head?_dropWhile_not isBlank cs
    rw [hsplit, List.head?_append, ← trim, Option.mem_def.1 hc, Option.some_or] at hhead
    exact hhead
  · exact fun c hc => isBlank_getLast_trimEnd hc

/-- A text can be trimmed in one way only. -/
theorem trim_eq_iff {cs kept : List Char} : trim cs = kept ↔ Trims cs kept := by
  constructor
  · rintro rfl
    exact trims_trim cs
  · rintro ⟨⟨before, after, rfl, hbefore, hafter⟩, hhead, hlast⟩
    rw [trim, List.append_assoc, List.dropWhile_append_of_pos hbefore]
    cases kept with
    | nil =>
      rw [List.nil_append, List.dropWhile_eq_nil_iff.2 hafter]
      rfl
    | cons c cs =>
      have hfirst : isBlank c = false := hhead c rfl
      rw [List.cons_append, List.dropWhile_cons_of_neg (by simp [hfirst]), ← List.cons_append,
        trimEnd_append_blanks hafter, trimEnd_eq_self hlast]

theorem trim_blanks_append {blanks cs : List Char} (hblanks : ∀ c ∈ blanks, isBlank c = true) :
    trim (blanks ++ cs) = trim cs := by
  rw [trim, List.dropWhile_append_of_pos hblanks, trim]

/-- The blanks at the end may be dropped first. -/
theorem trim_trimEnd (cs : List Char) : trim (trimEnd cs) = trim cs := by
  obtain ⟨blanks, hsplit, hblanks⟩ := exists_trimEnd_append cs
  obtain ⟨⟨before, after, hdropped, hbefore, hafter⟩, hhead, hlast⟩ := trims_trim (trimEnd cs)
  refine (trim_eq_iff.2 ⟨⟨before, after ++ blanks, ?_, hbefore, ?_⟩, hhead, hlast⟩).symm
  · rw [← List.append_assoc, ← hdropped]
    exact hsplit
  · intro c hc
    exact (List.mem_append.1 hc).elim (hafter c) (hblanks c)

theorem trim_congr {cs ds : List Char} (h : trimEnd cs = trimEnd ds) : trim cs = trim ds := by
  rw [← trim_trimEnd, h, trim_trimEnd]

theorem trim_append_blanks {cs blanks : List Char} (hblanks : ∀ c ∈ blanks, isBlank c = true) :
    trim (cs ++ blanks) = trim cs :=
  trim_congr (trimEnd_append_blanks hblanks)

/-- A trimmed text has nothing left to trim. -/
theorem trim_trim (cs : List Char) : trim (trim cs) = trim cs := by
  obtain ⟨-, hhead, hlast⟩ := trims_trim cs
  exact trim_eq_iff.2 ⟨⟨[], [], by simp, by simp, by simp⟩, hhead, hlast⟩

/-- Nothing is left exactly of blanks. -/
theorem trim_eq_nil_iff {cs : List Char} : trim cs = [] ↔ ∀ c ∈ cs, isBlank c = true := by
  constructor
  · intro h c hc
    obtain ⟨before, after, hsplit, hbefore, hafter⟩ := (trims_trim cs).dropped
    rw [hsplit, h, List.append_nil, List.mem_append] at hc
    exact hc.elim (hbefore c) (hafter c)
  · intro h
    rw [← List.append_nil cs, trim_blanks_append h]
    rfl

theorem trim_ne_nil_of_mem {c : Char} {cs : List Char} (hc : c ∈ cs) (hblank : isBlank c = false) :
    trim cs ≠ [] := by
  rw [Ne, trim_eq_nil_iff]
  intro hblanks
  rw [hblanks c hc] at hblank
  cases hblank

/-- A character before a text is trimmed with it or stays. -/
theorem trimEnd_cons (c : Char) (cs : List Char) :
    trimEnd (c :: cs) = if trimEnd cs = [] then trimEnd [c] else c :: trimEnd cs := by
  rw [trimEnd, List.reverse_cons, List.dropWhile_append]
  by_cases hnone : cs.reverse.dropWhile isBlank = []
  · simp [trimEnd, hnone]
  · simp [trimEnd, hnone]

/-! ## Lines -/

/-- A line goes to the first line feed. A carriage return before it would not belong to the line. -/
theorem lines_append_newline {line : List Char} (hnewline : '\n' ∉ line)
    (hreturn : line.getLast? ≠ some '\r') (rest : List Char) :
    lines (line ++ '\n' :: rest) = line :: lines rest := by
  induction line with
  | nil => rw [List.nil_append, lines]
  | cons c cs ih =>
    obtain ⟨hc, hcs⟩ : '\n' ≠ c ∧ '\n' ∉ cs := by simpa using hnewline
    have hlast : cs.getLast? ≠ some '\r' := by
      intro h
      apply hreturn
      rw [List.getLast?_cons, h, Option.getD_some]
    have hends : ∀ more, c = '\r' → cs ++ '\n' :: rest ≠ '\n' :: more := by
      rintro more rfl
      cases cs with
      | nil => exact absurd rfl hreturn
      | cons d ds =>
        intro h
        exact hcs (List.mem_cons.2 (Or.inl (List.cons.inj h).1.symm))
    rw [List.cons_append, lines, ih hcs hlast]
    · exact fun h => hc h.symm
    · exact hends

/-- A carriage return goes with the line feed behind it. -/
theorem lines_append_return {line : List Char} (hnewline : '\n' ∉ line) (rest : List Char) :
    lines (line ++ '\r' :: '\n' :: rest) = line :: lines rest := by
  induction line with
  | nil => rw [List.nil_append, lines]
  | cons c cs ih =>
    rw [List.mem_cons, not_or] at hnewline
    rw [List.cons_append, lines, ih hnewline.2]
    · exact fun h => hnewline.1 h.symm
    · intro more _ hmore
      cases cs with
      | nil => cases hmore
      | cons d ds =>
        cases hmore
        exact hnewline.2 List.mem_cons_self

theorem lines_of_notMem {line : List Char} (hne : line ≠ []) (hnewline : '\n' ∉ line) :
    lines line = [line] := by
  induction line with
  | nil => exact absurd rfl hne
  | cons c cs ih =>
    rw [List.mem_cons, not_or] at hnewline
    rw [lines]
    · cases cs with
      | nil => rw [lines]
      | cons d ds => rw [ih (List.cons_ne_nil d ds) hnewline.2]
    · exact fun h => hnewline.1 h.symm
    · rintro more - rfl
      exact hnewline.2 List.mem_cons_self

/-- The lines of a text. Each ends in a line feed, with or without a carriage return before it, but
for the last one, which may also end with the text. Other carriage returns belong to their lines. -/
inductive IsLines : List Char → List (List Char) → Prop where
  | done : IsLines [] []
  | last {line : List Char} (hne : line ≠ []) (hnewline : '\n' ∉ line) : IsLines line [line]
  | feed {line rest : List Char} {more : List (List Char)} (hnewline : '\n' ∉ line)
      (hreturn : line.getLast? ≠ some '\r') (hrest : IsLines rest more) :
    IsLines (line ++ '\n' :: rest) (line :: more)
  | returnFeed {line rest : List Char} {more : List (List Char)} (hnewline : '\n' ∉ line)
      (hrest : IsLines rest more) : IsLines (line ++ '\r' :: '\n' :: rest) (line :: more)

/-- A character in front of a text belongs to its first line, unless it ends a line itself. -/
theorem IsLines.cons {c : Char} {rest line : List Char} {more : List (List Char)}
    (hnewline : c ≠ '\n') (hreturn : c = '\r' → rest.head? ≠ some '\n')
    (h : IsLines rest (line :: more)) : IsLines (c :: rest) ((c :: line) :: more) := by
  have hfresh : ∀ cs : List Char, '\n' ∉ cs → '\n' ∉ c :: cs := by
    intro cs hcs
    rw [List.mem_cons, not_or]
    exact ⟨Ne.symm hnewline, hcs⟩
  cases h with
  | last _ hline => exact .last (List.cons_ne_nil _ _) (hfresh _ hline)
  | feed hline hlast hrest =>
    rw [← List.cons_append]
    refine .feed (hfresh _ hline) ?_ hrest
    cases line with
    | nil =>
      intro hc
      exact hreturn (Option.some.inj hc) rfl
    | cons d ds => rwa [List.getLast?_cons_cons]
  | returnFeed hline hrest =>
    rw [← List.cons_append]
    exact .returnFeed (hfresh _ hline) hrest

theorem isLines_lines (text : List Char) : IsLines text (lines text) := by
  fun_induction lines text with
  | case1 => exact .done
  | case2 rest ih =>
    rw [← List.nil_append ('\n' :: rest)]
    exact .feed List.not_mem_nil (by simp) ih
  | case3 rest ih =>
    rw [← List.nil_append ('\r' :: '\n' :: rest)]
    exact .returnFeed List.not_mem_nil ih
  | case4 c rest hnewline hreturn hnone ih =>
    rw [hnone] at ih
    cases ih
    exact .last (List.cons_ne_nil c _) (by simpa using Ne.symm hnewline)
  | case5 c rest hnewline hreturn line more hsome ih =>
    rw [hsome] at ih
    refine ih.cons hnewline fun hc hhead => ?_
    obtain ⟨after, hrest⟩ := List.head?_eq_some_iff.1 hhead
    exact hreturn after hc hrest

theorem IsLines.newline_notMem {text : List Char} {texts : List (List Char)}
    (h : IsLines text texts) : ∀ line ∈ texts, '\n' ∉ line := by
  induction h with
  | done => exact List.forall_mem_nil _
  | last _ hnewline => exact List.forall_mem_singleton.2 hnewline
  | feed hnewline _ _ ih => exact List.forall_mem_cons.2 ⟨hnewline, ih⟩
  | returnFeed hnewline _ ih => exact List.forall_mem_cons.2 ⟨hnewline, ih⟩

/-- A text has its lines and no others. -/
theorem lines_eq_iff {text : List Char} {texts : List (List Char)} :
    lines text = texts ↔ IsLines text texts := by
  constructor
  · rintro rfl
    exact isLines_lines text
  · intro h
    induction h with
    | done => rw [lines]
    | last hne hnewline => exact lines_of_notMem hne hnewline
    | feed hnewline hreturn _ ih => rw [lines_append_newline hnewline hreturn, ih]
    | returnFeed hnewline _ ih => rw [lines_append_return hnewline, ih]

theorem lines_eq_nil_iff {text : List Char} : lines text = [] ↔ text = [] := by
  rw [lines_eq_iff]
  constructor
  · intro h
    cases h
    rfl
  · rintro rfl
    exact .done

/-- Lines that are written one after the other, each with a line feed, are found again. -/
theorem lines_flatMap_newline {texts : List (List Char)}
    (htexts : ∀ line ∈ texts, '\n' ∉ line ∧ line.getLast? ≠ some '\r') :
    lines (texts.flatMap fun line => line ++ ['\n']) = texts := by
  induction texts with
  | nil => rw [List.flatMap_nil, lines]
  | cons line texts ih =>
    rw [List.forall_mem_cons] at htexts
    rw [List.flatMap_cons, List.append_assoc, List.singleton_append,
      lines_append_newline htexts.1.1 htexts.1.2, ih htexts.2]

end Piste.Text
