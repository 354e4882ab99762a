import Piste.Text.Style

/-!
# Text with escape sequences

What a terminal makes of a text: the characters that it shows, and the sequences that select a
rendition (`partsOf`). `Bracketed` says that every style is switched off by its own sequence, in the
reverse order of switching on. Then no style is active at the end (`Bracketed.activeAfter_nil`).

Styled spans come out so, whatever their styles are, as long as their texts hold no escape sequences
of their own (`bracketed_renderSpans`), and what is shown of them are their texts
(`shown_renderSpans`).
-/

namespace Piste.Text

/-- The character that an escape sequence begins with. -/
def escape : Char := '\x1b'

/-- Whether a text has no escape sequence, as it has not even the beginning of one. -/
def Clean (text : String) : Prop :=
  escape ∉ text.toList

instance (text : String) : Decidable (Clean text) :=
  inferInstanceAs (Decidable (¬ _))

theorem clean_ofList {cs : List Char} (h : escape ∉ cs) : Clean (String.ofList cs) := by
  rwa [Clean, String.toList_ofList]

/-- The form that a text in quotes has is `String.ofList`, and its characters are looked at one by
one. -/
theorem clean_literal {cs : List Char} (h : cs.all (· != escape) = true) :
    Clean (String.ofList cs) := by
  apply clean_ofList
  intro hmem
  exact absurd (List.all_eq_true.1 h escape hmem) (by decide)

theorem clean_append {s t : String} : Clean (s ++ t) ↔ Clean s ∧ Clean t := by
  simp [Clean]

/-! ## Reading -/

/-- A part of a text: a character that shows, or a sequence that selects a rendition. -/
inductive Part where
  | glyph (c : Char)
  | rendition (parameters : List Char)
  deriving DecidableEq

/-- The character that shows. -/
def Part.glyph? : Part → Option Char
  | glyph c => some c
  | rendition _ => none

/-- Whether a character belongs to the parameters of a sequence. -/
def isParameter (c : Char) : Bool :=
  c.isDigit || c == ';'

/-- The parameters of a sequence that selects a rendition, and the text after it, from the text
after its escape character. -/
def rendition? : List Char → Option (List Char × List Char)
  | '[' :: rest =>
    match rest.dropWhile isParameter with
    | 'm' :: more => some (rest.takeWhile isParameter, more)
    | _ => none
  | _ => none

theorem length_lt_of_rendition? {cs parameters more : List Char}
    (h : rendition? cs = some (parameters, more)) : more.length < cs.length := by
  unfold rendition? at h
  split at h
  · rename_i rest
    have hlength := (List.dropWhile_sublist isParameter (l := rest)).length_le
    split at h
    · rename_i hmore
      cases h
      rw [hmore, List.length_cons] at hlength
      rw [List.length_cons]
      omega
    · cases h
  · cases h

/-- The parts of a text. An escape character that begins no sequence shows as any other. -/
def partsOf : List Char → List Part
  | [] => []
  | c :: cs =>
    if c = escape then
      match h : rendition? cs with
      | some (parameters, more) =>
        have := length_lt_of_rendition? h
        .rendition parameters :: partsOf more
      | none => .glyph c :: partsOf cs
    else .glyph c :: partsOf cs
termination_by cs => cs.length

/-- The text without the sequences that select a rendition. -/
def shown (text : List Char) : List Char :=
  (partsOf text).filterMap Part.glyph?

theorem partsOf_append {cs : List Char} (hcs : escape ∉ cs) (rest : List Char) :
    partsOf (cs ++ rest) = cs.map .glyph ++ partsOf rest := by
  induction cs with
  | nil => rfl
  | cons c cs ih =>
    rw [List.mem_cons, not_or] at hcs
    rw [List.cons_append, partsOf, if_neg (Ne.symm hcs.1), ih hcs.2, List.map_cons,
      List.cons_append]

theorem partsOf_sequence {code : String} (hcode : ∀ c ∈ code.toList, isParameter c = true)
    (rest : List Char) :
    partsOf ((Style.sequence code).toList ++ rest) = .rendition code.toList :: partsOf rest := by
  have hread : rendition? ('[' :: (code.toList ++ 'm' :: rest)) = some (code.toList, rest) := by
    have hend : isParameter 'm' = false := rfl
    simp [rendition?, List.dropWhile_append_of_pos hcode, List.takeWhile_append_of_pos hcode, hend]
  have hsequence : (Style.sequence code).toList ++ rest =
      escape :: '[' :: (code.toList ++ 'm' :: rest) := by
    simp [Style.sequence, escape]
  rw [hsequence, partsOf, if_pos rfl]
  split
  · rename_i h
    rw [hread] at h
    cases h
    rfl
  · rename_i h
    rw [hread] at h
    cases h

theorem isParameter_of_mem_onCode (style : Style) :
    ∀ c ∈ style.onCode.toList, isParameter c = true := by
  rw [← List.all_eq_true]
  cases style <;> rfl

theorem isParameter_of_mem_offCode (style : Style) :
    ∀ c ∈ style.offCode.toList, isParameter c = true := by
  rw [← List.all_eq_true]
  cases style <;> rfl

/-! ## Brackets -/

/-- The parts of a text in which every style that is switched on is switched off again by its own
sequence, the inner ones first. -/
inductive Bracketed : List Part → Prop where
  | nil : Bracketed []
  | glyph {c : Char} {rest : List Part} (hrest : Bracketed rest) : Bracketed (.glyph c :: rest)
  | styled {style : Style} {inside rest : List Part} (hinside : Bracketed inside)
      (hrest : Bracketed rest) :
    Bracketed (.rendition style.onCode.toList ::
      (inside ++ .rendition style.offCode.toList :: rest))

theorem Bracketed.append {parts more : List Part} (h : Bracketed parts) (hmore : Bracketed more) :
    Bracketed (parts ++ more) := by
  induction h with
  | nil => exact hmore
  | glyph _ ih => exact .glyph ih
  | styled hinside _ _ ih =>
    rw [List.cons_append, List.append_assoc, List.cons_append]
    exact .styled hinside ih

theorem bracketed_map_glyph (cs : List Char) : Bracketed (cs.map .glyph) := by
  induction cs with
  | nil => exact .nil
  | cons c cs ih => exact .glyph ih

/-! ## Active styles -/

/-- Whether a style is a colour. -/
def Style.isColour : Style → Bool
  | bold | dimmed => false
  | red | green | yellow | cyan => true

/-- All styles. -/
def styles : List Style :=
  [.bold, .dimmed, .red, .green, .yellow, .cyan]

/-- The active styles without a colour. -/
def withoutColour (active : List Style) : List Style :=
  active.filter fun style => !style.isColour

/-- The active styles after one has been switched on. A colour takes the place of another. -/
def switchOn (active : List Style) (style : Style) : List Style :=
  style :: if style.isColour then withoutColour active else active

/-- The active styles after a sequence. There is one that switches off all styles, and one that
switches off colours. -/
def switch (active : List Style) (parameters : List Char) : List Style :=
  match styles.find? fun style => style.onCode.toList = parameters with
  | some style => switchOn active style
  | none =>
    if parameters = ['0'] then []
    else if parameters = ['3', '9'] then withoutColour active
    else active

/-- The active styles after a part of a text. -/
def Part.switch (active : List Style) : Part → List Style
  | glyph _ => active
  | rendition parameters => Text.switch active parameters

/-- The active styles after the parts of a text. -/
def activeAfter (active : List Style) (parts : List Part) : List Style :=
  parts.foldl Part.switch active

theorem switch_onCode (active : List Style) (style : Style) :
    switch active style.onCode.toList = switchOn active style := by
  cases style <;> rfl

theorem switch_offCode (active : List Style) (style : Style) :
    switch active style.offCode.toList = if style.isColour then withoutColour active else [] := by
  cases style <;> rfl

theorem switch_offCode_subset {active after : List Style} {style : Style}
    (h : after ⊆ switchOn active style) : switch after style.offCode.toList ⊆ active := by
  rw [switch_offCode]
  split
  · rename_i hcolour
    intro other hother
    obtain ⟨hmem, hplain⟩ := List.mem_filter.1 hother
    have hon := h hmem
    rw [switchOn, if_pos hcolour, List.mem_cons] at hon
    rcases hon with rfl | hon
    · simp [hcolour] at hplain
    · exact (List.mem_filter.1 hon).1
  · exact List.nil_subset _

/-- Text with brackets leaves no style active that was not active before. Some may be lost, since
weight is only switched off together with everything else. -/
theorem Bracketed.activeAfter_subset {parts : List Part} (h : Bracketed parts)
    (active : List Style) : activeAfter active parts ⊆ active := by
  induction h generalizing active with
  | nil => exact List.Subset.refl _
  | glyph _ ih => exact ih active
  | @styled style inside rest _ _ ihinside ihrest =>
    have hinside := ihinside (switchOn active style)
    have hrun : activeAfter active (.rendition style.onCode.toList ::
        (inside ++ .rendition style.offCode.toList :: rest)) =
        activeAfter (switch (activeAfter (switchOn active style) inside) style.offCode.toList)
          rest := by
      rw [activeAfter, List.foldl_cons, List.foldl_append, List.foldl_cons]
      simp only [Part.switch, switch_onCode]
      rfl
    rw [hrun]
    exact List.Subset.trans (ihrest _) (switch_offCode_subset hinside)

theorem Bracketed.activeAfter_nil {parts : List Part} (h : Bracketed parts) :
    activeAfter [] parts = [] :=
  List.subset_nil.1 (h.activeAfter_subset [])

/-! ## Spans -/

/-- The characters of the spans without their styles. -/
def glyphs (spans : List Span) : List Char :=
  spans.flatMap fun span => span.text.toList

/-- Whether the texts of the spans have no escape sequences. -/
def CleanSpans (spans : List Span) : Prop :=
  ∀ span ∈ spans, Clean span.text

instance (spans : List Span) : Decidable (CleanSpans spans) :=
  inferInstanceAs (Decidable (∀ span ∈ spans, Clean span.text))

theorem cleanSpans_nil : CleanSpans [] :=
  List.forall_mem_nil _

theorem cleanSpans_cons {span : Span} {spans : List Span} :
    CleanSpans (span :: spans) ↔ Clean span.text ∧ CleanSpans spans :=
  List.forall_mem_cons

theorem cleanSpans_append {spans more : List Span} :
    CleanSpans (spans ++ more) ↔ CleanSpans spans ∧ CleanSpans more :=
  List.forall_mem_append

/-- The parts of a span. -/
def Span.parts (span : Span) : List Part :=
  span.styles.foldr
    (fun style inside => .rendition style.onCode.toList ::
      (inside ++ [.rendition style.offCode.toList]))
    (span.text.toList.map .glyph)

theorem Span.parts_cons (style : Style) (styles : List Style) (text : String) :
    Span.parts ⟨style :: styles, text⟩ = .rendition style.onCode.toList ::
      (Span.parts ⟨styles, text⟩ ++ [.rendition style.offCode.toList]) :=
  rfl

theorem Span.bracketed_parts (span : Span) : Bracketed span.parts := by
  obtain ⟨styles, text⟩ := span
  induction styles with
  | nil => exact bracketed_map_glyph text.toList
  | cons style styles ih => exact .styled ih .nil

theorem Span.filterMap_parts (span : Span) :
    span.parts.filterMap Part.glyph? = span.text.toList := by
  obtain ⟨styles, text⟩ := span
  induction styles with
  | nil => simp [Span.parts, List.filterMap_map, Function.comp_def, Part.glyph?]
  | cons style styles ih =>
    rw [Span.parts_cons, List.filterMap_cons_none rfl, List.filterMap_append, ih]
    exact List.append_nil _

theorem partsOf_render {span : Span} (hspan : Clean span.text) (rest : List Char) :
    partsOf (span.render.toList ++ rest) = span.parts ++ partsOf rest := by
  obtain ⟨styles, text⟩ := span
  induction styles generalizing rest with
  | nil => exact partsOf_append hspan rest
  | cons style styles ih =>
    have hinside := ih ((Style.sequence style.offCode).toList ++ rest) hspan
    rw [partsOf_sequence (isParameter_of_mem_offCode style)] at hinside
    have hrender : (Span.mk (style :: styles) text).render.toList ++ rest =
        (Style.sequence style.onCode).toList ++
          ((Span.mk styles text).render.toList ++
            ((Style.sequence style.offCode).toList ++ rest)) := by
      simp [Span.render, Style.apply]
    rw [hrender, partsOf_sequence (isParameter_of_mem_onCode style), hinside, Span.parts_cons]
    simp

theorem partsOf_renderSpans {spans : List Span} (hspans : CleanSpans spans) :
    partsOf (renderSpans spans).toList = spans.flatMap Span.parts := by
  rw [renderSpans, String.toList_join, List.flatMap_map]
  induction spans with
  | nil => rw [List.flatMap_nil, partsOf, List.flatMap_nil]
  | cons span spans ih =>
    rw [cleanSpans_cons] at hspans
    rw [List.flatMap_cons, partsOf_render hspans.1, ih hspans.2, List.flatMap_cons]

theorem bracketed_renderSpans {spans : List Span} (hspans : CleanSpans spans) :
    Bracketed (partsOf (renderSpans spans).toList) := by
  rw [partsOf_renderSpans hspans]
  induction spans with
  | nil => exact .nil
  | cons span spans ih =>
    rw [cleanSpans_cons] at hspans
    exact span.bracketed_parts.append (ih hspans.2)

theorem shown_renderSpans {spans : List Span} (hspans : CleanSpans spans) :
    shown (renderSpans spans).toList = glyphs spans := by
  rw [shown, partsOf_renderSpans hspans, List.filterMap_flatMap]
  exact congrArg (List.flatMap · spans) (funext Span.filterMap_parts)

end Piste.Text
