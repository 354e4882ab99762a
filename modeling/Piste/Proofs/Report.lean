import Mathlib.Data.List.Infix
import Piste.Proofs.Messages

/-!
# Reports

Every report on a failure ends its last line, leaves no style switched on, and names what it is
about: the cause, and the file, terminal or set that has to be changed (`reported_text`). This holds
as long as the strings of the error bring no escape sequences of their own.
-/

namespace Piste

open Diagram Firmware Text

/-! ## What an error is about -/

namespace LayoutFileError

/-- The strings that the error holds. -/
def strings : LayoutFileError → List String
  | notFound path => [path]
  | unreadable error => error.strings
  | invalid error => error.strings
  | unknownLabelTerminal id => [id]
  | duplicateSet name | unknownSet name => [name]
  | layout error => error.strings

/-- What the report on the error with the layout file at `path` names. -/
def mentions (path : String) : LayoutFileError → List String
  | notFound _ | unreadable _ | invalid _ => [path]
  | unknownLabelTerminal id => [path, id]
  | duplicateSet name | unknownSet name => [path, name]
  | layout (.missingDistance left right) => [(LayoutError.missingDistance left right).message, path]
  | layout error => [error.message]

end LayoutFileError

/-- What the report on the error names. Files that are missing stand each on a line of its own. -/
def Firmware.PackageError.mentions : PackageError → List String
  | missingInputs paths => [String.join (paths.map fun path => "  missing " ++ path ++ "\n")]
  | error => [error.message]

namespace CommandError

/-- The strings that the error holds. -/
def strings : CommandError → List String
  | io context error => context :: error.strings
  | layoutFile path error => path :: error.strings
  | draw path set error => path :: set :: error.strings
  | certificate error => error.strings
  | package error => error.strings

/-- What the report on the error names. -/
def mentions : CommandError → List String
  | io context error => [context, error.message]
  | layoutFile path error => error.mentions path
  | draw _ set error => [error.message, set]
  | certificate error => [error.message]
  | package error => error.mentions

end CommandError

namespace Report

theorem parts_nil : parts [] = [] :=
  rfl

theorem parts_cons (part : List Span) (more : List (List Span)) :
    parts (part :: more) = part ++ parts more :=
  rfl

/-! ## Texts without escape sequences -/

theorem clean_advice : CleanSpans advice := by
  simp only [advice, cleanSpans_cons, cleanSpans_nil, Span.plain, Style.span, and_true]
  and_intros <;> exact clean_literal rfl

theorem clean_layoutHint {path : String} {error : LayoutError} {hint : List Span}
    (hpath : Clean path) (h : ∀ s ∈ error.strings, Clean s)
    (hhint : layoutHint? path error = some hint) : CleanSpans hint := by
  unfold layoutHint? at hhint
  split at hhint <;> cases hhint <;> simp only [LayoutError.strings, List.forall_mem_cons] at h
  all_goals
    simp only [cleanSpans_cons, cleanSpans_nil, Span.plain, Style.span, clean_append,
      toString_eq_self, hpath, h, true_and, and_true]
    and_intros <;> exact clean_literal rfl

theorem clean_layoutError {path : String} {error : LayoutError} (hpath : Clean path)
    (h : ∀ s ∈ error.strings, Clean s) : CleanSpans (layoutError path error) := by
  have hmessage := LayoutError.clean_message h
  unfold layoutError
  split
  · rename_i hint hhint
    have hhint := clean_layoutHint hpath h hhint
    simp only [parts_cons, parts_nil, cleanSpans_append, clean_advice, hhint, cleanSpans_cons,
      cleanSpans_nil, Span.plain, clean_append, hmessage, true_and, and_true]
    and_intros <;> exact clean_literal rfl
  · simp only [cleanSpans_cons, cleanSpans_nil, Span.plain, clean_append, hmessage, true_and,
      and_true]
    exact clean_literal rfl

theorem clean_layoutFileError {path : String} {error : LayoutFileError} (hpath : Clean path)
    (h : ∀ s ∈ error.strings, Clean s) : CleanSpans (layoutFileError path error) := by
  cases error <;> unfold layoutFileError <;>
    simp only [LayoutFileError.strings, List.forall_mem_cons] at h
  case unreadable error =>
    simp only [cleanSpans_cons, cleanSpans_nil, Span.plain, Style.span, hpath,
      Host.IoError.clean_message h, true_and, and_true]
    and_intros <;> exact clean_literal rfl
  case invalid error =>
    simp only [cleanSpans_cons, cleanSpans_nil, Span.plain, Style.span, hpath,
      Yaml.ReadError.clean_message h, true_and, and_true]
    and_intros <;> exact clean_literal rfl
  case layout error => exact clean_layoutError hpath h
  all_goals
    simp only [parts_cons, parts_nil, cleanSpans_append, clean_advice, cleanSpans_cons,
      cleanSpans_nil, Span.plain, Style.span, hpath, h, true_and, and_true]
    and_intros <;> exact clean_literal rfl

theorem clean_drawError {path set : String} {error : DrawError} (hpath : Clean path)
    (hset : Clean set) (h : ∀ s ∈ error.strings, Clean s) :
    CleanSpans (drawError path set error) := by
  have hmessage := DrawError.clean_message h
  cases error <;> unfold drawError drawHint <;>
    simp only [DrawError.strings, List.forall_mem_cons] at h
  all_goals
    simp only [parts_cons, parts_nil, cleanSpans_append, clean_advice, cleanSpans_cons,
      cleanSpans_nil, Span.plain, Style.span, clean_append, toString_eq_self, hmessage, hpath, hset,
      h, true_and, and_true]
    and_intros <;> exact clean_literal rfl

theorem clean_certificateError {error : CertificateError} (h : ∀ s ∈ error.strings, Clean s) :
    CleanSpans (certificateError error) := by
  have hmessage := CertificateError.clean_message h
  cases error <;> unfold certificateError certificateHint <;>
    simp only [CertificateError.strings, List.forall_mem_cons] at h
  all_goals
    simp only [parts_cons, parts_nil, cleanSpans_append, clean_advice, cleanSpans_cons,
      cleanSpans_nil, Span.plain, Style.span, clean_append, hmessage, h, true_and, and_true]
    and_intros <;> exact clean_literal rfl

theorem clean_missingInput {path : String} (hpath : Clean path) :
    CleanSpans (missingInput path) := by
  simp only [missingInput, cleanSpans_cons, cleanSpans_nil, Span.plain, Style.span, hpath, true_and,
    and_true]
  and_intros <;> exact clean_literal rfl

theorem clean_packageError {error : PackageError} (h : ∀ s ∈ error.strings, Clean s) :
    CleanSpans (packageError error) := by
  have hmessage := PackageError.clean_message h
  cases error <;> unfold packageError <;>
    simp only [PackageError.strings, List.forall_mem_cons] at h
  case missingInputs paths =>
    have hmissing : CleanSpans (paths.flatMap missingInput) := by
      intro span hspan
      obtain ⟨path, hpath, hmem⟩ := List.mem_flatMap.1 hspan
      exact clean_missingInput (h path hpath) span hmem
    simp only [parts_cons, parts_nil, cleanSpans_append, clean_advice, cleanSpans_cons,
      cleanSpans_nil, Span.plain, Style.span, hmissing, true_and, and_true]
    and_intros <;> exact clean_literal rfl
  all_goals
    simp only [parts_cons, parts_nil, cleanSpans_append, clean_advice, cleanSpans_cons,
      cleanSpans_nil, Span.plain, Style.span, clean_append, hmessage, h, true_and, and_true]
    and_intros <;> exact clean_literal rfl

/-! ## Ends of lines -/

/-- Whether the last span is a plain one that ends in a line feed. -/
def EndsLine (spans : List Span) : Prop :=
  ∃ text, spans.getLast? = some (Span.plain text) ∧ text.toList.getLast? = some '\n'

theorem EndsLine.append {spans : List Span} (h : EndsLine spans) (before : List Span) :
    EndsLine (before ++ spans) := by
  obtain ⟨text, hspan, htext⟩ := h
  refine ⟨text, ?_, htext⟩
  rw [List.getLast?_append, hspan, Option.some_or]

theorem EndsLine.getLast?_renderSpans {spans : List Span} (h : EndsLine spans) :
    (renderSpans spans).toList.getLast? = some '\n' := by
  obtain ⟨text, hspan, htext⟩ := h
  obtain ⟨before, rfl⟩ := List.getLast?_eq_some_iff.1 hspan
  have hrender : (renderSpans (before ++ [Span.plain text])).toList =
      (renderSpans before).toList ++ text.toList := by
    simp [renderSpans, Span.render, Span.plain]
  rw [hrender, List.getLast?_append, htext, Option.some_or]

theorem getLast?_ofList {cs : List Char} (h : cs.getLast? = some '\n') :
    (String.ofList cs).toList.getLast? = some '\n' := by
  rwa [String.toList_ofList]

theorem getLast?_newline (s : String) : (s ++ "\n").toList.getLast? = some '\n' := by
  simp

theorem endsLine_layoutError (path : String) (error : LayoutError) :
    EndsLine (layoutError path error) := by
  unfold layoutError
  split
  · rename_i hint _
    have hline : EndsLine (parts [hint, ["\n"]]) :=
      EndsLine.append ⟨_, rfl, getLast?_ofList rfl⟩ hint
    simp only [parts_cons] at hline ⊢
    exact ((hline.append _).append _).append _
  · exact ⟨_, rfl, getLast?_newline _⟩

theorem endsLine_layoutFileError (path : String) (error : LayoutFileError) :
    EndsLine (layoutFileError path error) := by
  cases error
  case layout error => exact endsLine_layoutError path error
  all_goals exact ⟨_, rfl, getLast?_ofList rfl⟩

theorem endsLine_drawError (path set : String) (error : DrawError) :
    EndsLine (drawError path set error) := by
  cases error <;> exact ⟨_, rfl, getLast?_ofList rfl⟩

theorem endsLine_certificateError (error : CertificateError) :
    EndsLine (certificateError error) := by
  cases error
  case inputNotFound | invalidIdentifier => exact ⟨_, rfl, getLast?_ofList rfl⟩
  all_goals exact ⟨_, rfl, getLast?_newline _⟩

theorem endsLine_packageError (error : PackageError) : EndsLine (packageError error) := by
  cases error
  case missingInputs paths =>
    -- How many lines there are for files is not known, but the advice comes after them.
    change EndsLine ([_, _] ++ (paths.flatMap missingInput ++ parts [advice, _]))
    exact EndsLine.append (EndsLine.append ⟨_, rfl, getLast?_ofList rfl⟩ _) _
  case start => exact ⟨_, rfl, getLast?_ofList rfl⟩
  all_goals exact ⟨_, rfl, getLast?_newline _⟩

/-! ## Names -/

theorem infix_append (s t : String) : s.toList <:+: (s ++ t).toList := by
  rw [String.toList_append]
  exact (List.prefix_append _ _).isInfix

theorem infix_glyphs {spans : List Span} {s text : String} (htext : text ∈ spans.map Span.text)
    (hs : s.toList <:+: text.toList) : s.toList <:+: glyphs spans := by
  obtain ⟨span, hspan, rfl⟩ := List.mem_map.1 htext
  exact hs.trans (List.infix_of_mem_flatten (List.mem_map_of_mem hspan))

theorem forall_infix_glyphs {spans : List Span} {names : List String}
    (h : ∀ s ∈ names, s ∈ spans.map Span.text) : ∀ s ∈ names, s.toList <:+: glyphs spans :=
  fun s hs => infix_glyphs (h s hs) List.infix_rfl

theorem infix_ioError (context : String) (error : Host.IoError) :
    ∀ s ∈ [context, error.message],
      s.toList <:+: glyphs [Span.plain (context ++ ": " ++ error.message ++ "\n")] := by
  have hcontext : context.toList <:+: (context ++ ": " ++ error.message ++ "\n").toList := by
    rw [String.append_assoc, String.append_assoc]
    exact infix_append context _
  have hmessage : error.message.toList <:+: (context ++ ": " ++ error.message ++ "\n").toList := by
    rw [String.toList_append, String.toList_append]
    exact List.infix_append _ _ _
  simp only [List.forall_mem_cons]
  exact ⟨infix_glyphs List.mem_cons_self hcontext, infix_glyphs List.mem_cons_self hmessage,
    List.forall_mem_nil _⟩

theorem infix_layoutError (path : String) (error : LayoutError) :
    error.message.toList <:+: glyphs (layoutError path error) := by
  refine infix_glyphs ?_ (infix_append error.message "\n")
  unfold layoutError
  split <;> simp [parts, Span.plain]

theorem infix_layoutFileError (path : String) (error : LayoutFileError) :
    ∀ s ∈ error.mentions path, s.toList <:+: glyphs (layoutFileError path error) := by
  cases error
  case layout error =>
    cases error
    case missingDistance left right =>
      simp only [LayoutFileError.mentions, List.forall_mem_cons]
      refine ⟨infix_layoutError path _, infix_glyphs ?_ List.infix_rfl, List.forall_mem_nil _⟩
      simp [layoutFileError, layoutError, layoutHint?, parts, Style.span]
    all_goals
      simp only [LayoutFileError.mentions, List.forall_mem_singleton]
      exact infix_layoutError path _
  all_goals
    refine forall_infix_glyphs ?_
    simp [LayoutFileError.mentions, layoutFileError, parts, Style.span]

theorem infix_drawError (path set : String) (error : DrawError) :
    ∀ s ∈ [error.message, set], s.toList <:+: glyphs (drawError path set error) := by
  refine forall_infix_glyphs ?_
  simp [drawError, parts, Span.plain, Style.span]

theorem infix_certificateError (error : CertificateError) :
    error.message.toList <:+: glyphs (certificateError error) := by
  refine infix_glyphs ?_ (infix_append error.message "\n")
  simp [certificateError, parts, Span.plain]

theorem infix_missingInputs (paths : List String) (before after : List Span) :
    (String.join (paths.map fun path => "  missing " ++ path ++ "\n")).toList <:+:
      glyphs (before ++ (paths.flatMap missingInput ++ after)) := by
  have hline (path : String) :
      glyphs (missingInput path) = ("  missing " ++ path ++ "\n").toList := by
    -- The word is a span of its own, and so are the blanks on both sides of it.
    have hword : "  ".toList ++ ("missing".toList ++ " ".toList) = "  missing ".toList := by
      decide
    rw [String.toList_append, String.toList_append, ← hword]
    simp [glyphs, missingInput, Span.plain, Style.span]
  have hlines : (String.join (paths.map fun path => "  missing " ++ path ++ "\n")).toList =
      glyphs (paths.flatMap missingInput) := by
    rw [String.toList_join, List.flatMap_map, glyphs, List.flatMap_assoc]
    exact congrArg (List.flatMap · paths) (funext fun path => (hline path).symm)
  rw [hlines]
  exact List.IsInfix.flatMap (List.infix_append' _ _ _) _

theorem infix_packageError (error : PackageError) :
    ∀ s ∈ error.mentions, s.toList <:+: glyphs (packageError error) := by
  cases error
  case missingInputs paths =>
    simp only [PackageError.mentions, List.forall_mem_singleton]
    exact infix_missingInputs paths _ _
  all_goals
    simp only [PackageError.mentions, List.forall_mem_singleton]
    refine infix_glyphs ?_ (infix_append _ "\n")
    simp [packageError, parts, Span.plain]

end Report

namespace CommandError

theorem clean_report {error : CommandError} (h : ∀ s ∈ error.strings, Clean s) :
    CleanSpans error.report := by
  have hlabel : CleanSpans Report.label := by
    decide
  unfold report
  rw [cleanSpans_append]
  refine ⟨hlabel, ?_⟩
  cases error with
  | io context error =>
    rw [strings, List.forall_mem_cons] at h
    simp only [cleanSpans_cons, cleanSpans_nil, Span.plain, clean_append, h,
      Host.IoError.clean_message h.2, true_and, and_true]
    and_intros <;> exact clean_literal rfl
  | layoutFile path error =>
    rw [strings, List.forall_mem_cons] at h
    exact Report.clean_layoutFileError h.1 h.2
  | draw path set error =>
    rw [strings, List.forall_mem_cons, List.forall_mem_cons] at h
    exact Report.clean_drawError h.1 h.2.1 h.2.2
  | certificate error => exact Report.clean_certificateError h
  | package error => exact Report.clean_packageError h

theorem endsLine_report (error : CommandError) : Report.EndsLine error.report := by
  refine Report.EndsLine.append ?_ Report.label
  cases error with
  | io context error => exact ⟨_, rfl, Report.getLast?_newline _⟩
  | layoutFile path error => exact Report.endsLine_layoutFileError path error
  | draw path set error => exact Report.endsLine_drawError path set error
  | certificate error => exact Report.endsLine_certificateError error
  | package error => exact Report.endsLine_packageError error

theorem infix_report (error : CommandError) :
    ∀ s ∈ error.mentions, s.toList <:+: glyphs error.report := by
  have hlabel (rest : List Span) : glyphs rest <:+: glyphs (Report.label ++ rest) :=
    List.IsInfix.flatMap (List.suffix_append _ _).isInfix _
  intro s hs
  refine List.IsInfix.trans ?_ (hlabel _)
  cases error with
  | io context error => exact Report.infix_ioError context error s hs
  | layoutFile path error => exact Report.infix_layoutFileError path error s hs
  | draw path set error => exact Report.infix_drawError path set error s hs
  | certificate error =>
    rw [mentions, List.mem_singleton] at hs
    rw [hs]
    exact Report.infix_certificateError error
  | package error => exact Report.infix_packageError error s hs

/-- What is asked of the text of a report on the error. -/
structure Reported (error : CommandError) (text : List Char) : Prop where
  endsLine : text.getLast? = some '\n'
  bracketed : Bracketed (partsOf text)
  noneActive : activeAfter [] (partsOf text) = []
  label : "error: ".toList <+: shown text
  names : ∀ s ∈ error.mentions, s.toList <:+: shown text

/-- The report on every error is as it has to be. -/
theorem reported_text {error : CommandError} (h : ∀ s ∈ error.strings, Clean s) :
    error.Reported error.text.toList := by
  have hclean := clean_report h
  have hbracketed := bracketed_renderSpans hclean
  have hshown : shown error.text.toList = glyphs error.report := shown_renderSpans hclean
  have hends := error.endsLine_report.getLast?_renderSpans
  refine ⟨hends, hbracketed, hbracketed.activeAfter_nil, ?_, ?_⟩
  · have hlabel : "error: ".toList = glyphs Report.label := by
      decide
    rw [hshown, hlabel]
    exact List.IsPrefix.flatMap (List.prefix_append _ _) _
  · rw [hshown]
    exact error.infix_report

theorem reported_missing_inputs :
    let error := CommandError.package (.missingInputs ["boot.bin", "piste.bin"])
    (∀ s ∈ error.strings, Clean s) ∧ error.Reported error.text.toList :=
  ⟨by decide, reported_text (by decide)⟩

end CommandError

end Piste
