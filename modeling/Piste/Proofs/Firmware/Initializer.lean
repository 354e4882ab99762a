import Piste.Proofs.Firmware.LineList
import Piste.Proofs.Text.TrimmedLines

/-!
# Initializers

The variable that holds a certificate is initialised with string literals, which stand between the
`=` of its definition and the semicolon. `initializer?` reads them, one literal after the other,
with white space between them.

* `Scan.foldlM_step_literal` takes the reader of one literal (`readLiteral`) over to the reader of
  many.
* `exists_initializer` gives the literals of a source: one for each byte, or one for each trimmed
  line.
* `denoted_eq_nil_iff` says when there is none. Then the source is no valid C, although it has been
  written without an error.
-/

namespace Piste.Firmware

/-! ## Reading an initializer -/

/-- How far an initializer has been read, and what its literals denote so far. -/
inductive Scan where
  /-- Between two literals. -/
  | between (literals : List (List UInt8))
  /-- In a literal. -/
  | within (literals : List (List UInt8)) (reader : Reader)
  /-- After the semicolon. -/
  | ended (literals : List (List UInt8))

namespace Scan

/-- One character of an initializer. -/
def step : Scan → Char → Option Scan
  | between literals, c =>
    if c = ';' then some (ended literals)
    else if c.isWhitespace then some (between literals)
    else (Reader.outside.step c).map (within literals)
  | within literals reader, c =>
    match reader.step c with
    | some (.closed bytes) => some (between (literals ++ [bytes]))
    | some reader => some (within literals reader)
    | none => none
  | ended literals, _ => some (ended literals)

/-- What has been read up to the semicolon. -/
def literals? : Scan → Option (List (List UInt8))
  | ended literals => some literals
  | _ => none

end Scan

/-- What the string literals between an `=` and the next semicolon denote. The text begins behind
the `=`. There must be nothing but literals and white space. -/
def initializer? (text : List Char) : Option (List (List UInt8)) :=
  (text.foldlM Scan.step (.between [])).bind Scan.literals?

/-- Once the first quote has been read, a literal is read to its end. -/
theorem Scan.foldlM_step_within {reader : Reader} {cs : List Char} {bytes : List UInt8}
    (hopen : ∀ closed, reader ≠ .closed closed)
    (hread : cs.foldlM Reader.step reader = some (.closed bytes)) (literals : List (List UInt8)) :
    cs.foldlM step (within literals reader) = some (between (literals ++ [bytes])) := by
  induction cs generalizing reader with
  | nil =>
    rw [List.foldlM_nil] at hread
    exact absurd (Option.some.inj hread) (hopen bytes)
  | cons c cs ih =>
    rw [List.foldlM_cons] at hread ⊢
    obtain ⟨next, hnext, hread⟩ := Option.bind_eq_some_iff.1 hread
    by_cases hclosed : ∃ closed, next = .closed closed
    · obtain ⟨closed, rfl⟩ := hclosed
      cases cs with
      | nil =>
        cases hread
        simp [step, hnext]
      | cons d cs => cases hread
    · have hwithin : step (within literals reader) c = some (within literals next) := by
        cases next with
        | closed closed => exact absurd ⟨closed, rfl⟩ hclosed
        | _ => simp [step, hnext]
      rw [hwithin]
      exact ih (fun closed h => hclosed ⟨closed, h⟩) hread

/-- A literal is read as such between others. -/
theorem Scan.foldlM_step_literal {literal : List Char} {bytes : List UInt8}
    (hliteral : readLiteral literal = some bytes) (literals : List (List UInt8)) :
    literal.foldlM step (between literals) = some (between (literals ++ [bytes])) := by
  obtain ⟨reader, hread, hbytes⟩ := Option.bind_eq_some_iff.1 hliteral
  obtain rfl : reader = .closed bytes := by
    cases reader with
    | closed closed =>
      cases hbytes
      rfl
    | _ => cases hbytes
  cases literal with
  | nil => cases hread
  | cons c cs =>
    rw [List.foldlM_cons] at hread ⊢
    obtain ⟨next, hnext, hread⟩ := Option.bind_eq_some_iff.1 hread
    have hquote : c = '"' ∧ next = .inside [] := by
      rw [Reader.step] at hnext
      split at hnext
      · cases hnext
        exact ⟨by assumption, rfl⟩
      · cases hnext
    obtain ⟨rfl, rfl⟩ := hquote
    exact foldlM_step_within (by simp) hread literals

section

variable {literals : List (List Char)} {values : List (List UInt8)}

theorem Scan.foldlM_step_flatMap
    (h : List.Forall₂ (fun literal value => readLiteral literal = some value) literals values)
    (earlier : List (List UInt8)) :
    (literals.flatMap fun literal => literal ++ ['\n']).foldlM step (between earlier) =
      some (between (earlier ++ values)) := by
  induction h generalizing earlier with
  | nil =>
    rw [List.append_nil]
    rfl
  | @cons literal value literals values hliteral _ ih =>
    rw [List.flatMap_cons, List.append_assoc, List.foldlM_append,
      foldlM_step_literal hliteral, List.append_cons earlier value values]
    exact ih _

theorem Scan.foldlM_step_intercalate
    (h : List.Forall₂ (fun literal value => readLiteral literal = some value) literals values)
    (earlier : List (List UInt8)) :
    (['\n'].intercalate literals).foldlM step (between earlier) =
      some (between (earlier ++ values)) := by
  induction h generalizing earlier with
  | nil =>
    rw [List.append_nil]
    rfl
  | @cons literal value literals values hliteral hmore ih =>
    cases hmore with
    | nil =>
      rw [List.intercalate_singleton]
      exact foldlM_step_literal hliteral earlier
    | @cons next nextValue literals values hnext hmore =>
      rw [List.intercalate_cons_cons, List.append_assoc, List.foldlM_append,
        foldlM_step_literal hliteral, List.append_cons earlier value (nextValue :: values)]
      exact ih _

end

/-- The initializer goes to the semicolon, whatever comes after it. -/
theorem initializer?_of_foldlM {text : List Char} {values : List (List UInt8)}
    (h : text.foldlM Scan.step (.between []) = some (.between values)) (rest : List Char) :
    initializer? ('\n' :: (text ++ ';' :: rest)) = some values := by
  have hended : rest.foldlM Scan.step (.ended values) = some (.ended values) := by
    induction rest with
    | nil => rfl
    | cons c rest ih => exact ih
  have hscan : ('\n' :: (text ++ ';' :: rest)).foldlM Scan.step (.between []) =
      some (.ended values) := by
    change (text ++ ';' :: rest).foldlM Scan.step (.between []) = _
    rw [List.foldlM_append, h]
    exact hended
  rw [initializer?, hscan]
  rfl

/-! ## The initializers of sources -/

/-- A source up to the `=` of the definition of its variable. -/
def opening (style : CertificateStyle) (name : List Char) : List Char :=
  match style with
  | .bytes => "#include <stddef.h>\n\nconst char ".toList ++ name ++ "[] =".toList
  | .lines => "#include <stdio.h>\nconst char* ".toList ++ name ++ " =".toList

/-- What the literals of a source denote: each a byte, or each a trimmed line and a line feed. -/
def denoted (style : CertificateStyle) (content : List UInt8) : List (List UInt8) :=
  match style with
  | .bytes => content.map fun byte => [byte]
  | .lines => (Text.trimmedLines (Text.Utf8.decodeLossy content)).map fun line =>
      Text.Utf8.encode (String.ofList (line ++ ['\n']))

/-- Only the trimmed line goes into its literal. -/
theorem lineLiteral_trim (line : List Char) : lineLiteral (Text.trim line) = lineLiteral line := by
  rw [lineLiteral, Text.trim_trim, lineLiteral]

theorem map_lineLiteral_certificateLines (content : List UInt8) :
    (certificateLines content).map lineLiteral =
      (Text.trimmedLines (Text.Utf8.decodeLossy content)).map lineLiteral := by
  rw [certificateLines, Text.trimmedLines, List.map_map]
  exact List.map_congr_left fun line _ => (lineLiteral_trim line).symm

theorem forall₂_readLiteral_byteLiteral (content : List UInt8) :
    List.Forall₂ (fun literal value => readLiteral literal = some value)
      (content.map byteLiteral) (denoted .bytes content) := by
  rw [denoted, List.forall₂_map_left_iff, List.forall₂_map_right_iff, List.forall₂_same]
  exact fun byte _ => readLiteral_byteLiteral byte

theorem forall₂_readLiteral_lineLiteral (content : List UInt8) :
    List.Forall₂ (fun literal value => readLiteral literal = some value)
      ((certificateLines content).map lineLiteral) (denoted .lines content) := by
  rw [map_lineLiteral_certificateLines, denoted, List.forall₂_map_left_iff,
    List.forall₂_map_right_iff, List.forall₂_same]
  intro line hline
  have htrim : Text.trim line = line := by
    obtain ⟨whole, -, rfl⟩ := List.mem_map.1 hline
    exact Text.trim_trim whole
  have hnewline : '\n' ∉ Text.trim line := by
    rw [htrim]
    exact Text.newline_notMem_of_mem_trimmedLines hline
  rw [readLiteral_lineLiteral hnewline, htrim]

theorem bytesSource_eq_opening (name : List Char) (content : List UInt8) :
    ∃ rest, bytesSource name content = opening .bytes name ++
      '\n' :: (((content.map byteLiteral).flatMap fun literal => literal ++ ['\n']) ++
        ';' :: rest) := by
  have hequals : "[] =\n".toList = "[] =".toList ++ ['\n'] := by decide
  have hend : ";\nconst size_t ".toList = ';' :: "\nconst size_t ".toList := by decide
  refine ⟨"\nconst size_t ".toList ++ name ++ "_len = sizeof(".toList ++ name ++
    ") - 1;\n".toList, ?_⟩
  unfold bytesSource opening
  simp only [hequals, hend, List.flatMap_map, List.append_assoc, List.cons_append,
    List.nil_append]

theorem linesSource_eq_opening (name : List Char) (content : List UInt8) :
    linesSource name content = opening .lines name ++
      '\n' :: (['\n'].intercalate ((certificateLines content).map lineLiteral) ++
        ';' :: ['\n']) := by
  have hequals : " =\n".toList = " =".toList ++ ['\n'] := by decide
  have hend : ";\n".toList = [';', '\n'] := by decide
  unfold linesSource opening
  simp only [hequals, hend, List.append_assoc, List.cons_append, List.nil_append]

/-- A source defines its variable with these literals. -/
theorem exists_initializer {content : List UInt8} {name : String} {style : CertificateStyle}
    {source : String} (hsource : certificateSource content name style = .ok source) :
    ∃ rest, source.toList = opening style name.toList ++ rest ∧
      initializer? rest = some (denoted style content) := by
  unfold certificateSource at hsource
  split at hsource
  · cases hsource
    rw [String.toList_ofList]
    cases style with
    | bytes =>
      obtain ⟨rest, hrest⟩ := bytesSource_eq_opening name.toList content
      have hscan := Scan.foldlM_step_flatMap (forall₂_readLiteral_byteLiteral content) []
      exact ⟨_, hrest, initializer?_of_foldlM hscan rest⟩
    | lines =>
      have hscan := Scan.foldlM_step_intercalate (forall₂_readLiteral_lineLiteral content) []
      exact ⟨_, linesSource_eq_opening name.toList content, initializer?_of_foldlM hscan ['\n']⟩
  · cases hsource

/-! ## Sources without a literal -/

/-- Nothing of a certificate is written: it has no bytes, or no characters but blanks. -/
def LeavesNothing (style : CertificateStyle) (content : List UInt8) : Prop :=
  match style with
  | .bytes => content = []
  | .lines => ∀ c ∈ Text.Utf8.decodeLossy content, Text.isBlank c = true

theorem denoted_eq_nil_iff {style : CertificateStyle} {content : List UInt8} :
    denoted style content = [] ↔ LeavesNothing style content := by
  cases style with
  | bytes => exact List.map_eq_nil_iff
  | lines => exact List.map_eq_nil_iff.trans Text.trimmedLines_eq_nil_iff

/-- The variable of a source is initialised with one literal at least, unless nothing of the
certificate is written. Then nothing is between the `=` and the semicolon. -/
theorem initializer_ne_nil_iff {content : List UInt8} {name : String} {style : CertificateStyle}
    {source : String} (hsource : certificateSource content name style = .ok source) :
    ∃ rest literals, source.toList = opening style name.toList ++ rest ∧
      initializer? rest = some literals ∧ (literals ≠ [] ↔ ¬ LeavesNothing style content) := by
  obtain ⟨rest, hrest, hread⟩ := exists_initializer hsource
  exact ⟨rest, _, hrest, hread, not_congr denoted_eq_nil_iff⟩

/-- A zero byte is enough for an initializer. -/
theorem initializer_ne_nil_of_zero :
    ∃ source, certificateSource [0x00] "pem" .bytes = .ok source ∧
      ∃ rest literals, source.toList = opening .bytes "pem".toList ++ rest ∧
        initializer? rest = some literals ∧ literals ≠ [] := by
  have hsource : certificateSource [0x00] "pem" .bytes =
      .ok (String.ofList (bytesSource "pem".toList [0x00])) := by
    rw [certificateSource, if_pos (by decide)]
  obtain ⟨rest, literals, hrest, hread, hne⟩ := initializer_ne_nil_iff hsource
  exact ⟨_, hsource, rest, literals, hrest, hread, hne.2 (List.cons_ne_nil _ _)⟩

/-- A source of an empty file is written, and defines its variable with no literal at all. -/
theorem not_forall_initialized :
    ¬ ∀ (content : List UInt8) (name : String) (style : CertificateStyle) (source : String),
      certificateSource content name style = .ok source →
        ∃ rest literals, source.toList = opening style name.toList ++ rest ∧
          initializer? rest = some literals ∧ literals ≠ [] := by
  intro h
  have hsource : certificateSource [] "pem" .bytes =
      .ok (String.ofList (bytesSource "pem".toList [])) := by
    rw [certificateSource, if_pos (by decide)]
  obtain ⟨rest, literals, hrest, hread, hne⟩ := h [] "pem" .bytes _ hsource
  obtain ⟨rest', hrest', hread'⟩ := exists_initializer hsource
  obtain rfl : rest = rest' := List.append_cancel_left (hrest.symm.trans hrest')
  rw [hread] at hread'
  exact hne (Option.some.inj hread')

end Piste.Firmware
