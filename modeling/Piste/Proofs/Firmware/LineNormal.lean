import Piste.Proofs.Firmware.Initializer
import Piste.Proofs.Text.Utf8

/-!
# Certificates by lines are normal forms

A source by lines depends on the trimmed lines of the certificate only (`certificateSource_congr`).
So it stays the same when the certificate is replaced by what the literals of the source denote, and
when blanks are put in next to line feeds (`lines_source_normal`).
-/

namespace Piste.Firmware

/-- Certificates with the same trimmed lines have the same source. -/
theorem certificateSource_congr {content content' : List UInt8}
    (hlines : Text.trimmedLines (Text.Utf8.decodeLossy content) =
      Text.trimmedLines (Text.Utf8.decodeLossy content')) (name : String) :
    certificateSource content name .lines = certificateSource content' name .lines := by
  have hsource : linesSource name.toList content = linesSource name.toList content' := by
    unfold linesSource
    rw [map_lineLiteral_certificateLines, hlines, ← map_lineLiteral_certificateLines]
  rw [certificateSource, certificateSource, hsource]

/-- What the literals of a source by lines denote: the trimmed lines, one after the other. -/
def decoded (content : List UInt8) : String :=
  String.ofList ((Text.trimmedLines (Text.Utf8.decodeLossy content)).flatMap fun line =>
    line ++ ['\n'])

theorem flatten_denoted (content : List UInt8) :
    (denoted .lines content).flatten = Text.Utf8.encode (decoded content) := by
  rw [denoted, decoded, Text.Utf8.encode, String.toList_ofList, List.flatMap_assoc,
    ← List.flatMap_def]
  refine congrArg List.flatten (List.map_congr_left fun line _ => ?_)
  rw [Text.Utf8.encode, String.toList_ofList]

theorem trimmedLines_decoded (content : List UInt8) :
    Text.trimmedLines (Text.Utf8.decodeLossy (Text.Utf8.encode (decoded content))) =
      Text.trimmedLines (Text.Utf8.decodeLossy content) := by
  rw [Text.Utf8.decodeLossy_encode, decoded, String.toList_ofList, Text.trimmedLines_written]

theorem trimmedLines_of_padded {text padded : String}
    (h : Text.Padded text.toList padded.toList) :
    Text.trimmedLines (Text.Utf8.decodeLossy (Text.Utf8.encode padded)) =
      Text.trimmedLines (Text.Utf8.decodeLossy (Text.Utf8.encode text)) := by
  rw [Text.Utf8.decodeLossy_encode, Text.Utf8.decodeLossy_encode, h.trimmedLines_eq]

/-- The source of what a source denotes is this source. Nor is it another one if blanks are put in
next to the line feeds of the certificate, such as the carriage returns of another system. -/
theorem lines_source_normal {name : String} (hname : isIdentifier name = true) :
    (∀ content, ∃ source rest literals text,
      certificateSource content name .lines = .ok source ∧
      source.toList = opening .lines name.toList ++ rest ∧ initializer? rest = some literals ∧
      literals.flatten = Text.Utf8.encode text ∧
      certificateSource (Text.Utf8.encode text) name .lines = .ok source) ∧
    (∀ text padded : String, Text.Padded text.toList padded.toList → ∃ source,
      certificateSource (Text.Utf8.encode text) name .lines = .ok source ∧
      certificateSource (Text.Utf8.encode padded) name .lines = .ok source) ∧
    ∀ text returns : String, returns.toList = Text.withReturns text.toList → ∃ source,
      certificateSource (Text.Utf8.encode text) name .lines = .ok source ∧
      certificateSource (Text.Utf8.encode returns) name .lines = .ok source := by
  have hok : ∀ content, ∃ source, certificateSource content name .lines = .ok source :=
    fun content => ⟨_, by rw [certificateSource, if_pos hname]⟩
  have hpadded : ∀ text padded : String, Text.Padded text.toList padded.toList → ∃ source,
      certificateSource (Text.Utf8.encode text) name .lines = .ok source ∧
      certificateSource (Text.Utf8.encode padded) name .lines = .ok source := by
    intro text padded h
    obtain ⟨source, hsource⟩ := hok (Text.Utf8.encode text)
    have hsame := certificateSource_congr (trimmedLines_of_padded h) name
    exact ⟨source, hsource, hsame.trans hsource⟩
  refine ⟨fun content => ?_, hpadded, fun text returns hreturns => ?_⟩
  · obtain ⟨source, hsource⟩ := hok content
    obtain ⟨rest, hrest, hread⟩ := exists_initializer hsource
    have hsame := certificateSource_congr (trimmedLines_decoded content) name
    exact ⟨source, rest, _, decoded content, hsource, hrest, hread, flatten_denoted content,
      hsame.trans hsource⟩
  · apply hpadded
    rw [hreturns]
    exact Text.padded_withReturns text.toList

/-- A blank and a carriage return before a line feed, and a tab behind it, do not show. -/
theorem lines_source_normal_padded :
    isIdentifier "pem" = true ∧ ∃ source,
      certificateSource [0x61, 0x0A, 0x62] "pem" .lines = .ok source ∧
      certificateSource [0x61, 0x20, 0x0D, 0x0A, 0x09, 0x62] "pem" .lines = .ok source := by
  have hname : isIdentifier "pem" = true := by decide
  have hpadded : Text.Padded "a\nb".toList "a \r\n\tb".toList := by
    refine .char (by decide) ?_
    refine @Text.Padded.feed [' ', '\r'] ['\t'] _ _ ?_ ?_ (.char (by decide) .nil)
    · exact List.forall_mem_cons.2 ⟨⟨rfl, by decide⟩, List.forall_mem_singleton.2 ⟨rfl, by decide⟩⟩
    · exact List.forall_mem_singleton.2 ⟨rfl, by decide⟩
  exact ⟨hname, (lines_source_normal hname).2.1 "a\nb" "a \r\n\tb" hpadded⟩

end Piste.Firmware
