import Mathlib.Data.List.Forall2
import Piste.Proofs.Firmware.StringLiteral
import Piste.Proofs.Text.Blank

/-!
# Certificates as lines of text

The source that holds a certificate as text has one string literal for each line. Quotes and
backslashes are escaped, so that a line is read back as it is (`readLiteral_lineLiteral`) and does
not end its literal, whatever it contains (`afterQuote?_lineLiteral`).

`lines_source_denotes` says this of the source as a whole, for every sequence of bytes. What the
lines are, and what is left of them, is said by `Text.IsLines` and `Text.Trims`.
-/

namespace Piste.Firmware

/-- What stands behind the first quote that no backslash escapes. -/
def afterQuote? : List Char → Option (List Char)
  | [] => none
  | '\\' :: _ :: rest => afterQuote? rest
  | '"' :: rest => some rest
  | _ :: rest => afterQuote? rest

/-- `literal` is one string literal, written on one line, that denotes `text`. The first quote in it
that is not escaped is its last character, whatever stands behind the literal. -/
structure IsLiteralOf (literal text : List Char) : Prop where
  opened : literal.head? = some '"'
  oneLine : '\n' ∉ literal
  closed : ∀ rest, afterQuote? (literal.tail ++ rest) = some rest
  denotes : ∀ other, readLiteral literal = some (Text.Utf8.encode other) ↔
    other = String.ofList text

/-! ## Escapes -/

/-- Different texts have different bytes. -/
theorem encode_injective {text other : String}
    (h : Text.Utf8.encode text = Text.Utf8.encode other) : text = other := by
  rw [← String.toByteArray_inj, ← String.utf8Encode_toList, ← String.utf8Encode_toList]
  exact congrArg List.toByteArray h

theorem lineChar_cases (c : Char) :
    (c = '\\' ∨ c = '"') ∧ lineChar c = ['\\', c] ∨ c ≠ '\\' ∧ c ≠ '"' ∧ lineChar c = [c] := by
  unfold lineChar
  split
  · rename_i hescaped
    exact Or.inl ⟨hescaped, rfl⟩
  · rename_i hplain
    rw [not_or] at hplain
    exact Or.inr ⟨hplain.1, hplain.2, rfl⟩

/-- The reader finds a character again, escaped or not. -/
theorem Reader.foldlM_step_lineChar {c : Char} (hc : c ≠ '\n') (bytes : List UInt8) :
    (lineChar c).foldlM step (inside bytes) =
      some (inside (bytes ++ String.utf8EncodeChar c)) := by
  rcases lineChar_cases c with ⟨hescaped, hchars⟩ | ⟨hbackslash, hquote, hchars⟩
  · rcases hescaped with rfl | rfl <;> rfl
  · simp [hchars, step, plain, hbackslash, hquote, hc]

theorem Reader.foldlM_step_flatMap_lineChar {cs : List Char} (hcs : '\n' ∉ cs)
    (bytes : List UInt8) :
    (cs.flatMap lineChar).foldlM step (inside bytes) =
      some (inside (bytes ++ cs.flatMap String.utf8EncodeChar)) := by
  induction cs generalizing bytes with
  | nil => simp
  | cons c cs ih =>
    rw [List.mem_cons, not_or] at hcs
    rw [List.flatMap_cons, List.foldlM_append, foldlM_step_lineChar (Ne.symm hcs.1),
      List.flatMap_cons, ← List.append_assoc]
    exact ih hcs.2 _

/-- The literal of a line denotes the trimmed line and a line feed. -/
theorem readLiteral_lineLiteral {line : List Char} (hline : '\n' ∉ Text.trim line) :
    readLiteral (lineLiteral line) =
      some (Text.Utf8.encode (String.ofList (Text.trim line ++ ['\n']))) := by
  rw [readLiteral, lineLiteral, List.cons_append, List.foldlM_cons]
  show (((Text.trim line).flatMap lineChar ++ ['\\', 'n', '"']).foldlM Reader.step
    (.inside [])).bind _ = _
  rw [List.foldlM_append, Reader.foldlM_step_flatMap_lineChar hline, Text.Utf8.encode,
    String.toList_ofList, List.flatMap_append]
  rfl

/-- Escaped characters contain no quote that ends a literal. -/
theorem afterQuote?_flatMap_lineChar (cs rest : List Char) :
    afterQuote? (cs.flatMap lineChar ++ rest) = afterQuote? rest := by
  induction cs with
  | nil => rfl
  | cons c cs ih =>
    rw [List.flatMap_cons, List.append_assoc]
    rcases lineChar_cases c with ⟨-, hchars⟩ | ⟨hbackslash, hquote, hchars⟩
    · rw [hchars]
      exact ih
    · rw [hchars, List.singleton_append, afterQuote?, ih]
      · exact fun _ _ h => absurd h hbackslash
      · exact hquote

theorem afterQuote?_lineLiteral (line rest : List Char) :
    afterQuote? ((lineLiteral line).tail ++ rest) = some rest := by
  rw [lineLiteral, List.cons_append, List.tail_cons, List.append_assoc,
    afterQuote?_flatMap_lineChar]
  rfl

theorem newline_notMem_lineLiteral {line : List Char} (hline : '\n' ∉ Text.trim line) :
    '\n' ∉ lineLiteral line := by
  have hchars : '\n' ∉ (Text.trim line).flatMap lineChar := by
    intro hmem
    obtain ⟨c, hc, hnewline⟩ := List.mem_flatMap.1 hmem
    have hsame : '\n' = c := by
      rcases lineChar_cases c with ⟨-, hchars⟩ | ⟨-, -, hchars⟩
      · simpa [hchars] using hnewline
      · simpa [hchars] using hnewline
    exact hline (hsame ▸ hc)
  simp [lineLiteral, hchars]

/-- Whatever the line contains, its literal is one literal and denotes it. -/
theorem isLiteralOf_lineLiteral {line : List Char} (hline : '\n' ∉ line) :
    IsLiteralOf (lineLiteral line) (Text.trim line ++ ['\n']) := by
  have hkept : '\n' ∉ Text.trim line := mt (Text.trims_trim line).mem hline
  refine ⟨rfl, newline_notMem_lineLiteral hkept, afterQuote?_lineLiteral line, fun other => ?_⟩
  rw [readLiteral_lineLiteral hkept, Option.some_inj]
  constructor
  · intro h
    exact (encode_injective h).symm
  · rintro rfl
    rfl

/-! ## The source -/

/-- The source has one literal for each line of the trimmed text, and the literal denotes the
trimmed line and a line feed. No line gets out of its literal. -/
theorem lines_source_denotes {name : String} (hname : isIdentifier name = true)
    (content : List UInt8) :
    ∃ source text lines literals, certificateSource content name .lines = .ok source ∧
      source.toList = "#include <stdio.h>\nconst char* ".toList ++ name.toList ++ " =\n".toList ++
        ['\n'].intercalate literals ++ ";\n".toList ∧
      Text.Trims (Text.Utf8.decodeLossy content) text ∧ Text.IsLines text lines ∧
      List.Forall₂ (fun line literal => ∃ kept, Text.Trims line kept ∧
        IsLiteralOf literal (kept ++ ['\n'])) lines literals := by
  have hlines := Text.isLines_lines (Text.trim (Text.Utf8.decodeLossy content))
  have hsource : certificateSource content name .lines =
      .ok (String.ofList (linesSource name.toList content)) := by
    rw [certificateSource, if_pos hname]
  refine ⟨_, _, certificateLines content, (certificateLines content).map lineLiteral, hsource, ?_,
    Text.trims_trim _, hlines, ?_⟩
  · rw [String.toList_ofList]
    unfold linesSource
    rfl
  · rw [List.forall₂_map_right_iff, List.forall₂_same]
    intro line hmem
    exact ⟨_, Text.trims_trim line, isLiteralOf_lineLiteral (hlines.newline_notMem line hmem)⟩

/-- A quote, a backslash at the end of a line that ends in a carriage return and a line feed, and a
line with a blank before it. -/
theorem lines_source_denotes_escapes :
    isIdentifier "pem" = true ∧
    ∃ source first second,
      certificateSource [0x22, 0x5C, 0x0D, 0x0A, 0x20, 0x61, 0x0A] "pem" .lines = .ok source ∧
      source.toList = "#include <stdio.h>\nconst char* pem =\n".toList ++ first ++
        '\n' :: second ++ ";\n".toList ∧
      readLiteral first = some [0x22, 0x5C, 0x0A] ∧ readLiteral second = some [0x61, 0x0A] := by
  have hname : isIdentifier "pem" = true := by decide
  obtain ⟨source, text, lines, literals, hsource, hlist, htext, hlines, hliterals⟩ :=
    lines_source_denotes hname [0x22, 0x5C, 0x0D, 0x0A, 0x20, 0x61, 0x0A]
  have htwo : lines = [['"', '\\'], [' ', 'a']] := by
    rw [← Text.lines_eq_iff.2 hlines, ← Text.trim_eq_iff.2 htext]
    decide
  rw [htwo] at hliterals
  obtain ⟨first, _, ⟨kept, hkept, hfirst⟩, hmore, rfl⟩ := List.forall₂_cons_left_iff.1 hliterals
  obtain ⟨second, _, ⟨kept', hkept', hsecond⟩, hnone, rfl⟩ := List.forall₂_cons_left_iff.1 hmore
  obtain rfl := List.forall₂_nil_left_iff.1 hnone
  refine ⟨hname, source, first, second, hsource, ?_, ?_, ?_⟩
  · have hhead : "#include <stdio.h>\nconst char* ".toList ++ "pem".toList ++ " =\n".toList =
        "#include <stdio.h>\nconst char* pem =\n".toList := by decide
    rw [hlist, hhead]
    simp [List.intercalate]
  · rw [(hfirst.denotes _).2 rfl, ← Text.trim_eq_iff.2 hkept]
    decide
  · rw [(hsecond.denotes _).2 rfl, ← Text.trim_eq_iff.2 hkept']
    decide

end Piste.Firmware
