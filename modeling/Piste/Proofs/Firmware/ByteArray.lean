import Piste.Proofs.Firmware.StringLiteral
import Piste.Proofs.Text.Blank

/-!
# Certificates as arrays of bytes

The source that holds a certificate as an array has one line for each byte, between the line that
declares the array and the one that ends it. `bytes_source_denotes` reads these lines as string
literals and finds the certificate again, whatever its bytes are.

`definedArray` is the array that such a source defines. C has none without a literal, and none under
a name that is not free (`not_forall_defined`).
-/

namespace Piste.Firmware

/-! ## Lines of the source -/

/-- The line that declares the array. -/
def arrayLine (name : List Char) : List Char :=
  "const char ".toList ++ name ++ "[] =".toList

/-- The line that defines the length of the array. -/
def lengthLine (name : List Char) : List Char :=
  "const size_t ".toList ++ name ++ "_len = sizeof(".toList ++ name ++ ") - 1;".toList

/-- The lines of a source that initialises an array with literals. -/
def arrayLines (name : List Char) (literals : List (List Char)) : List (List Char) :=
  ["#include <stddef.h>".toList, [], arrayLine name] ++ literals ++ [[';'], lengthLine name]

/-- The keywords of C. -/
def keywords : List String :=
  ["auto", "break", "case", "char", "const", "continue", "default", "do", "double", "else", "enum",
    "extern", "float", "for", "goto", "if", "inline", "int", "long", "register", "restrict", "return",
    "short", "signed", "sizeof", "static", "struct", "switch", "typedef", "union", "unsigned", "void",
    "volatile", "while", "alignas", "alignof", "bool", "constexpr", "false", "nullptr",
    "static_assert", "thread_local", "true", "typeof", "typeof_unqual"]

/-- The names that `<stddef.h>` takes. -/
def headerNames : List String :=
  ["ptrdiff_t", "size_t", "wchar_t", "max_align_t", "nullptr_t", "NULL", "offsetof", "unreachable"]

/-- Whether a program may define a variable of this name. Names that begin with two underscores, or
with one and a capital letter, are left to the compiler. -/
def isFree (name : String) : Bool :=
  !(keywords ++ headerNames).contains name &&
    match name.toList with
    | '_' :: second :: _ => !(second == '_' || second.isUpper)
    | _ => true

/-- The array that a source defines under a name and with literals: the characters of the literals,
and a zero at the end. Without a literal nothing is between the `=` and the semicolon, which is no
definition. -/
def definedArray (name : String) (literals : List (List Char)) : Option (List UInt8) :=
  if isFree name = false ∨ literals = [] then none
  else (literals.mapM readLiteral).map fun parts => parts.flatten ++ [0]

theorem bytesSource_eq_flatMap (name : List Char) (content : List UInt8) :
    bytesSource name content =
      (arrayLines name (content.map byteLiteral)).flatMap fun line => line ++ ['\n'] := by
  have hhead : "#include <stddef.h>\n\nconst char ".toList =
      "#include <stddef.h>".toList ++ '\n' :: '\n' :: "const char ".toList := by decide
  have harray : "[] =\n".toList = "[] =".toList ++ ['\n'] := by decide
  have hend : ";\nconst size_t ".toList = ';' :: '\n' :: "const size_t ".toList := by decide
  have hlength : ") - 1;\n".toList = ") - 1;".toList ++ ['\n'] := by decide
  unfold bytesSource arrayLines arrayLine lengthLine
  simp only [hhead, harray, hend, hlength, List.flatMap_append, List.flatMap_cons,
    List.flatMap_nil, List.flatMap_map, List.append_assoc, List.cons_append, List.nil_append,
    List.append_nil]

/-- Nothing in a source for an array says more than its name and its literals. -/
theorem arrayLines_inj {name name' : List Char} {literals literals' : List (List Char)}
    (h : arrayLines name literals = arrayLines name' literals') :
    name = name' ∧ literals = literals' := by
  unfold arrayLines at h
  simp only [List.cons_append, List.nil_append, List.cons.injEq, true_and] at h
  obtain ⟨hname, hrest⟩ := h
  refine ⟨?_, (List.append_inj' hrest rfl).1⟩
  exact List.append_cancel_left (List.append_cancel_right hname)

/-! ## No line is broken -/

theorem isAlphanum_of_isIdentifier {name : String} (hname : isIdentifier name = true) :
    ∀ c ∈ name.toList, c.isAlphanum = true ∨ c = '_' := by
  unfold isIdentifier at hname
  split at hname
  · cases hname
  · rename_i first rest hchars
    simp only [Bool.and_eq_true, Bool.or_eq_true, beq_iff_eq, List.all_eq_true] at hname
    rw [hchars, List.forall_mem_cons]
    exact ⟨hname.1.imp_left fun hletter => Bool.or_eq_true_iff.2 (Or.inl hletter), hname.2⟩

/-- A byte is written in characters from the space on, whatever its value. -/
theorem le_toNat_of_mem_byteText {byte : UInt8} {c : Char} (hc : c ∈ byteText byte) :
    32 ≤ c.toNat := by
  simp only [byteText] at hc
  have hdigit : ∀ n < 16, 32 ≤ (hexDigit n).toNat := by decide
  have hbyte := byte.toNat_lt
  split at hc
  · simp only [List.mem_cons, List.not_mem_nil, or_false] at hc
    rcases hc with rfl | rfl <;> decide
  split at hc
  · rename_i hprintable
    rw [List.mem_singleton.1 hc, toNat_charOfNat hprintable.2.1]
    exact hprintable.1
  · simp only [List.mem_cons, List.not_mem_nil, or_false] at hc
    rcases hc with rfl | rfl | rfl | rfl
    · decide
    · decide
    · exact hdigit _ (by omega)
    · exact hdigit _ (by omega)

/-- A line of characters from the space on has no end inside it. -/
theorem isLine_of_le_toNat {line : List Char} (hline : ∀ c ∈ line, 32 ≤ c.toNat) :
    '\n' ∉ line ∧ line.getLast? ≠ some '\r' :=
  ⟨fun h => absurd (hline _ h) (by decide),
    fun h => absurd (hline _ (List.mem_of_getLast? h)) (by decide)⟩

theorem le_toNat_of_mem_byteLiteral {byte : UInt8} {c : Char} (hc : c ∈ byteLiteral byte) :
    32 ≤ c.toNat := by
  simp only [byteLiteral, List.cons_append, List.mem_cons, List.mem_append, List.not_mem_nil,
    or_false] at hc
  rcases hc with rfl | hc | rfl
  · decide
  · exact le_toNat_of_mem_byteText hc
  · decide

theorem le_toNat_of_isIdentifier {name : String} (hname : isIdentifier name = true) :
    ∀ c ∈ name.toList, 32 ≤ c.toNat := by
  intro c hc
  rcases isAlphanum_of_isIdentifier hname c hc with hletter | rfl
  · have hcontrol : ∀ n < 32, (Char.ofNat n).isAlphanum = false := by decide
    by_contra hlow
    have hnone := hcontrol c.toNat (by omega)
    rw [Char.ofNat_toNat, hletter] at hnone
    cases hnone
  · decide

/-- Each line of the source is one line. -/
theorem isLine_of_mem_arrayLines {name : String} (hname : isIdentifier name = true)
    (content : List UInt8) :
    ∀ line ∈ arrayLines name.toList (content.map byteLiteral),
      '\n' ∉ line ∧ line.getLast? ≠ some '\r' := by
  intro line hline
  unfold arrayLines at hline
  simp only [List.mem_append, List.mem_cons, List.not_mem_nil, or_false, List.mem_map] at hline
  have hnameChars := le_toNat_of_isIdentifier hname
  refine isLine_of_le_toNat ?_
  rcases hline with ((rfl | rfl | rfl) | ⟨byte, -, rfl⟩) | rfl | rfl
  · simp
  · simp
  · unfold arrayLine
    simp only [List.forall_mem_append]
    exact ⟨⟨by simp, hnameChars⟩, by simp⟩
  · exact fun c hc => le_toNat_of_mem_byteLiteral hc
  · simp
  · unfold lengthLine
    simp only [List.forall_mem_append]
    exact ⟨⟨⟨⟨by simp, hnameChars⟩, by simp⟩, hnameChars⟩, by simp⟩

/-! ## What the source denotes -/

/-- A source is written exactly for an identifier, and these are its lines. -/
theorem lines_certificateSource {name : String} {content : List UInt8} {source : String}
    (hsource : certificateSource content name .bytes = .ok source) :
    Text.lines source.toList = arrayLines name.toList (content.map byteLiteral) := by
  rw [certificateSource] at hsource
  split at hsource
  · rename_i hname
    rw [← Except.ok.inj hsource, String.toList_ofList, bytesSource_eq_flatMap]
    exact Text.lines_flatMap_newline (isLine_of_mem_arrayLines hname content)
  · cases hsource

/-- Where every literal denotes one byte, all of them can be read. -/
theorem mapM_readLiteral {literals : List (List Char)} {content : List UInt8}
    (hliterals : literals.map readLiteral = content.map fun byte => some [byte]) :
    literals.mapM readLiteral = some (content.map fun byte => [byte]) := by
  induction literals generalizing content with
  | nil =>
    rw [List.map_nil, eq_comm, List.map_eq_nil_iff] at hliterals
    rw [hliterals]
    rfl
  | cons literal literals ih =>
    cases content with
    | nil => cases hliterals
    | cons byte content =>
      obtain ⟨hhead, htail⟩ := List.cons.inj hliterals
      rw [List.mapM_cons, hhead, ih htail]
      rfl

/-- The array has the bytes of the literals, and a zero at its end. -/
theorem definedArray_eq_some {name : String} {content : List UInt8} (hfree : isFree name = true)
    (hcontent : content ≠ []) :
    definedArray name (content.map byteLiteral) = some (content ++ [0]) := by
  have hdefined : ¬ (isFree name = false ∨ content.map byteLiteral = []) := by
    rw [hfree, List.map_eq_nil_iff]
    simpa using hcontent
  rw [definedArray, if_neg hdefined, mapM_readLiteral (map_readLiteral_byteLiteral content),
    Option.map_some, ← List.flatMap_def, List.flatMap_singleton']

/-- Different bytes have different literals. -/
theorem map_byteLiteral_injective {content content' : List UInt8}
    (h : content.map byteLiteral = content'.map byteLiteral) : content = content' := by
  have hread := congrArg (List.map readLiteral) h
  rw [map_readLiteral_byteLiteral, map_readLiteral_byteLiteral] at hread
  refine (List.map_inj_right ?_).1 hread
  intro byte byte' hbyte
  cases hbyte
  rfl

/-- The source has one literal for each byte, on a line of its own, and these literals denote the
certificate. So neither the certificate nor the name is lost. If there is a literal at all and the
name is free, the source defines an array, which is the certificate with a zero behind it. -/
theorem bytes_source_denotes {name : String} (hname : isIdentifier name = true)
    (content : List UInt8) :
    ∃ source literals, certificateSource content name .bytes = .ok source ∧
      Text.lines source.toList = arrayLines name.toList literals ∧
      literals.map readLiteral = content.map (fun byte => some [byte]) ∧
      (content ≠ [] → isFree name = true →
        ∃ array, definedArray name literals = some array ∧ array = content ++ [0] ∧
          array.length - 1 = content.length) ∧
      ∀ name' content', certificateSource content' name' .bytes = .ok source →
        name' = name ∧ content' = content := by
  have hsource : certificateSource content name .bytes =
      .ok (String.ofList (bytesSource name.toList content)) := by
    rw [certificateSource, if_pos hname]
  have hlines := lines_certificateSource hsource
  refine ⟨_, content.map byteLiteral, hsource, hlines,
    map_readLiteral_byteLiteral content, ?_, ?_⟩
  · intro hcontent hfree
    refine ⟨_, definedArray_eq_some hfree hcontent, rfl, ?_⟩
    rw [List.length_append, List.length_singleton, Nat.add_sub_cancel]
  · intro name' content' hsource'
    rw [lines_certificateSource hsource'] at hlines
    obtain ⟨hnames, hliterals⟩ := arrayLines_inj hlines
    exact ⟨String.toList_inj.1 hnames, map_byteLiteral_injective hliterals⟩

/-- A quote, a zero and an `a`, which would be a digit of the zero in one literal. -/
theorem bytes_source_denotes_escapes :
    isIdentifier "pem" = true ∧
    ∃ source literals, certificateSource [0x22, 0x00, 0x61] "pem" .bytes = .ok source ∧
      Text.lines source.toList = arrayLines "pem".toList literals ∧
      definedArray "pem" literals = some [0x22, 0x00, 0x61, 0x00] := by
  have hname : isIdentifier "pem" = true := by decide
  have hfree : isFree "pem" = true := by decide
  obtain ⟨source, literals, hsource, hlines, -, harray, -⟩ :=
    bytes_source_denotes hname [0x22, 0x00, 0x61]
  obtain ⟨array, hdefined, rfl, -⟩ := harray (List.cons_ne_nil _ _) hfree
  exact ⟨hname, source, literals, hsource, hlines, hdefined⟩

/-- The source of an empty certificate is written, and so is one for a variable that is named as a
keyword. Neither defines an array. -/
theorem not_forall_defined :
    (¬ ∀ content : List UInt8, ∃ source literals array,
      certificateSource content "v" .bytes = .ok source ∧
        Text.lines source.toList = arrayLines "v".toList literals ∧
        definedArray "v" literals = some array ∧ array.length - 1 = content.length) ∧
    ¬ ∀ name : String, isIdentifier name = true → ∃ source literals array,
      certificateSource [0x41] name .bytes = .ok source ∧
        Text.lines source.toList = arrayLines name.toList literals ∧
        definedArray name literals = some array ∧ array.length - 1 = 1 := by
  constructor
  · intro h
    obtain ⟨source, literals, array, hsource, hlines, harray, -⟩ := h []
    rw [lines_certificateSource hsource] at hlines
    obtain ⟨-, rfl⟩ := arrayLines_inj hlines
    cases harray
  · intro h
    obtain ⟨source, literals, array, -, -, harray, -⟩ := h "int" (by decide)
    have hkeyword : isFree "int" = false := by decide
    rw [definedArray, if_pos (Or.inl hkeyword)] at harray
    cases harray

end Piste.Firmware
