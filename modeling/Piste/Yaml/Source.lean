/-!
# Characters of a YAML stream

A stream as a list of characters, each with the place it stands at. Line breaks are read here once
for all: a carriage return, a line feed, both together and U+0085 are one line feed; U+2028 and
U+2029 break lines too and stay what they are.
-/

namespace Piste.Yaml

/-- A character of the stream and its place: line and column from zero, and the number of bytes
before it. -/
structure Placed where
  char : Char
  line : Nat
  column : Nat
  offset : Nat
  deriving DecidableEq, Repr

/-- The rest of a stream. -/
abbrev Source := List Placed

/-- Characters that a stream may hold. -/
def isAllowed (c : Char) : Bool :=
  let n := c.toNat
  n == 0x9 || n == 0xA || n == 0xD || (0x20 ≤ n && n ≤ 0x7E) || n == 0x85 ||
    (0xA0 ≤ n && n ≤ 0xFFFD) || 0x10000 ≤ n

/-- U+0085, which ends a line. -/
def nextLine : Char := Char.ofNat 0x85

/-- U+FEFF, which may stand at the start of a line. -/
def byteOrderMark : Char := Char.ofNat 0xFEFF

/-- Characters that break a line, once line breaks have been read. -/
def isBreak (c : Char) : Bool :=
  c == '\n' || c == Char.ofNat 0x2028 || c == Char.ofNat 0x2029

/-- Blanks within a line. -/
def isBlank (c : Char) : Bool :=
  c == ' ' || c == '\t'

/-- Blanks and line breaks. -/
def isSpace (c : Char) : Bool :=
  isBlank c || isBreak c

/-- Characters of anchors, tag handles and directive names. -/
def isWord (c : Char) : Bool :=
  c.isAlphanum || c == '_' || c == '-'

namespace Source

/-- Places the characters of a text from the given line, column and number of bytes on. -/
def place (line column offset : Nat) : List Char → Source
  | [] => []
  | '\r' :: '\n' :: rest => ⟨'\n', line, column, offset⟩ :: place (line + 1) 0 (offset + 2) rest
  | c :: rest =>
    let after := offset + c.utf8Size
    if c = '\r' ∨ c = nextLine then ⟨'\n', line, column, offset⟩ :: place (line + 1) 0 after rest
    else if isBreak c then ⟨c, line, column, offset⟩ :: place (line + 1) 0 after rest
    else ⟨c, line, column, offset⟩ :: place line (column + 1) after rest

/-- The stream of a text whose characters are all allowed. -/
def ofString? (text : String) : Option Source :=
  if text.toList.all isAllowed then some (place 0 0 0 text.toList) else none

/-- The next character passes the test. -/
def next (source : Source) (test : Char → Bool) : Bool :=
  match source with
  | [] => false
  | p :: _ => test p.char

/-- The stream ends here or goes on with a blank or a line break. -/
def atSpace (source : Source) : Bool :=
  source.isEmpty || source.next isSpace

/-- The line ends here. -/
def atLineEnd (source : Source) : Bool :=
  source.isEmpty || source.next isBreak

/-- Three times the given character at the start of a line, before a blank or the end of
the line. -/
def isMarker (c : Char) : Source → Bool
  | p :: q :: r :: rest =>
    p.column == 0 && p.char == c && q.char == c && r.char == c && atSpace rest
  | _ => false

/-- A marker that starts or ends a document. -/
def isDocumentMarker (source : Source) : Bool :=
  isMarker '-' source || isMarker '.' source

/-- The characters up to the first that fails the test, and the rest. -/
def span (source : Source) (test : Char → Bool) : List Char × Source :=
  ((source.takeWhile (test ·.char)).map Placed.char, source.dropWhile (test ·.char))

/-- Drops characters up to the first that fails the test. -/
def skip (source : Source) (test : Char → Bool) : Source :=
  source.dropWhile (test ·.char)

/-- Drops a comment, if one starts here. -/
def skipComment (source : Source) : Source :=
  if source.next (· == '#') then source.skip (!isBreak ·) else source

/-- Drops blanks, a comment and the end of the line. Nothing else may stand there. -/
def endLine? (source : Source) : Option Source :=
  let rest := (source.skip isBlank).skipComment
  if rest.atLineEnd then some (rest.drop 1) else none

end Source

end Piste.Yaml
