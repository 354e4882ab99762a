import Piste.Yaml.Source

/-!
# Scalars

The text of plain, quoted and block scalars. White space inside a plain or quoted scalar is held
back as a gap, since it is text only if the scalar goes on after it; a gap with line breaks is
folded. Readers keep the text they have read in reverse.
-/

namespace Piste.Yaml

/-- How a scalar is written. -/
inductive Style where
  | plain
  | singleQuoted
  | doubleQuoted
  | literal
  | folded
  deriving DecidableEq, Repr

/-- White space after the text read so far: blanks on one line, or line breaks, the first of which
is missing where it is escaped. Blanks around line breaks are dropped. -/
inductive Gap where
  | blanks (text : List Char)
  | breaks (first : Option Char) (more : List Char)
  deriving DecidableEq, Repr

namespace Gap

/-- No white space. -/
def none : Gap := blanks []

/-- Whether there is any white space. -/
def isNone (gap : Gap) : Bool := gap == none

/-- Whether the gap goes over a line break. -/
def hasBreak : Gap → Bool
  | blanks _ => false
  | breaks _ _ => true

/-- The gap with one more blank or line break. -/
def add (gap : Gap) (c : Char) : Gap :=
  match gap with
  | blanks text => if isBreak c then breaks (some c) [] else blanks (text ++ [c])
  | breaks first more => if isBreak c then breaks first (more ++ [c]) else breaks first more

/-- The text of a gap inside a scalar. One line feed is a blank; of several the first is dropped. -/
def fold : Gap → List Char
  | blanks text => text
  | breaks (some '\n') [] => [' ']
  | breaks (some '\n') more => more
  | breaks (some c) more => c :: more
  | breaks Option.none more => more

/-- Text read so far, in reverse, with the gap after it. -/
def after (gap : Gap) (text : List Char) : List Char :=
  gap.fold.reverse ++ text

end Gap

namespace Source

/-- Characters that end a plain scalar in a flow collection. -/
def isFlowIndicator (c : Char) : Bool :=
  c == ',' || c == '[' || c == ']' || c == '{' || c == '}'

/-- Reads a plain scalar that has to stay at or right of `margin` on its further lines. Answers its
text in reverse, the gap after it and the rest. -/
def plain? (margin : Nat) (flow : Bool) (text : List Char) (gap : Gap) :
    Source → Option (List Char × Gap × Source)
  | [] => some (text, gap, [])
  | p :: rest =>
    let c := p.char
    if isSpace c then
      if c == '\t' && gap.hasBreak && p.column < margin then none
      else plain? margin flow text (gap.add c) rest
    else if !gap.isNone &&
        ((!flow && p.column < margin) || isDocumentMarker (p :: rest) || c == '#') then
      some (text, gap, p :: rest)
    else if flow && c == ':' && next rest (fun d => isFlowIndicator d || d == '?') then none
    else if (c == ':' && atSpace rest) || (flow && isFlowIndicator c) then
      some (text, gap, p :: rest)
    else plain? margin flow (c :: gap.after text) Gap.none rest

/-- Reads a single-quoted scalar after its opening quote. A quote inside it is written twice. -/
def singleQuoted? (text : List Char) (gap : Gap) : Source → Option (List Char × Source)
  | [] => none
  | p :: rest =>
    if isDocumentMarker (p :: rest) then none
    else if isSpace p.char then singleQuoted? text (gap.add p.char) rest
    else if p.char == '\'' then
      match rest with
      | q :: more =>
        if q.char == '\'' then singleQuoted? ('\'' :: gap.after text) Gap.none more
        else some (gap.after text, rest)
      | [] => some (gap.after text, [])
    else singleQuoted? (p.char :: gap.after text) Gap.none rest

/-- What follows a backslash: a character that it stands for, or a number of hexadecimal digits. -/
inductive Escape where
  | char (c : Char)
  | digits (count : Nat)

/-- The escape sequences of double-quoted scalars. -/
def escape? (c : Char) : Option Escape :=
  match c with
  | '0' => some (.char (Char.ofNat 0x0))
  | 'a' => some (.char (Char.ofNat 0x7))
  | 'b' => some (.char (Char.ofNat 0x8))
  | 't' | '\t' => some (.char '\t')
  | 'n' => some (.char '\n')
  | 'v' => some (.char (Char.ofNat 0xB))
  | 'f' => some (.char (Char.ofNat 0xC))
  | 'r' => some (.char '\r')
  | 'e' => some (.char (Char.ofNat 0x1B))
  | ' ' => some (.char ' ')
  | '"' => some (.char '"')
  | '/' => some (.char '/')
  | '\\' => some (.char '\\')
  | 'N' => some (.char nextLine)
  | '_' => some (.char (Char.ofNat 0xA0))
  | 'L' => some (.char (Char.ofNat 0x2028))
  | 'P' => some (.char (Char.ofNat 0x2029))
  | 'x' => some (.digits 2)
  | 'u' => some (.digits 4)
  | 'U' => some (.digits 8)
  | _ => none

/-- The value of a hexadecimal digit. -/
def hexDigit? (c : Char) : Option Nat :=
  if '0' ≤ c && c ≤ '9' then some (c.toNat - '0'.toNat)
  else if 'a' ≤ c && c ≤ 'f' then some (c.toNat - 'a'.toNat + 10)
  else if 'A' ≤ c && c ≤ 'F' then some (c.toNat - 'A'.toNat + 10)
  else none

/-- The character with a number, which must not be a surrogate. -/
def scalarValue? (n : Nat) : Option Char :=
  if n.isValidChar then some (Char.ofNat n) else none

/-- Reads a double-quoted scalar after its opening quote. Within an escape sequence of hexadecimal
digits, `pending` is the number of digits to come and the value of those read. -/
def doubleQuoted? (text : List Char) (gap : Gap) (pending : Option (Nat × Nat)) :
    Source → Option (List Char × Source)
  | [] => none
  | p :: rest =>
    match pending with
    | some (count, value) =>
      match hexDigit? p.char with
      | none => none
      | some digit =>
        let value := value * 16 + digit
        if count ≤ 1 then
          match scalarValue? value with
          | none => none
          | some c => doubleQuoted? (c :: text) Gap.none none rest
        else doubleQuoted? text Gap.none (some (count - 1, value)) rest
    | none =>
      if isDocumentMarker (p :: rest) then none
      else if isSpace p.char then doubleQuoted? text (gap.add p.char) none rest
      else if p.char == '"' then some (gap.after text, rest)
      else if p.char == '\\' then
        match rest with
        | [] => none
        | q :: more =>
          if isBreak q.char then doubleQuoted? (gap.after text) (.breaks none []) none more
          else match escape? q.char with
            | none => none
            | some (.char c) => doubleQuoted? (c :: gap.after text) Gap.none none more
            | some (.digits count) =>
              doubleQuoted? (gap.after text) Gap.none (some (count, 0)) more
      else doubleQuoted? (p.char :: gap.after text) Gap.none none rest

/-- What becomes of the line breaks at the end of a block scalar. -/
inductive Chomping where
  | strip
  | clip
  | keep
  deriving DecidableEq, Repr

/-- Reads a chomping indicator. -/
def chomping? (source : Source) : Option Chomping × Source :=
  match source with
  | p :: rest =>
    if p.char == '+' then (some .keep, rest)
    else if p.char == '-' then (some .strip, rest)
    else (none, source)
  | [] => (none, source)

/-- Reads an indentation indicator, a digit other than zero. The outer `none` is a zero. -/
def indentation? (source : Source) : Option (Option Nat × Source) :=
  match source with
  | p :: rest =>
    if p.char == '0' then none
    else if p.char.isDigit then some (some (p.char.toNat - '0'.toNat), rest)
    else some (none, source)
  | [] => some (none, source)

/-- Reads the header of a block scalar, with the indicators in either order, up to the end of its
line. -/
def blockHeader? (source : Source) : Option (Chomping × Option Nat × Source) := do
  let (first, rest) := source.chomping?
  let (indent, rest) ← rest.indentation?
  let (second, rest) := if first.isNone && indent.isSome then rest.chomping? else (none, rest)
  let rest ← rest.endLine?
  some ((first <|> second).getD .clip, indent, rest)

/-- Reads indentation and empty lines at the start of a block scalar. Without an indentation that is
known, any number of spaces is indentation. Answers the line breaks, the column of the widest
indentation, and the rest. -/
def blockStart? (indent : Option Nat) (breaks : List Char) (widest : Nat) :
    Source → Option (List Char × Nat × Source)
  | [] => some (breaks, widest, [])
  | p :: rest =>
    let indenting := indent.all (p.column < ·)
    let widest' := max widest p.column
    if indenting && p.char == ' ' then blockStart? indent breaks widest rest
    else if indenting && p.char == '\t' then none
    else if isBreak p.char then blockStart? indent (breaks ++ [p.char]) widest' rest
    else some (breaks, widest', p :: rest)

/-- A block scalar that has been read in part: its text in reverse, the break that ends its last
line, the breaks of empty lines after it, and whether the last line starts with a blank. -/
structure Block where
  text : List Char
  lastBreak : List Char
  emptyLines : List Char
  startsBlank : Bool
  inLine : Bool

namespace Block

/-- Starts a line with the given character. The break before the line is folded into a blank, or
dropped before empty lines, where neither of the lines around it starts with a blank. -/
def startLine (block : Block) (literal : Bool) (c : Char) : Block :=
  let folds := !literal && block.lastBreak == ['\n'] && !block.startsBlank && !isBlank c
  let joint :=
    if folds then (if block.emptyLines.isEmpty then [' '] else []) else block.lastBreak
  { text := c :: (block.emptyLines.reverse ++ (joint.reverse ++ block.text))
    lastBreak := []
    emptyLines := []
    startsBlank := isBlank c
    inLine := true }

/-- The text of the whole scalar. -/
def finish (block : Block) (chomping : Chomping) : List Char :=
  block.text.reverse ++ (match chomping with
    | .strip => []
    | .clip => block.lastBreak
    | .keep => block.lastBreak ++ block.emptyLines)

end Block

/-- Reads the lines of a block scalar, which start at column `indent`. -/
def blockLines? (indent : Nat) (literal : Bool) (block : Block) : Source → Option (Block × Source)
  | [] => some (block, [])
  | p :: rest =>
    let c := p.char
    if block.inLine then
      if isBreak c then
        blockLines? indent literal { block with lastBreak := [c], inLine := false } rest
      else blockLines? indent literal { block with text := c :: block.text } rest
    else if p.column < indent && c == ' ' then blockLines? indent literal block rest
    else if p.column < indent && c == '\t' then none
    else if isBreak c then
      blockLines? indent literal { block with emptyLines := block.emptyLines ++ [c] } rest
    else if p.column = indent then blockLines? indent literal (block.startLine literal c) rest
    else some (block, p :: rest)

/-- Reads a block scalar after its indicator. Its lines are indented further than `parent`, the
indentation of the collection around it, if there is one: by the number of columns that the header
gives, or as far as its first line. -/
def blockScalar? (parent : Option Nat) (literal : Bool) (source : Source) :
    Option (String × Source) := do
  let (chomping, increment, rest) ← source.blockHeader?
  let indent := increment.map (parent.getD 0 + ·)
  let (breaks, widest, rest) ← rest.blockStart? indent [] 0
  let least := (parent.map (· + 1)).getD 0
  let indent := indent.getD (max (max widest least) 1)
  let (block, rest) ← rest.blockLines? indent literal
    { text := [], lastBreak := [], emptyLines := breaks, startsBlank := false, inLine := false }
  some (String.ofList (block.finish chomping), rest)

end Source

end Piste.Yaml
