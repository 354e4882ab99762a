import Piste.Yaml.Token

/-!
# The tokens of a stream

Tokens are read from left to right. Two things are known only later: that a collection ends, which a
line with less indentation shows, and that a scalar is a key, which the colon after it shows. For
the first the indentations of the open block collections are kept; for the second, on each level of
flow collections, the place where a key may have begun, so that the key token can be put in there.
-/

namespace Piste.Yaml

/-- A place where a key may have begun: the index of its first token, and where it stands. A
required one stands where the block collection around it has to go on with a key. -/
structure PossibleKey where
  token : Nat
  start : Placed
  required : Bool

/-- A stream that has been read in part. -/
structure Scanner where
  rest : Source
  tokens : Array Token
  /-- Indentations of the open block collections, the innermost first. -/
  indents : List Nat
  /-- Whether a key may begin at the next token. -/
  keyAllowed : Bool
  /-- The possible key of the innermost level. -/
  possible : Option PossibleKey
  /-- The possible keys of the levels around it. -/
  outer : List (Option PossibleKey)

namespace Scanner

/-- A stream of which nothing has been read. -/
def start (source : Source) : Scanner where
  rest := source
  tokens := #[]
  indents := []
  keyAllowed := true
  possible := none
  outer := []

/-- Within a flow collection. -/
def inFlow (s : Scanner) : Bool := !s.outer.isEmpty

/-- Adds a token. -/
def push (s : Scanner) (token : Token) : Scanner :=
  { s with tokens := s.tokens.push token }

/-- Adds a token and goes on after `rest`. -/
def pushTo (s : Scanner) (token : Token) (rest : Source) : Scanner :=
  { s with tokens := s.tokens.push token, rest }

/-- Puts a token in front of the one with the given index. -/
def insertAt (s : Scanner) (index : Nat) (token : Token) : Scanner :=
  { s with tokens := s.tokens.insertIdxIfInBounds index token }

/-- Skips blanks, comments and line breaks up to the next token. A line break allows a key again.
Tabs are no blanks where a key is allowed outside flow collections. -/
def skipTo (flow : Bool) (comment keyAllowed : Bool) : Source → Bool × Source
  | [] => (keyAllowed, [])
  | p :: rest =>
    let c := p.char
    if isBreak c then skipTo flow false (keyAllowed || !flow) rest
    else if comment then skipTo flow true keyAllowed rest
    else if c == ' ' || (c == '\t' && (flow || !keyAllowed)) then
      skipTo flow false keyAllowed rest
    else if c == byteOrderMark && p.column == 0 then skipTo flow false keyAllowed rest
    else if c == '#' then skipTo flow true keyAllowed rest
    else (keyAllowed, p :: rest)

/-- Gives up a possible key. A required one cannot be given up. -/
def dropKey? (s : Scanner) : Option Scanner :=
  if s.possible.any (·.required) then none else some { s with possible := none }

/-- A possible key once the stream has come to `p`. It ends on its line, after at most 1024
bytes. -/
def PossibleKey.at? (p : Placed) (key : Option PossibleKey) : Option (Option PossibleKey) :=
  match key with
  | none => some none
  | some key =>
    if key.start.line < p.line || key.start.offset + 1024 < p.offset then
      if key.required then none else some none
    else some (some key)

/-- Gives up the possible keys that end before `p`. -/
def dropOldKeys? (s : Scanner) (p : Placed) : Option Scanner := do
  let possible ← PossibleKey.at? p s.possible
  let outer ← s.outer.mapM (PossibleKey.at? p)
  some { s with possible, outer }

/-- A key may begin at the next token. -/
def saveKey? (s : Scanner) : Option Scanner :=
  match s.rest with
  | p :: _ =>
    if s.keyAllowed then do
      let s ← s.dropKey?
      let required := !s.inFlow && s.indents.head? == some p.column
      some { s with possible := some { token := s.tokens.size, start := p, required } }
    else some s
  | [] => some s

/-- Ends the block collections that are indented further than a line at the given column. -/
def unindent (s : Scanner) (column : Nat) : Scanner :=
  if s.inFlow then s
  else
    let ended := s.indents.takeWhile (column < ·)
    { s with
      tokens := s.tokens ++ (ended.map fun _ => Token.blockEnd).toArray
      indents := s.indents.drop ended.length }

/-- Ends all block collections. -/
def unindentAll (s : Scanner) : Scanner :=
  if s.inFlow then s
  else
    { s with
      tokens := s.tokens ++ (s.indents.map fun _ => Token.blockEnd).toArray
      indents := [] }

/-- Starts a block collection, in front of the token with the given index, where the column is
further right than the collections that are open. -/
def indent (s : Scanner) (column index : Nat) (token : Token) : Scanner :=
  if s.inFlow || s.indents.head?.any (column ≤ ·) then s
  else { s.insertAt index token with indents := column :: s.indents }

/-- Ends all block collections at a marker or a directive. -/
def endBlocks? (s : Scanner) : Option Scanner := do
  let s ← s.unindentAll.dropKey?
  some { s with keyAllowed := false }

/-- Starts a flow collection. -/
def flowStart? (s : Scanner) (token : Token) (rest : Source) : Option Scanner := do
  let s ← s.saveKey?
  some { s.pushTo token rest with
    possible := none, outer := s.possible :: s.outer, keyAllowed := true }

/-- Ends a flow collection. -/
def flowEnd? (s : Scanner) (token : Token) (rest : Source) : Option Scanner := do
  let s ← s.dropKey?
  let s := { s.pushTo token rest with keyAllowed := false }
  match s.outer with
  | possible :: outer => some { s with possible, outer }
  | [] => some s

/-- A dash that starts an entry of a block sequence. -/
def entry? (s : Scanner) (column : Nat) (rest : Source) : Option Scanner := do
  if !s.inFlow && !s.keyAllowed then none
  else
    let s ← (s.indent column s.tokens.size .blockSequence).dropKey?
    some { s.pushTo .entry rest with keyAllowed := true }

/-- A question mark that starts a key. -/
def key? (s : Scanner) (column : Nat) (rest : Source) : Option Scanner := do
  if !s.inFlow && !s.keyAllowed then none
  else
    let s ← (s.indent column s.tokens.size .blockMapping).dropKey?
    some { s.pushTo .key rest with keyAllowed := !s.inFlow }

/-- A colon that starts a value. What began at the possible key is a key. -/
def value? (s : Scanner) (column : Nat) (rest : Source) : Option Scanner :=
  match s.possible with
  | some key =>
    let s := (s.insertAt key.token .key).indent key.start.column key.token .blockMapping
    some { s.pushTo .value rest with possible := none, keyAllowed := false }
  | none =>
    if !s.inFlow && !s.keyAllowed then none
    else
      let s := s.indent column s.tokens.size .blockMapping
      some { s.pushTo .value rest with keyAllowed := !s.inFlow }

/-- A token that may be a key or the start of one, and after which no key may begin. -/
def keyToken? (s : Scanner) (read : Option (Token × Source)) : Option Scanner := do
  let (token, rest) ← read
  let s ← s.saveKey?
  some { s.pushTo token rest with keyAllowed := false }

/-- A plain scalar. After line breaks at its end a key may begin. -/
def plain? (s : Scanner) : Option Scanner := do
  let margin := (s.indents.head?.map (· + 1)).getD 0
  let (text, gap, rest) ← s.rest.plain? margin s.inFlow [] Gap.none
  let s ← s.keyToken? (some (.scalar .plain (String.ofList text.reverse), rest))
  some { s with keyAllowed := gap.hasBreak }

/-- A quoted scalar. -/
def quoted? (s : Scanner) (style : Style) (read : Option (List Char × Source)) :
    Option Scanner :=
  s.keyToken? (read.map fun (text, rest) => (.scalar style (String.ofList text.reverse), rest))

/-- A block scalar. -/
def block? (s : Scanner) (style : Style) (rest : Source) : Option Scanner := do
  let s ← s.dropKey?
  let (text, rest) ← Source.blockScalar? s.indents.head? (style == .literal) rest
  some { s.pushTo (.scalar style text) rest with keyAllowed := true }

/-- Reads the token that starts with `p`. -/
def token? (s : Scanner) (p : Placed) (rest : Source) : Option Scanner :=
  let spaced := Source.atSpace rest
  let indicated := s.inFlow || spaced
  if p.column == 0 && p.char == '%' then do
    let s ← s.endBlocks?
    let (token, rest) ← Source.directive? rest
    some (s.pushTo token rest)
  else if Source.isMarker '-' s.rest then do
    let s ← s.endBlocks?
    some (s.pushTo .documentStart (rest.drop 2))
  else if Source.isMarker '.' s.rest then do
    let s ← s.endBlocks?
    some (s.pushTo .documentEnd (rest.drop 2))
  else match p.char with
    | '[' => s.flowStart? .flowSequence rest
    | '{' => s.flowStart? .flowMapping rest
    | ']' => s.flowEnd? .flowSequenceEnd rest
    | '}' => s.flowEnd? .flowMappingEnd rest
    | ',' => do
      let s ← s.dropKey?
      some { s.pushTo .comma rest with keyAllowed := true }
    | '*' => s.keyToken? ((Source.anchorName? rest).map fun (name, rest) => (.aliasOf name, rest))
    | '&' => s.keyToken? ((Source.anchorName? rest).map fun (name, rest) => (.anchor name, rest))
    | '!' => s.keyToken? (Source.tag? s.inFlow s.rest)
    | '\'' => s.quoted? .singleQuoted (Source.singleQuoted? [] Gap.none rest)
    | '"' => s.quoted? .doubleQuoted (Source.doubleQuoted? [] Gap.none none rest)
    | '-' => if spaced then s.entry? p.column rest else s.plain?
    | '?' => if indicated then s.key? p.column rest else s.plain?
    | ':' => if indicated then s.value? p.column rest else s.plain?
    | '|' => if s.inFlow then none else s.block? .literal rest
    | '>' => if s.inFlow then none else s.block? .folded rest
    | '%' | '@' | '\u0060' | '#' | '\t' => none
    | _ => s.plain?

/-- Reads the next token. At the end of the stream all block collections end. -/
def step? (s : Scanner) : Option Scanner := do
  let (keyAllowed, rest) := skipTo s.inFlow false s.keyAllowed s.rest
  let s := { s with keyAllowed, rest }
  match rest with
  | [] => (← s.endBlocks?).push .streamEnd
  | p :: rest => do
    let s ← s.dropOldKeys? p
    (s.unindent p.column).token? p rest

/-- Reads tokens to the end of the stream. Each takes at least one character. -/
def run? (s : Scanner) : Nat → Option (List Token)
  | 0 => none
  | fuel + 1 => do
    let s ← s.step?
    if s.tokens.back? == some .streamEnd then some s.tokens.toList else run? s fuel

end Scanner

/-- The tokens of a text. -/
def tokens? (text : String) : Option (List Token) := do
  let source ← Source.ofString? text
  (Scanner.start source).run? (source.length + 2)

end Piste.Yaml
