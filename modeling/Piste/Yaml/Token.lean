import Piste.Text.Utf8
import Piste.Yaml.Scalar

/-!
# Tokens

The tokens of a YAML stream, and the readers of anchors, tags and directives. Brackets around block
collections are tokens as well, although the stream shows them by indentation alone.
-/

namespace Piste.Yaml

/-- A tag as bytes, its percent escapes decoded. -/
abbrev Tag := List UInt8

namespace Tag

/-- The tag that is an exclamation mark alone. -/
def bare : Tag := Text.Utf8.encode "!"

/-- The tag that bytes write. It ends before a zero byte, which an escape may write. -/
def ofBytes (bytes : List UInt8) : Tag :=
  bytes.takeWhile (· ≠ 0)

end Tag

/-- What a stream is made of. -/
inductive Token where
  | version (major minor : Nat)
  | tagHandle (handle : String) (leading : Tag)
  | documentStart
  | documentEnd
  | blockSequence
  | blockMapping
  | blockEnd
  | flowSequence
  | flowSequenceEnd
  | flowMapping
  | flowMappingEnd
  | entry
  | comma
  | key
  | value
  | aliasOf (name : String)
  | anchor (name : String)
  | tag (handle : String) (suffix : Tag)
  | scalar (style : Style) (text : String)
  | streamEnd
  deriving DecidableEq, Repr

namespace Source

/-- Reads the name of an anchor or an alias, which ends at a blank or before certain indicators. -/
def anchorName? (source : Source) : Option (String × Source) :=
  let (name, rest) := source.span isWord
  let ends := rest.atSpace || rest.next ("?:,]\x7d%@`".toList.contains ·)
  if name.isEmpty || !ends then none else some (String.ofList name, rest)

/-- Number of bytes of the character that a leading byte begins. -/
def byteCount? (lead : Nat) : Option Nat :=
  if lead < 0x80 then some 1
  else if 0xC0 ≤ lead && lead < 0xE0 then some 2
  else if 0xE0 ≤ lead && lead < 0xF0 then some 3
  else if 0xF0 ≤ lead && lead < 0xF8 then some 4
  else none

/-- Characters of a tag; the flow indicators among them only in a tag in full form. -/
def isTagChar (full : Bool) (c : Char) : Bool :=
  isWord c || ";/?:@&=+$.%!~*'()".toList.contains c || (full && ",[]".toList.contains c)

/-- Reads the bytes of a tag. A percent escape stands for one byte, and `owed` is the number of
escapes still to come for the character that an earlier one begins. -/
def tagBytes? (full : Bool) (owed : Nat) : Source → Option (List UInt8 × Source)
  | [] => if owed = 0 then some ([], []) else none
  | p :: rest =>
    if p.char == '%' then
      match rest with
      | q :: r :: more =>
        match hexDigit? q.char, hexDigit? r.char with
        | some high, some low => do
          let byte := high * 16 + low
          let owed ← if owed = 0 then (byteCount? byte).map (· - 1)
            else if 0x80 ≤ byte && byte < 0xC0 then some (owed - 1) else none
          let (bytes, after) ← tagBytes? full owed more
          some (UInt8.ofNat byte :: bytes, after)
        | _, _ => none
      | _ => none
    else if owed ≠ 0 then none
    else if isTagChar full p.char then do
      let (bytes, after) ← tagBytes? full 0 rest
      some (String.utf8EncodeChar p.char ++ bytes, after)
    else some ([], p :: rest)

/-- Reads a tag handle: word characters between exclamation marks, the second of which may be
missing. -/
def handle? : Source → Option (List Char × Source)
  | [] => none
  | p :: rest =>
    if p.char ≠ '!' then none
    else
      let (word, after) := span rest isWord
      match after with
      | q :: more =>
        if q.char == '!' then some ('!' :: word ++ ['!'], more) else some ('!' :: word, after)
      | [] => some ('!' :: word, [])

/-- Reads a tag from its exclamation mark on: in full form between angle brackets, with a handle, or
local. The tag that is an exclamation mark alone has no handle. -/
def tag? (flow : Bool) (source : Source) : Option (Token × Source) := do
  let (token, rest) ←
    if (source.drop 1).head?.any (·.char == '<') then do
      let (bytes, rest) ← tagBytes? true 0 (source.drop 2)
      match rest with
      | p :: rest =>
        if p.char == '>' && !bytes.isEmpty then some (Token.tag "" (.ofBytes bytes), rest) else none
      | [] => none
    else do
      let (handle, rest) ← handle? source
      if 2 ≤ handle.length && handle.getLast? == some '!' then
        let (bytes, rest) ← tagBytes? false 0 rest
        if bytes.isEmpty then none else some (.tag (String.ofList handle) (.ofBytes bytes), rest)
      else
        let (bytes, rest) ← tagBytes? false 0 rest
        let suffix := Tag.ofBytes (Text.Utf8.encode (String.ofList (handle.drop 1)) ++ bytes)
        if suffix.isEmpty then some (.tag "" .bare, rest) else some (.tag "!" suffix, rest)
  if atSpace rest || (flow && next rest (· == ',')) then some (token, rest) else none

/-- Reads a number of at most nine digits. -/
def number? (source : Source) : Option (Nat × Source) :=
  let (digits, rest) := source.span Char.isDigit
  if digits.isEmpty || 9 < digits.length then none
  else (String.ofList digits).toNat?.map (·, rest)

/-- Reads the value of a version directive. -/
def version? (source : Source) : Option (Token × Source) := do
  let (major, rest) ← (source.skip isBlank).number?
  if rest.next (· == '.') then
    let (minor, rest) ← number? (rest.drop 1)
    some (.version major minor, rest)
  else none

/-- Reads the value of a tag directive: a handle, and the start of the tags written with it. -/
def tagHandle? (source : Source) : Option (Token × Source) := do
  let (handle, rest) ← handle? (source.skip isBlank)
  if (1 < handle.length && handle.getLast? ≠ some '!') || !next rest isBlank then none
  else
    let (bytes, rest) ← tagBytes? true 0 (skip rest isBlank)
    if bytes.isEmpty || !atSpace rest then none
    else some (.tagHandle (String.ofList handle) (.ofBytes bytes), rest)

/-- Reads a directive after its percent sign, with the end of its line. -/
def directive? (source : Source) : Option (Token × Source) := do
  let (name, rest) := source.span isWord
  if !rest.atSpace then none
  else
    let (token, rest) ←
      if name = "YAML".toList then version? rest
      else if name = "TAG".toList then tagHandle? rest
      else none
    some (token, ← endLine? rest)

end Source

end Piste.Yaml
