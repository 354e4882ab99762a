import Piste.Text.Utf8

/-!
# Escapes and formats

The escape sequences that `echo` and `printf` know, and the formats of `printf`.
-/

namespace Piste.Shell

/-- A digit of an octal number. -/
def isOctal (c : Char) : Bool :=
  '0' ≤ c && c ≤ '7'

/-- The byte that octal digits write. -/
def octalByte (digits : List Char) : UInt8 :=
  UInt8.ofNat (digits.foldl (fun n c => n * 8 + (c.toNat - '0'.toNat)) 0)

/-- The bytes of an escape sequence after its backslash, and the rest. A sequence that is not known
stands for itself. -/
def escape : List Char → List UInt8 × List Char
  | 'a' :: rest => ([7], rest)
  | 'b' :: rest => ([8], rest)
  | 't' :: rest => ([9], rest)
  | 'n' :: rest => ([10], rest)
  | 'v' :: rest => ([11], rest)
  | 'f' :: rest => ([12], rest)
  | 'r' :: rest => ([13], rest)
  | '\\' :: rest => ([92], rest)
  | cs =>
    let digits := (cs.take 3).takeWhile isOctal
    if digits.isEmpty then ([92], cs) else ([octalByte digits], cs.drop digits.length)

/-- The bytes of a text with escape sequences, in which octal numbers may have a nought in front.
`\c` ends the output; the answer is also whether it is there. -/
def unescape : Nat → List Char → List UInt8 × Bool
  | 0, _ => ([], false)
  | _ + 1, [] => ([], false)
  | fuel + 1, '\\' :: rest =>
    match rest with
    | 'c' :: _ => ([], true)
    | '0' :: d :: more =>
      let (bytes, after) := escape (if isOctal d then d :: more else '0' :: d :: more)
      let (others, ends) := unescape fuel after
      (bytes ++ others, ends)
    | rest =>
      let (bytes, after) := escape rest
      let (others, ends) := unescape fuel after
      (bytes ++ others, ends)
  | fuel + 1, c :: rest =>
    let (others, ends) := unescape fuel rest
    (String.utf8EncodeChar c ++ others, ends)

/-- What `echo` writes. -/
def echoed (words : List String) : List UInt8 :=
  let (words, ending) : List String × List UInt8 :=
    match words with
    | "-n" :: words => (words, [])
    | words => (words, [10])
  let text := " ".intercalate words
  let (bytes, ends) := unescape (text.length + 1) text.toList
  if ends then bytes else bytes ++ ending

/-- A conversion in a format: whether it is filled up on the right or with noughts, its least and
its greatest width, and its letter. -/
structure Conversion where
  left : Bool
  zero : Bool
  width : Nat
  precision : Option Nat
  letter : Char

/-- Reads a conversion after its percent sign. -/
def conversion? (cs : List Char) : Option (Conversion × List Char) :=
  let flags := cs.takeWhile ("-0+ #".toList.contains ·)
  let cs := cs.drop flags.length
  let width := cs.takeWhile Char.isDigit
  let cs := cs.drop width.length
  let number (digits : List Char) := ((String.ofList digits).toNat?).getD 0
  let (precision, cs) :=
    match cs with
    | '.' :: rest =>
      let digits := rest.takeWhile Char.isDigit
      (some (number digits), rest.drop digits.length)
    | cs => (none, cs)
  match cs with
  | letter :: rest =>
    some ({ left := flags.contains '-', zero := flags.contains '0', width := number width,
            precision, letter }, rest)
  | [] => none

/-- The number that an argument writes, or that of the character after a quote. -/
def argumentNumber? (argument : String) : Option Int :=
  match argument.toList with
  | [] => some 0
  | '\'' :: c :: _ | '"' :: c :: _ => some c.toNat
  | '0' :: 'x' :: digits =>
    digits.foldlM (fun (n : Int) (c : Char) =>
      if c.isDigit then some (n * 16 + (c.toNat - '0'.toNat : Nat))
      else if 'a' ≤ c.toLower && c.toLower ≤ 'f' then
        some (n * 16 + (c.toLower.toNat - 'a'.toNat + 10 : Nat))
      else none) 0
  | '+' :: digits => (String.ofList digits).toNat?.map Int.ofNat
  | _ => argument.toInt?

/-- What a conversion makes of an argument. -/
def Conversion.fill (conversion : Conversion) (argument : String) : List UInt8 :=
  let pad (bytes : List UInt8) :=
    let missing := conversion.width - bytes.length
    if conversion.left then bytes ++ List.replicate missing 32
    else if conversion.zero then List.replicate missing 48 ++ bytes
    else List.replicate missing 32 ++ bytes
  let cut (bytes : List UInt8) := conversion.precision.elim bytes bytes.take
  let radix (n : Nat) := Text.Utf8.encode
    (String.ofList (Nat.toDigits n ((argumentNumber? argument).getD 0).toNat))
  match conversion.letter with
  | 's' => pad (cut (Text.Utf8.encode argument))
  | 'b' => pad (cut (unescape (argument.length + 1) argument.toList).1)
  | 'c' => pad ((Text.Utf8.encode argument).take 1)
  | 'd' | 'i' | 'u' => pad (Text.Utf8.encode (toString ((argumentNumber? argument).getD 0)))
  | 'x' => pad (radix 16)
  | 'X' => pad ((radix 16).map fun b => if 97 ≤ b then b - 32 else b)
  | 'o' => pad (radix 8)
  | _ => []

/-- Fills in a format once. Answers the bytes and the arguments that are left. -/
def fillIn : Nat → List Char → List String → List UInt8 × List String
  | 0, _, arguments => ([], arguments)
  | _ + 1, [], arguments => ([], arguments)
  | fuel + 1, '%' :: '%' :: rest, arguments =>
    let (bytes, left) := fillIn fuel rest arguments
    (37 :: bytes, left)
  | fuel + 1, '%' :: rest, arguments =>
    match conversion? rest with
    | none => ([37], arguments)
    | some (conversion, rest) =>
      let (bytes, left) := fillIn fuel rest (arguments.drop 1)
      (conversion.fill (arguments.head?.getD "") ++ bytes, left)
  | fuel + 1, '\\' :: rest, arguments =>
    let (bytes, rest) := escape rest
    let (others, left) := fillIn fuel rest arguments
    (bytes ++ others, left)
  | fuel + 1, c :: rest, arguments =>
    let (bytes, left) := fillIn fuel rest arguments
    (String.utf8EncodeChar c ++ bytes, left)

/-- What `printf` writes: its format, filled in until no arguments are left. -/
def formatted (format : String) : Nat → List String → List UInt8
  | 0, _ => []
  | fuel + 1, arguments =>
    let (bytes, left) := fillIn (format.length + 1) format.toList arguments
    if left.isEmpty || left.length = arguments.length then bytes
    else bytes ++ formatted format fuel left

end Piste.Shell
