import Piste.Decimal.Read
import Piste.Decimal.Shortest
import Piste.Text.Quoted
import Piste.Yaml.Document

/-!
# Values

What scalars stand for. A plain scalar may be a null, a boolean, a number or a text; any other is a
text, unless its tag says what it is.
-/

namespace Piste.Yaml

/-- What a scalar stands for. Whole numbers are told apart by the way they are written: without a
minus sign or with one, and within 64 bits or only within 128. -/
inductive Plain where
  | null
  | bool (b : Bool)
  | nat (n : Nat)
  | int (i : Int)
  | wideNat (n : Nat)
  | wideInt (i : Int)
  | float (x : Float)
  | text (s : String)

namespace Plain

/-- The spellings of null, apart from nothing at all. -/
def isNull (text : String) : Bool :=
  text ∈ ["null", "Null", "NULL", "~"]

/-- The spellings of the booleans. -/
def bool? (text : String) : Option Bool :=
  if text ∈ ["true", "True", "TRUE"] then some true
  else if text ∈ ["false", "False", "FALSE"] then some false
  else none

/-- The number that digits of the given radix write. -/
def radixValue? (radix : Nat) (digits : List Char) : Option Nat := do
  if digits.isEmpty then none
  else
    let values ← digits.mapM Source.hexDigit?
    if values.all (· < radix) then some (values.foldl (fun n d => n * radix + d) 0) else none

/-- Digits after a radix mark. -/
def marked? (text : List Char) : Option (Option Nat) :=
  match text with
  | '0' :: 'x' :: digits => some (radixValue? 16 digits)
  | '0' :: 'o' :: digits => some (radixValue? 8 digits)
  | '0' :: 'b' :: digits => some (radixValue? 2 digits)
  | _ => none

/-- Several digits that start with a nought, with or without a sign. They write no number. -/
def hasLeadingNought (text : List Char) : Bool :=
  let digits := match text with
    | '-' :: digits | '+' :: digits => digits
    | digits => digits
  1 < digits.length && digits.head? == some '0' && digits.all Char.isDigit

/-- A whole number without a minus sign, below the limit. -/
def nat? (limit : Nat) (text : List Char) : Option Nat := do
  let unsigned := match text with
    | '+' :: rest => rest
    | rest => rest
  let n ← match marked? unsigned with
    | some marked => marked
    | none => if hasLeadingNought text then none else radixValue? 10 unsigned
  if n < limit then some n else none

/-- A whole number with a minus sign, at least the limit below zero. -/
def int? (limit : Nat) (text : List Char) : Option Int :=
  match text with
  | '-' :: unsigned => do
    let n ← match marked? unsigned with
      | some marked => marked
      | none => if hasLeadingNought text then none else radixValue? 10 unsigned
    if n ≤ limit then some (-(n : Int)) else none
  | _ => none

/-- A whole number. -/
def whole? (text : List Char) : Option Plain :=
  (nat? (1 <<< 64) text).map nat <|> (int? (1 <<< 63) text).map int <|>
    (nat? (1 <<< 128) text).map wideNat <|> (int? (1 <<< 127) text).map wideInt

/-- A floating-point number: a decimal literal within the range of doubles, an infinity, or none. -/
def float? (text : String) : Option Float :=
  let unsigned := match text.toList with
    | '+' :: rest => rest
    | rest => rest
  if String.ofList unsigned ∈ [".inf", ".Inf", ".INF"] then some (1 / 0)
  else if text ∈ ["-.inf", "-.Inf", "-.INF"] then some (-1 / 0)
  else if text ∈ [".nan", ".NaN", ".NAN"] then some (0 / 0)
  else if text.toList.head? == some '+' && unsigned.head?.any "+-".toList.contains then none
  else (Decimal.read? unsigned).filter Float.isFinite

/-- What a plain scalar stands for. -/
def ofText (text : String) : Plain :=
  if text.isEmpty || isNull text then null
  else match bool? text with
    | some b => bool b
    | none => match whole? text.toList with
      | some number => number
      | none =>
        if hasLeadingNought text.toList then .text text
        else match float? text with
          | some x => float x
          | none => .text text

/-- The tag of a kind of value that the core schema names. -/
def coreTag (name : String) : Tag :=
  Text.Utf8.encode ("tag:yaml.org,2002:" ++ name)

/-- A tag that begins with an exclamation mark. -/
def isLocal (tag : Tag) : Bool :=
  tag.head? == some 0x21

/-- What a scalar stands for. The tags of null, booleans and numbers need a text of that kind; else
the error is the kind. -/
def ofScalar (tag : Option Tag) (style : Style) (text : String) : Except String Plain :=
  match tag with
  | none => .ok (if style = .plain then ofText text else .text text)
  | some tag =>
    if tag = coreTag "bool" then orKind "a boolean" ((bool? text).map bool)
    else if tag = coreTag "int" then orKind "an integer" (whole? text.toList)
    else if tag = coreTag "float" then orKind "a float" ((float? text).map float)
    else if tag = coreTag "null" then orKind "null" (if isNull text then some null else none)
    else .ok (if isLocal tag && style = .plain then ofText text else .text text)
where
  /-- The value, or the kind that was wanted. -/
  orKind (kind : String) : Option Plain → Except String Plain
    | some value => .ok value
    | none => .error kind

/-- The text of a number with a point, so that it does not read as a whole one. -/
def pointedText (x : Float) : String :=
  let text := Decimal.floatText x
  if x.isFinite && !text.toList.contains '.' then text ++ ".0" else text

/-- What a scalar is, in a message. -/
def describe : Plain → String
  | null => "unit value"
  | bool b => s!"boolean `{b}`"
  | nat n => s!"integer `{n}`"
  | int i => s!"integer `{i}`"
  | wideNat n => s!"integer `{n}` as u128"
  | wideInt i => s!"integer `{i}` as i128"
  | float x => "floating point `" ++ pointedText x ++ "`"
  | text s => "string " ++ Text.quoted s

end Plain

/-- A value without tags and aliases. Whole numbers are told apart by the way they are written:
without a minus sign or with one. -/
inductive Value where
  | null
  | bool (b : Bool)
  | nat (n : Nat)
  | int (i : Int)
  | float (x : Float)
  | text (s : String)
  | sequence (items : List Value)
  | mapping (entries : List (Value × Value))

end Piste.Yaml
