/-!
# Arithmetic of shells

Expressions over whole numbers. A name stands for the number that is its value, and for nought if it
has none. Comparisons have the value one or nought.
-/

namespace Piste.Shell.Arithmetic

/-- The operators with two operands, those that bind least first. -/
def levels : List (List String) :=
  [["||"], ["&&"], ["|"], ["^"], ["&"], ["==", "!="], ["<=", ">=", "<", ">"], ["<<", ">>"],
    ["+", "-"], ["*", "/", "%"]]

/-- All operators, a longer one before its beginning. -/
def symbols : List String :=
  ["||", "&&", "==", "!=", "<<", ">>", "<=", ">=", "|", "^", "&", "<", ">", "+", "-", "*", "/",
    "%", "!", "~", "(", ")", "?", ":"]

/-- Splits an expression into numbers, names and operators. -/
def split? : Nat → List Char → Option (List String)
  | 0, _ => none
  | _ + 1, [] => some []
  | fuel + 1, c :: rest =>
    if c.isWhitespace then split? fuel rest
    else if c.isAlphanum || c = '_' then
      let isNameChar := fun (c : Char) => c.isAlphanum || c = '_'
      (split? fuel (rest.dropWhile isNameChar)).map
        (String.ofList (c :: rest.takeWhile isNameChar) :: ·)
    else do
      let symbol ← symbols.find? fun symbol => symbol.toList.isPrefixOf (c :: rest)
      (split? fuel ((c :: rest).drop symbol.length)).map (symbol :: ·)

/-- The number that a text writes: in base 16 after `0x`, in base 8 after a nought, or in base
10. -/
def number? (text : String) : Option Int :=
  let value (radix : Nat) (digits : List Char) : Option Int := do
    let values ← digits.mapM fun c =>
      let n := if c.isDigit then c.toNat - '0'.toNat else c.toLower.toNat - 'a'.toNat + 10
      if n < radix && c.isAlphanum then some n else none
    if digits.isEmpty then none else some (values.foldl (fun n d => n * radix + d) 0 : Nat)
  match text.toList with
  | '-' :: digits => (value 10 digits).map (- ·)
  | '0' :: 'x' :: digits => value 16 digits
  | '0' :: d :: digits => value 8 (d :: digits)
  | digits => value 10 digits

/-- The value of an operation. Nothing is divided by nought. -/
def combine? (operator : String) (a b : Int) : Option Int :=
  let truth (b : Bool) : Option Int := some (if b then 1 else 0)
  match operator with
  | "||" => truth (a ≠ 0 || b ≠ 0)
  | "&&" => truth (a ≠ 0 && b ≠ 0)
  | "==" => truth (a = b)
  | "!=" => truth (a ≠ b)
  | "<=" => truth (a ≤ b)
  | ">=" => truth (a ≥ b)
  | "<" => truth (a < b)
  | ">" => truth (a > b)
  | "+" => some (a + b)
  | "-" => some (a - b)
  | "*" => some (a * b)
  | "/" => if b = 0 then none else some (a.tdiv b)
  | "%" => if b = 0 then none else some (a.tmod b)
  | "|" => some ((a.toInt64 ||| b.toInt64).toInt)
  | "&" => some ((a.toInt64 &&& b.toInt64).toInt)
  | "^" => some ((a.toInt64 ^^^ b.toInt64).toInt)
  | "<<" => some (a.toInt64 <<< b.toInt64).toInt
  | ">>" => some (a.toInt64 >>> b.toInt64).toInt
  | _ => none

mutual

/-- Reads a number, a name, an operation with one operand, or an expression in parentheses. -/
def operand? (valueOf : String → String) : Nat → List String → Option (Int × List String)
  | 0, _ => none
  | _ + 1, [] => none
  | fuel + 1, token :: rest =>
    match token with
    | "(" => do
      let (value, rest) ← expression? valueOf levels fuel rest
      if rest.head? = some ")" then some (value, rest.drop 1) else none
    | "-" => (operand? valueOf fuel rest).map fun (value, rest) => (-value, rest)
    | "+" => operand? valueOf fuel rest
    | "!" => (operand? valueOf fuel rest).map fun (value, rest) =>
      (if value = 0 then 1 else 0, rest)
    | "~" => (operand? valueOf fuel rest).map fun (value, rest) => (-value - 1, rest)
    | token =>
      if token.toList.head?.any Char.isDigit then (number? token).map (·, rest)
      else if token.toList.all fun c => c.isAlphanum || c = '_' then
        let value := valueOf token
        if value.isEmpty then some (0, rest) else (number? value).map (·, rest)
      else none

/-- Reads an expression of operators from the given levels on. -/
def expression? (valueOf : String → String) (levels : List (List String)) :
    Nat → List String → Option (Int × List String)
  | 0, _ => none
  | fuel + 1, tokens =>
    match levels with
    | [] => operand? valueOf fuel tokens
    | level :: tighter => do
      let (value, rest) ← expression? valueOf tighter fuel tokens
      operations? valueOf level tighter value fuel rest

/-- Reads the operators of a level and their right operands. -/
def operations? (valueOf : String → String) (level : List String) (tighter : List (List String))
    (left : Int) : Nat → List String → Option (Int × List String)
  | 0, _ => none
  | _ + 1, [] => some (left, [])
  | fuel + 1, token :: rest =>
    if level.contains token then do
      let (right, rest) ← expression? valueOf tighter fuel rest
      operations? valueOf level tighter (← combine? token left right) fuel rest
    else some (left, token :: rest)

end

/-- The value of an expression. -/
def value? (valueOf : String → String) (text : String) : Option Int := do
  let tokens ← split? (text.length + 1) text.toList
  if tokens.isEmpty then some 0
  else
    let (value, rest) ← expression? valueOf levels (16 * (tokens.length + 1)) tokens
    if rest.isEmpty then some value else none

end Piste.Shell.Arithmetic
