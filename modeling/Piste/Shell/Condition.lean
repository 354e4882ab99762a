import Piste.Host.FileTree

/-!
# Conditions

What `test` and `[` decide: properties of texts, numbers and files, joined by `-a`, `-o`, `!` and
parentheses. A condition is read and decided from left to right, and each step answers with the
arguments from the last one that it has used.
-/

namespace Piste.Shell

open Host

namespace Condition

/-- The operators with one operand. -/
def unaryOperators : List String :=
  ["-n", "-z", "-e", "-r", "-w", "-x", "-f", "-d", "-s", "-h", "-L", "-p", "-S", "-b", "-c", "-t",
    "-g", "-u", "-k", "-O", "-G"]

/-- The operators with two operands. -/
def binaryOperators : List String :=
  ["=", "!=", "<", ">", "-eq", "-ne", "-lt", "-le", "-gt", "-ge", "-nt", "-ot", "-ef"]

/-- Whether a condition with one operand holds of it. -/
def unary (tree : FileTree) (directory : Location) (operator operand : String) : Bool :=
  let entry := (tree.find directory operand).toOption.map Prod.snd
  match operator with
  | "-n" => !operand.isEmpty
  | "-z" => operand.isEmpty
  | "-e" | "-r" | "-w" | "-O" | "-G" => entry.isSome
  | "-f" => entry.any fun
    | .file _ _ => true
    | _ => false
  | "-d" => entry = some .directory
  | "-s" => entry.any fun
    | .file bytes _ => !bytes.isEmpty
    | _ => true
  | "-x" => entry.any fun
    | .file _ executable => executable
    | _ => true
  | "-h" | "-L" => tree.isLink directory operand
  | _ => false

/-- Whether a condition with two operands holds of them, or what is wrong with it. Files have no
times, and none is newer than another. -/
def binary (tree : FileTree) (directory : Location) (left operator right : String) :
    Except String Bool :=
  let place (path : String) := (tree.find directory path).toOption.map Prod.fst
  let numbers (test : Int → Int → Bool) : Except String Bool :=
    match left.trimAscii.toString.toInt?, right.trimAscii.toString.toInt? with
    | none, _ => .error s!"Illegal number: {left}"
    | _, none => .error s!"Illegal number: {right}"
    | some a, some b => .ok (test a b)
  match operator with
  | "=" => .ok (left = right)
  | "!=" => .ok (left ≠ right)
  | "<" => .ok (left < right)
  | ">" => .ok (right < left)
  | "-eq" => numbers (· == ·)
  | "-ne" => numbers (· != ·)
  | "-lt" => numbers (· < ·)
  | "-le" => numbers (· ≤ ·)
  | "-gt" => numbers (· > ·)
  | "-ge" => numbers (· ≥ ·)
  | "-ef" => .ok ((place left).isSome && place left = place right)
  | _ => .ok false

/-- Whether the first of some arguments is an operator with one operand. It is none where the
operand would be missing or is an operator itself. -/
def startsUnary : List String → Bool
  | operator :: _ :: [] => unaryOperators.contains operator
  | operator :: next :: _ => unaryOperators.contains operator && !binaryOperators.contains next
  | _ => false

mutual

/-- Decides conditions joined by `-o`. -/
def disjunction (tree : FileTree) (directory : Location) :
    Nat → List String → Except String (Bool × List String)
  | 0, arguments => .ok (false, arguments)
  | fuel + 1, arguments => do
    let (first, rest) ← conjunction tree directory fuel arguments
    match rest with
    | _ :: "-o" :: more =>
      let (second, rest) ← disjunction tree directory fuel more
      .ok (first || second, rest)
    | _ => .ok (first, rest)

/-- Decides conditions joined by `-a`. -/
def conjunction (tree : FileTree) (directory : Location) :
    Nat → List String → Except String (Bool × List String)
  | 0, arguments => .ok (false, arguments)
  | fuel + 1, arguments => do
    let (first, rest) ← negation tree directory fuel arguments
    match rest with
    | _ :: "-a" :: more =>
      let (second, rest) ← conjunction tree directory fuel more
      .ok (first && second, rest)
    | _ => .ok (first, rest)

/-- Decides a condition that may be negated. -/
def negation (tree : FileTree) (directory : Location) :
    Nat → List String → Except String (Bool × List String)
  | 0, arguments => .ok (false, arguments)
  | fuel + 1, arguments =>
    match arguments with
    | ["!"] => .ok (true, arguments)
    | "!" :: rest => do
      let (holds, rest) ← negation tree directory fuel rest
      .ok (!holds, rest)
    | _ => primary tree directory fuel arguments

/-- Decides a condition in parentheses, with an operator, or of a text alone. -/
def primary (tree : FileTree) (directory : Location) :
    Nat → List String → Except String (Bool × List String)
  | 0, arguments => .ok (false, arguments)
  | fuel + 1, arguments =>
    match arguments with
    | [] => .ok (false, [])
    | "(" :: ")" :: rest => .ok (false, ")" :: rest)
    | "(" :: next :: rest => do
      let (holds, rest) ← disjunction tree directory fuel (next :: rest)
      match rest with
      | _ :: ")" :: rest => .ok (holds, ")" :: rest)
      | _ => .error "closing paren expected"
    | operator :: rest =>
      if startsUnary arguments then
        .ok (unary tree directory operator (rest.head?.getD ""), rest)
      else match rest with
        | second :: third :: rest =>
          if binaryOperators.contains second then do
            let holds ← binary tree directory operator second third
            .ok (holds, third :: rest)
          else .ok (!operator.isEmpty, arguments)
        | [second] =>
          if binaryOperators.contains second then .error s!"{second}: argument expected"
          else .ok (!operator.isEmpty, arguments)
        | [] => .ok (!operator.isEmpty, arguments)

end

/-- Decides a whole condition. -/
def decided (tree : FileTree) (directory : Location) (arguments : List String) :
    Except String Bool := do
  let (holds, rest) ← disjunction tree directory (4 * arguments.length + 4) arguments
  match rest with
  | last :: _ :: _ => .error s!"{last}: unexpected operator"
  | _ => .ok holds

/-- Whether the condition that the arguments write holds. Up to four of them are read by their
number: an operator between two operands, a pair of parentheses around all, or a negation of all. -/
def holds? (tree : FileTree) (directory : Location) : List String → Except String Bool
  | [] => .ok false
  | [first, second, third] =>
    if binaryOperators.contains second then binary tree directory first second third
    else if first = "(" && third = ")" then decided tree directory [second]
    else if first = "!" then (holds? tree directory [second, third]).map (!·)
    else decided tree directory [first, second, third]
  | [first, second, third, fourth] =>
    if first = "(" && fourth = ")" then decided tree directory [second, third]
    else if first = "!" then (holds? tree directory [second, third, fourth]).map (!·)
    else decided tree directory [first, second, third, fourth]
  | arguments => decided tree directory arguments

end Condition

end Piste.Shell
