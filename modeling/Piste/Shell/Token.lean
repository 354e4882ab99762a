import Piste.Shell.Script

/-!
# Tokens of scripts

Words, operators and redirections, as they follow each other in the text of a script. The text of a
here-document comes as a word after its redirection.
-/

namespace Piste.Shell

/-- What the text of a script is made of. -/
inductive Token where
  | word (parts : Word)
  | operator (text : String)
  | redirection (number : Nat) (operator : String)
  /-- The end of the text, or what is wrong with the text from here on. -/
  | finish (error : Option String)

/-- A token and its line. -/
structure PlacedToken where
  token : Token
  line : Nat

/-- How the characters that follow are quoted. -/
inductive Quote where
  | none
  | single
  | double
  deriving DecidableEq

/-- Where a word stands: among others, after an operator within braces, or alone in a text where
quotes have no meaning. -/
inductive Setting where
  | command
  | braces
  | document
  deriving DecidableEq

/-- Characters that end a word. -/
def endsWord (c : Char) : Bool :=
  " \t\n;&|<>()".toList.contains c

/-- Characters of the names of variables. -/
def isNameChar (c : Char) : Bool :=
  c.isAlphanum || c == '_'

/-- Parameters whose name is one character. -/
def isSpecialName (c : Char) : Bool :=
  "@*#?$!-0123456789".toList.contains c

/-- The text up to the bracket that closes the one before it, and the rest after that bracket.
Brackets within quotes do not count. -/
def enclosed? (opening closing : Char) (depth : Nat) (quote : Quote) :
    List Char → Option (List Char × List Char)
  | [] => none
  | c :: rest =>
    let keep (c : Char) (more : Option (List Char × List Char)) :=
      more.map fun (inner, after) => (c :: inner, after)
    let next (depth : Nat) (quote : Quote) := keep c (enclosed? opening closing depth quote rest)
    match quote with
    | .single => next depth (if c = '\'' then .none else .single)
    | .none | .double =>
      if c = '\\' then
        match rest with
        | d :: more => keep c (keep d (enclosed? opening closing depth quote more))
        | [] => Option.none
      else if c = '"' then next depth (if quote = .none then .double else .none)
      else if quote = .double then next depth .double
      else if c = '\'' then next depth .single
      else if c = opening then next (depth + 1) .none
      else if c = closing then
        match depth with
        | 0 => some ([], rest)
        | depth + 1 => next depth .none
      else next depth .none

/-- The script between backquotes, and the rest. A backslash may protect a backquote, a dollar sign
and itself. -/
def backquoted? : List Char → Option (List Char × List Char)
  | [] => none
  | '\x60' :: rest => some ([], rest)
  | '\\' :: c :: rest =>
    let kept := if ['\x60', '$', '\\'].contains c then [c] else ['\\', c]
    (backquoted? rest).map fun (inner, after) => (kept ++ inner, after)
  | c :: rest => (backquoted? rest).map fun (inner, after) => (c :: inner, after)

/-- The operators between the name of a parameter and a word. A longer one comes before its
beginning. -/
def parameterOperators : List String :=
  [":-", ":=", ":+", ":?", "-", "=", "+", "?", "%%", "%", "##", "#"]

/-- Splits the text between braces into the name of a parameter, an operator and the text of its
word. The length of a value has an operator of its own. -/
def parameterParts? (inner : List Char) : Option (String × String × List Char) :=
  let (name, rest) :=
    match inner with
    | c :: rest =>
      if isSpecialName c && !c.isDigit then ([c], rest) else inner.span isNameChar
    | [] => ([], [])
  match inner, rest with
  | _, [] => if name.isEmpty then none else some (String.ofList name, "", [])
  | '#' :: rest, _ =>
    if rest.all isNameChar || (rest.length = 1 && rest.all isSpecialName) then
      some (String.ofList rest, "length", [])
    else operated name rest
  | _, rest => operated name rest
where
  /-- Reads the operator. -/
  operated (name rest : List Char) : Option (String × String × List Char) := do
    let operator ← parameterOperators.find? fun operator => operator.toList.isPrefixOf rest
    if name.isEmpty then none
    else some (String.ofList name, operator, rest.drop operator.length)

mutual

/-- Reads the parts of a word. -/
def parts? (setting : Setting) (quote : Quote) : Nat → List Char → Option (Word × List Char)
  | 0, _ => none
  | fuel + 1, cs =>
    let quoted := quote ≠ .none || setting = .document
    let more (part : WordPart) (quote : Quote) (rest : List Char) :=
      (parts? setting quote fuel rest).map fun (parts, after) => (part :: parts, after)
    let kept (text : String) (rest : List Char) := more (.text text quoted) quote rest
    let expanded (rest : List Char) := do
      let (part, after) ← expansion? quoted fuel rest
      more part quote after
    let script (rest : List Char) := do
      let (inner, after) ← backquoted? rest
      more (.output (String.ofList inner) quoted) quote after
    match quote, cs with
    | .none, [] => some ([], [])
    | _, [] => none
    | .single, c :: rest =>
      if c = '\'' then parts? setting .none fuel rest else kept (String.singleton c) rest
    | .double, '"' :: rest => parts? setting .none fuel rest
    | _, '$' :: rest => expanded rest
    | _, '\x60' :: rest => script rest
    | _, '\\' :: '\n' :: rest => parts? setting quote fuel rest
    | _, '\\' :: c :: rest =>
      if !quoted then more (.text (String.singleton c) true) quote rest
      else if ['$', '\x60', '\\'].contains c || (c = '"' && quote = .double) then
        kept (String.singleton c) rest
      else kept ("\\" ++ String.singleton c) rest
    | .none, c :: rest =>
      if setting = .document then kept (String.singleton c) rest
      else if c = '\'' then more (.text "" true) .single rest
      else if c = '"' then more (.text "" true) .double rest
      else if setting = .command && endsWord c then some ([], cs)
      else kept (String.singleton c) rest
    | .double, c :: rest => kept (String.singleton c) rest

/-- Reads what follows a dollar sign. One that nothing belongs to stands for itself. -/
def expansion? (quoted : Bool) : Nat → List Char → Option (WordPart × List Char)
  | 0, _ => none
  | fuel + 1, cs =>
    match cs with
    | '(' :: '(' :: rest => do
      let (inner, after) ← enclosed? '(' ')' 0 .none rest
      let (parts, _) ← parts? .document .none fuel inner
      if after.head? = some ')' then some (.number parts quoted, after.drop 1) else none
    | '(' :: rest => do
      let (inner, after) ← enclosed? '(' ')' 0 .none rest
      some (.output (String.ofList inner) quoted, after)
    | '{' :: rest => do
      let (inner, after) ← enclosed? '{' '}' 0 .none rest
      let (name, operator, word) ← parameterParts? inner
      let isText := quoted && !operator.startsWith "%" && !operator.startsWith "#"
      let (parts, _) ← parts? (if isText then .document else .braces) .none fuel word
      some (.parameter name operator parts quoted, after)
    | c :: rest =>
      if isSpecialName c then some (.parameter (String.singleton c) "" [] quoted, rest)
      else if isNameChar c then
        some (.parameter (String.ofList (cs.takeWhile isNameChar)) "" [] quoted,
          cs.dropWhile isNameChar)
      else some (.text "$" true, cs)
    | [] => some (.text "$" true, [])

end

/-- The operators outside words. A longer one comes before its beginning. -/
def operators : List String :=
  ["\n", ";;", ";", "&&", "&", "||", "|", "(", ")"]

/-- The redirections, with the output or input that they redirect if no number says which. A longer
one comes before its beginning. -/
def redirectors : List (String × Nat) :=
  [("<<-", 0), ("<<", 0), ("<&", 0), ("<", 0), (">>", 1), (">&", 1), (">|", 1), (">", 1)]

/-- The redirection at the start of a text, with the rest. -/
def redirector? (cs : List Char) : Option (Nat × String × List Char) :=
  let (number, rest) :=
    match cs with
    | d :: rest => if d.isDigit then (some (d.toNat - '0'.toNat), rest) else (none, cs)
    | [] => (none, cs)
  redirectors.findSome? fun (operator, standard) =>
    if operator.toList.isPrefixOf rest then
      some (number.getD standard, operator, rest.drop operator.length)
    else none

/-- The lines up to the one that is the delimiter, and the rest after that. Tabs at their start may
be left out. -/
def documentLines (tabs : Bool) (delimiter : List Char) :
    List (List Char) → List (List Char) × List (List Char)
  | [] => ([], [])
  | line :: rest =>
    let line := if tabs then line.dropWhile (· = '\t') else line
    if line = delimiter then ([], rest)
    else
      let (lines, after) := documentLines tabs delimiter rest
      (line :: lines, after)

/-- The text of a word without regard to quotes, and whether it has any. -/
def delimiterOf : Word → List Char × Bool
  | [] => ([], false)
  | .text text quoted :: rest =>
    let (more, others) := delimiterOf rest
    (text.toList ++ more, quoted || others)
  | _ :: rest => delimiterOf rest

/-- The number of line feeds between two ends of a text. -/
def linesRead (cs rest : List Char) : Nat :=
  cs.count '\n' - rest.count '\n'

/-- Reads the tokens of a script. Of the lines that are read already, `owed` are counted at the next
line feed. -/
def tokens (line owed : Nat) : Nat → List Char → List PlacedToken
  | 0, _ => []
  | fuel + 1, cs =>
    let word (cs : List Char) (operator : Option (Nat × String)) : List PlacedToken :=
      match parts? .command .none (cs.length + 1) cs with
      | none =>
        [⟨.finish (some "Unterminated quoted string"), line + owed + cs.count '\n'⟩]
      | some ([], rest) =>
        match rest with
        | c :: _ => [⟨.finish (some (if c = '\n' then "newline unexpected"
            else "\"" ++ String.singleton c ++ "\" unexpected")), line⟩]
        | [] => [⟨.finish (some "end of file unexpected"), line⟩]
      | some (parts, rest) =>
        let owed := owed + linesRead cs rest
        match operator with
        | some (number, operator) =>
          if operator = "<<" ∨ operator = "<<-" then
            let (delimiter, quoted) := delimiterOf parts
            let lines := ((rest.dropWhile (· ≠ '\n')).drop 1).splitOn '\n'
            let (body, after) := documentLines (operator = "<<-") delimiter lines
            let text := body.flatMap (· ++ ['\n'])
            let parts := if quoted then some ([WordPart.text (String.ofList text) true], [])
              else parts? .document .none (text.length + 1) text
            match parts with
            | none => [⟨.finish (some "Unterminated quoted string"), line⟩]
            | some (parts, _) =>
              ⟨.redirection number "<<", line⟩ :: ⟨.word parts, line⟩ ::
                tokens line (owed + body.length + 1) fuel
                  (rest.takeWhile (· ≠ '\n') ++ '\n' :: ['\n'].intercalate after)
          else
            ⟨.redirection number operator, line⟩ :: ⟨.word parts, line⟩ ::
              tokens line owed fuel rest
        | none => ⟨.word parts, line⟩ :: tokens line owed fuel rest
    match cs with
    | [] => [⟨.finish none, line + owed⟩]
    | ' ' :: rest | '\t' :: rest => tokens line owed fuel rest
    | '#' :: rest => tokens line owed fuel (rest.dropWhile (· ≠ '\n'))
    | '\\' :: '\n' :: rest => tokens line (owed + 1) fuel rest
    | '\n' :: rest => ⟨.operator "\n", line⟩ :: tokens (line + owed + 1) 0 fuel rest
    | cs =>
      match redirector? cs with
      | some (number, operator, rest) =>
        word (rest.dropWhile fun c => c = ' ' || c = '\t') (some (number, operator))
      | none =>
        match operators.find? fun operator => operator.toList.isPrefixOf cs with
        | some operator =>
          ⟨.operator operator, line⟩ :: tokens line owed fuel (cs.drop operator.length)
        | none => word cs none

end Piste.Shell
