import Piste.Shell.Token

/-!
# The grammar of scripts

Commands from tokens. A script is read line by line, so that the lines before an error count.
-/

namespace Piste.Shell

namespace Grammar

/-- Why tokens make no command: the tokens from the wrong one on, and what was expected. -/
structure Failure where
  tokens : List PlacedToken
  expected : Option String

/-- Readers of tokens. -/
abbrev Reader := StateT (List PlacedToken) (Except Failure)

/-- Fails at the next token. -/
def reject {α : Type} (expected : Option String) : Reader α := do
  throw { tokens := ← get, expected }

/-- The next token. -/
def peek? : Reader (Option Token) := do
  return (← get).head?.map PlacedToken.token

/-- Drops the next token. -/
def advance : Reader Unit :=
  modify fun tokens => tokens.drop 1

/-- Whether the next token is the given operator, which is dropped then. -/
def accept (operator : String) : Reader Bool := do
  match ← peek? with
  | some (.operator text) =>
    if text = operator then
      advance
      return true
    else return false
  | _ => return false

/-- The next token, if it is a word that stands for itself. -/
def peekWord : Reader String := do
  match ← peek? with
  | some (.word parts) => return (literal? parts).getD ""
  | _ => return ""

/-- Drops the next token, which has to be the given word. -/
def expectWord (word : String) : Reader Unit := do
  if (← peekWord) = word then advance else reject (some word)

/-- Drops line feeds. -/
def skipLines : Nat → Reader Unit
  | 0 => return
  | fuel + 1 => do
    if ← accept "\n" then skipLines fuel

/-- Words that end a list of commands. -/
def closingWords : List String :=
  ["then", "elif", "else", "fi", "do", "done", "esac", "\x7d"]

/-- Whether a list of commands ends here. -/
def atEnd : Reader Bool := do
  match ← peek? with
  | none | some (.finish _) => return true
  | some (.operator text) => return text = ")" || text = ";;"
  | some (.word parts) => return (literal? parts).any closingWords.contains
  | some (.redirection _ _) => return false

/-- Reads redirections. -/
def redirections : Nat → Reader (List Redirection)
  | 0 => reject none
  | fuel + 1 => do
    match ← get with
    | ⟨.redirection number operator, _⟩ :: ⟨.word target, _⟩ :: rest =>
      set rest
      return { number, operator, target } :: (← redirections fuel)
    | _ => return []

/-- Reads words up to something else. -/
def words : Nat → Reader (List Word)
  | 0 => reject none
  | fuel + 1 => do
    match ← peek? with
    | some (.word parts) =>
      advance
      return parts :: (← words fuel)
    | _ => return []

/-- Reads the words and redirections of a simple command. -/
def simple (fuel : Nat) : Nat → Reader (List Word × List Redirection)
  | 0 => reject none
  | steps + 1 => do
    match ← peek? with
    | some (.word parts) =>
      advance
      let (words, others) ← simple fuel steps
      return (parts :: words, others)
    | some (.redirection _ _) =>
      match ← redirections fuel with
      | [] => reject none
      | found =>
        let (words, others) ← simple fuel steps
        return (words, found ++ others)
    | _ => return ([], [])

/-- Reads the patterns of a case up to its parenthesis. -/
def patterns : Nat → Reader (List Word)
  | 0 => reject none
  | fuel + 1 => do
    match ← peek? with
    | some (.word parts) =>
      advance
      if ← accept "|" then return parts :: (← patterns fuel)
      else if ← accept ")" then return [parts]
      else reject (some ")")
    | _ => reject none

/-- Whether a function is defined here. -/
def atDefinition : Reader Bool := do
  match ← get with
  | ⟨.word _, _⟩ :: ⟨.operator "(", _⟩ :: ⟨.operator ")", _⟩ :: _ => return true
  | _ => return false

mutual

/-- Reads commands up to the end of their list. -/
def list : Nat → Reader Command
  | 0 => reject none
  | fuel + 1 => do
    skipLines fuel
    if ← atEnd then return .nothing
    else
      let first ← chain fuel
      if (← accept ";") || (← accept "\n") then return .sequence first (← list fuel)
      else if ← accept "&" then return .sequence (.subshell first) (← list fuel)
      else return first

/-- Reads commands that depend on the success of each other. -/
def chain : Nat → Reader Command
  | 0 => reject none
  | fuel + 1 => do
    links (← pipeline fuel) fuel

/-- Reads the commands of a chain after the first. -/
def links (first : Command) : Nat → Reader Command
  | 0 => reject none
  | fuel + 1 => do
    if ← accept "&&" then
      skipLines fuel
      links (.conjunction first (← pipeline fuel)) fuel
    else if ← accept "||" then
      skipLines fuel
      links (.disjunction first (← pipeline fuel)) fuel
    else return first

/-- Reads commands that are joined by pipes. -/
def pipeline : Nat → Reader Command
  | 0 => reject none
  | fuel + 1 => do
    if (← peekWord) = "!" then
      advance
      return .negation (← pipeline fuel)
    else
      let first ← command fuel
      if ← accept "|" then
        skipLines fuel
        return .pipe first (← pipeline fuel)
      else return first

/-- Reads one command with its redirections. -/
def command : Nat → Reader Command
  | 0 => reject none
  | fuel + 1 => do
    if ← atDefinition then
      let name ← peekWord
      set ((← get).drop 3)
      skipLines fuel
      return .define name (← command fuel)
    else if ← accept "(" then
      let body ← list fuel
      if !(← accept ")") then reject (some ")")
      closed (.subshell body) fuel
    else match ← peekWord with
      | "\x7b" => do
        advance
        let body ← list fuel
        expectWord "\x7d"
        closed body fuel
      | "if" => do
        advance
        closed (← branches fuel) fuel
      | "while" => do
        advance
        closed (← loop true fuel) fuel
      | "until" => do
        advance
        closed (← loop false fuel) fuel
      | "for" => do
        advance
        let name ← peekWord
        advance
        skipLines fuel
        let chosen ←
          if (← peekWord) = "in" then do
            advance
            let chosen ← words fuel
            pure (some chosen)
          else pure none
        if !(← accept ";") then skipLines fuel
        skipLines fuel
        expectWord "do"
        let body ← list fuel
        expectWord "done"
        closed (.each name chosen body) fuel
      | "case" => do
        advance
        match ← peek? with
        | some (.word parts) =>
          advance
          skipLines fuel
          expectWord "in"
          closed (.choice parts (← cases fuel)) fuel
        | _ => reject none
      | first => do
        if closingWords.contains first then reject none
        let line := ((← get).head?.map PlacedToken.line).getD 0
        match ← simple fuel fuel with
        | ([], []) => reject none
        | (words, redirections) => return .simple words redirections line

/-- A command with the redirections that follow. -/
def closed (body : Command) : Nat → Reader Command
  | 0 => reject none
  | fuel + 1 => do
    match ← redirections fuel with
    | [] => return body
    | found => return .redirected body found

/-- Reads the condition and the body of a loop. -/
def loop (running : Bool) : Nat → Reader Command
  | 0 => reject none
  | fuel + 1 => do
    let condition ← list fuel
    expectWord "do"
    let body ← list fuel
    expectWord "done"
    return .loop running condition body

/-- Reads a condition, what depends on it, and the branches that follow. -/
def branches : Nat → Reader Command
  | 0 => reject none
  | fuel + 1 => do
    let condition ← list fuel
    expectWord "then"
    let yes ← list fuel
    match ← peekWord with
    | "elif" => do
      advance
      return .branch condition yes (← branches fuel)
    | "else" => do
      advance
      let no ← list fuel
      expectWord "fi"
      return .branch condition yes no
    | _ => do
      expectWord "fi"
      return .branch condition yes .nothing

/-- Reads cases up to their end. -/
def cases : Nat → Reader (List (List Word × Command))
  | 0 => reject none
  | fuel + 1 => do
    skipLines fuel
    if (← peekWord) = "esac" then
      advance
      return []
    else
      let _ ← accept "("
      let found ← patterns fuel
      let body ← list fuel
      if ← accept ";;" then return (found, body) :: (← cases fuel)
      else
        expectWord "esac"
        return [(found, body)]

end

/-- Reads the commands of one line, as far as it belongs to a list of commands. -/
def line (fuel : Nat) : Nat → Reader Command
  | 0 => reject none
  | steps + 1 => do
    let first ← chain fuel
    let first ← if ← accept "&" then pure (.subshell first) else
      let _ ← accept ";"
      pure first
    match ← peek? with
    | none | some (.operator "\n") | some (.finish none) => return first
    | _ => return .sequence first (← line fuel steps)

/-- The wrong token and its line, in words. -/
def Failure.message (failure : Failure) : Nat × String :=
  let tail := failure.expected.elim "" fun word => s!" (expecting \"{word}\")"
  match failure.tokens with
  | [] => (1, "end of file unexpected" ++ tail)
  | ⟨token, line⟩ :: _ =>
    match token with
    | .finish (some error) => (line, error)
    | .finish none => (line, "end of file unexpected" ++ tail)
    | .operator "\n" => (line, "newline unexpected" ++ tail)
    | .operator text => (line, s!"\"{text}\" unexpected" ++ tail)
    | .redirection _ _ => (line, "redirection unexpected" ++ tail)
    | .word parts =>
      match (literal? parts).filter closingWords.contains with
      | some word => (line, s!"\"{word}\" unexpected" ++ tail)
      | none => (line, "word unexpected" ++ tail)

/-- Reads line after line. Answers the commands of the lines, and the line and the text of an error
that ends the script. -/
def lines (fuel : Nat) : Nat → List PlacedToken → List Command × Option (Nat × String)
  | 0, _ => ([], none)
  | steps + 1, tokens =>
    match tokens with
    | [] | ⟨.finish none, _⟩ :: _ => ([], none)
    | ⟨.operator "\n", _⟩ :: rest => lines fuel steps rest
    | tokens =>
      match (line fuel fuel).run tokens with
      | .error failure => ([], some failure.message)
      | .ok (command, rest) =>
        let (commands, wrong) := lines fuel steps rest
        (command :: commands, wrong)

end Grammar

/-- The commands of a script up to the line of an error, if there is one. -/
def Command.ofScript (text : String) : List Command × Option (Nat × String) :=
  let tokens := tokens 1 0 (text.length + 1) text.toList
  Grammar.lines (8 * tokens.length + 8) (tokens.length + 1) tokens

end Piste.Shell
