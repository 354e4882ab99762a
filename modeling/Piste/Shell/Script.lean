/-!
# Scripts

What a shell script is made of: words, whose parts are expanded when they are used, and commands.
-/

namespace Piste.Shell

/-- A part of a word. The expansion of a part that is not quoted is split at blanks. -/
inductive WordPart where
  | text (text : String) (quoted : Bool)
  /-- The value of a parameter, changed by an operator and its word. Most have none. -/
  | parameter (name operator : String) (word : List WordPart) (quoted : Bool)
  /-- What a script writes to standard output. -/
  | output (script : String) (quoted : Bool)
  /-- The value of an arithmetic expression. -/
  | number (expression : List WordPart) (quoted : Bool)

/-- Parts written without a gap. -/
abbrev Word := List WordPart

/-- The text of a word that stands for itself. -/
def literal? : Word → Option String
  | [] => some ""
  | .text text false :: rest => (literal? rest).map (text ++ ·)
  | _ :: _ => none

/-- Another source of standard input, or another destination of an output. -/
structure Redirection where
  number : Nat
  operator : String
  target : Word

/-- A command. Lists of commands are nested to the right. -/
inductive Command where
  | nothing
  | simple (words : List Word) (redirections : List Redirection) (line : Nat)
  | sequence (first second : Command)
  /-- The second command runs if the first succeeds. -/
  | conjunction (first second : Command)
  /-- The second command runs if the first fails. -/
  | disjunction (first second : Command)
  | negation (command : Command)
  | pipe (source sink : Command)
  | subshell (body : Command)
  | redirected (body : Command) (redirections : List Redirection)
  | branch (condition yes no : Command)
  /-- Runs the body as long as the success of the condition is `running`. -/
  | loop (running : Bool) (condition body : Command)
  /-- Runs the body for each of the words, or for each argument. -/
  | each (name : String) (words : Option (List Word)) (body : Command)
  /-- Runs the body of the first case that has a pattern for the word. -/
  | choice (word : Word) (cases : List (List Word × Command))
  | define (name : String) (body : Command)

end Piste.Shell
