/-!
# Patterns of shells

Patterns for names: a question mark stands for any character, an asterisk for any text, brackets for
one of the characters between them. What is quoted stands for itself.
-/

namespace Piste.Shell

/-- A pattern: characters, and whether they are quoted. -/
abbrev Pattern := List (Char × Bool)

namespace Pattern

/-- Whether a character is among those listed between brackets, as themselves or in a range. -/
def lists (c : Char) : List (Char × Bool) → Bool
  | (low, _) :: ('-', false) :: (high, _) :: rest =>
    (low ≤ c && c ≤ high) || lists c rest
  | (d, _) :: rest => c == d || lists c rest
  | [] => false

/-- Splits a pattern after an opening bracket: whether the characters are excluded, the list of
characters, and the rest after the closing bracket. -/
def brackets? (pattern : Pattern) : Option (Bool × List (Char × Bool) × Pattern) :=
  let (excluded, pattern) :=
    match pattern with
    | ('!', false) :: rest => (true, rest)
    | rest => (false, rest)
  let isClosing := fun (entry : Char × Bool) => entry = (']', false)
  match pattern with
  | [] => none
  | first :: rest =>
    if rest.any isClosing then
      some (excluded, first :: rest.takeWhile (!isClosing ·),
        (rest.dropWhile (!isClosing ·)).drop 1)
    else none

/-- Whether a text as a whole is what the pattern stands for. -/
def accepts : Nat → Pattern → List Char → Bool
  | 0, _, _ => false
  | _ + 1, [], text => text.isEmpty
  | fuel + 1, ('*', false) :: rest, text =>
    accepts fuel rest text || (!text.isEmpty && accepts fuel (('*', false) :: rest) (text.drop 1))
  | _ + 1, _ :: _, [] => false
  | fuel + 1, ('?', false) :: rest, _ :: text => accepts fuel rest text
  | fuel + 1, ('[', false) :: rest, c :: text =>
    match brackets? rest with
    | some (excluded, listed, rest) => lists c listed != excluded && accepts fuel rest text
    | none => c == '[' && accepts fuel rest text
  | fuel + 1, (d, _) :: rest, c :: text => c == d && accepts fuel rest text

/-- Whether a text is what the pattern stands for. -/
def matchesText (pattern : Pattern) (text : List Char) : Bool :=
  accepts (pattern.length + text.length + 1) pattern text

/-- Takes away a part at the start of a text that the pattern stands for, the shortest or the
longest. -/
def dropStart (pattern : Pattern) (longest : Bool) (text : List Char) : List Char :=
  let lengths := List.range (text.length + 1)
  let lengths := if longest then lengths.reverse else lengths
  match lengths.find? fun n => pattern.matchesText (text.take n) with
  | some n => text.drop n
  | none => text

/-- Takes away a part at the end of a text that the pattern stands for. -/
def dropEnd (pattern : Pattern) (longest : Bool) (text : List Char) : List Char :=
  let lengths := List.range (text.length + 1)
  let lengths := if longest then lengths else lengths.reverse
  match lengths.find? fun n => pattern.matchesText (text.drop n) with
  | some n => text.take n
  | none => text

end Pattern

end Piste.Shell
