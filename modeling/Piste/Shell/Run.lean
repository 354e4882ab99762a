import Piste.Shell.Arithmetic
import Piste.Shell.Field
import Piste.Shell.Grammar
import Piste.Shell.State

/-!
# Running scripts

The expansion of words, and the execution of commands. Every step takes from a supply of fuel, which
scripts that end do not use up.
-/

namespace Piste.Shell

open Host

/-- Text without the line feeds at its end. -/
def withoutLastLines (text : List Char) : String :=
  String.ofList (text.reverse.dropWhile (· = '\n')).reverse

/-- Splits an assignment into its variable and the word of its value. -/
def assignment? : List Char → Word → Option (String × Word)
  | name, .text text false :: rest =>
    match text.toList with
    | ['='] =>
      match name.reverse with
      | c :: more => if c.isDigit then none else some (String.ofList (c :: more), rest)
      | [] => none
    | [c] => if isNameChar c then assignment? (c :: name) rest else none
    | _ => none
  | _, _ => none

/-- Splits words into the assignments at their start and the other words. -/
def assignments : List Word → List (String × Word) × List Word
  | [] => ([], [])
  | word :: rest =>
    match assignment? [] word with
    | some assignment =>
      let (more, words) := assignments rest
      (assignment :: more, words)
    | none => ([], word :: rest)

/-- Whether the output of a script is part of one of the words. -/
def hasOutput (words : List Word) : Bool :=
  words.any (·.any fun
    | .output _ _ => true
    | _ => false)

mutual

/-- Expands a part of a word. -/
def expandPart : Nat → State → WordPart → State × List Piece
  | 0, state, _ => (state, [])
  | fuel + 1, state, part =>
    match part with
    | .text text quoted => (state, [.text text quoted])
    | .output script quoted =>
      let (inner, bytes) := collectOutput fuel state fun state =>
        runLines fuel state (Command.ofScript script)
      let text := withoutLastLines (Text.Utf8.decodeLossy (bytes.filter (· ≠ 0)))
      (state.afterSubshell inner, [.text text quoted])
    | .number expression quoted =>
      let (state, pieces) := expandWord fuel state expression
      let valueOf (name : String) := (state.parameter? name).getD ""
      match Arithmetic.value? valueOf (joined pieces) with
      | some value => (state, [.text (toString value) quoted])
      | none =>
        let state := state.remark
          ("arithmetic expression: expecting primary: \"" ++ joined pieces ++ "\"")
        (state.leave 2, [])
    | .parameter name operator word quoted =>
      let value? := state.parameter? name
      let value := value?.getD ""
      let known := value?.isSome && (!operator.startsWith ":" || !value.isEmpty)
      let kept : List Piece :=
        if name = "@" && quoted then [.fields state.arguments] else [.text value quoted]
      let other := fun (_ : Unit) => expandWord fuel state word
      match operator with
      | "" =>
        if state.definite && value?.isNone && name ≠ "@" && name ≠ "*" then
          ((state.remark s!"{name}: parameter not set").leave 2, [])
        else (state, kept)
      | "length" => (state, [.text (toString value.length) quoted])
      | ":-" | "-" => if known then (state, kept) else other ()
      | ":+" | "+" => if known then other () else (state, [.text "" quoted])
      | ":=" | "=" =>
        if known then (state, kept)
        else
          let (state, pieces) := other ()
          (state.assign name (joined pieces), [.text (joined pieces) quoted])
      | ":?" | "?" =>
        if known then (state, kept)
        else
          let (state, pieces) := other ()
          let text := if word.isEmpty then "parameter not set" else joined pieces
          ((state.remark s!"{name}: {text}").leave 2, [])
      | operator =>
        let (state, pieces) := other ()
        let pattern := patternOf pieces
        let longest := operator.length = 2
        let text := if operator.startsWith "%" then pattern.dropEnd longest value.toList
          else pattern.dropStart longest value.toList
        (state, [.text (String.ofList text) quoted])

/-- Expands the parts of a word. -/
def expandWord : Nat → State → Word → State × List Piece
  | 0, state, _ => (state, [])
  | _ + 1, state, [] => (state, [])
  | fuel + 1, state, part :: rest =>
    let (state, pieces) := expandPart fuel state part
    let (state, more) := expandWord fuel state rest
    (state, pieces ++ more)

/-- Expands words to fields. -/
def expandWords : Nat → State → List Word → State × List String
  | 0, state, _ => (state, [])
  | _ + 1, state, [] => (state, [])
  | fuel + 1, state, word :: rest =>
    let (state, pieces) := expandWord fuel state (state.atHome word)
    let fields := (fieldsOf none pieces).flatMap (Pattern.fields state.tree state.directory)
    let (state, more) := expandWords fuel state rest
    (state, fields ++ more)

/-- Collects what is written to standard output. -/
def collectOutput : Nat → State → (State → State) → State × List UInt8
  | 0, state, _ => (state, [])
  | _ + 1, state, run =>
    let level := state.collected.length
    let inner := run { state with
      outputs := state.outputs.change 1 (.collected level)
      collected := state.collected ++ [[]] }
    ({ inner with collected := inner.collected.take level }, inner.collected.getD level [])

/-- Makes assignments. -/
def assignAll : Nat → State → List (String × Word) → State
  | 0, state, _ => state
  | _ + 1, state, [] => state
  | fuel + 1, state, (name, word) :: rest =>
    let (state, pieces) := expandWord fuel state (state.atHome word)
    assignAll fuel (state.assign name (joined pieces)) rest

/-- Redirects one after another, up to an error. -/
def redirectAll : Nat → State → List Redirection → State × Option String
  | 0, state, _ => (state, none)
  | _ + 1, state, [] => (state, none)
  | fuel + 1, state, redirection :: rest =>
    let (state, pieces) := expandWord fuel state (state.atHome redirection.target)
    match state.redirect redirection.number redirection.operator (joined pieces) with
    | .error text => (state, some text)
    | .ok state => redirectAll fuel state rest

/-- Runs the fields of a command. -/
def perform (tested : Bool) : Nat → State → String → List String → State
  | 0, state, _, _ => state
  | fuel + 1, state, name, arguments =>
    match state.functions.lookup name, state.runOwn? name arguments with
    | some body, _ =>
      let inner := execute tested fuel { state with arguments, status := 0 } body
      { inner with
        arguments := state.arguments
        flow := if inner.flow = .leaveFunction then .next else inner.flow }
    | none, some state => state
    | none, none =>
      match name, arguments with
      | "eval", _ =>
        runLines fuel { state with status := 0 } (Command.ofScript (" ".intercalate arguments))
      | "exec", name :: arguments =>
        let state := perform tested fuel state name arguments
        state.leave state.status
      | "exec", [] => { state with status := 0 }
      | "command", name :: arguments => perform tested fuel state name arguments
      | _, _ =>
        let plain := if name.startsWith "/bin/" || name.startsWith "/usr/bin/" then
          Place.lastName name else name
        match state.runTool? plain arguments with
        | some state => state
        | none => runFile fuel state name arguments

/-- Runs a file as a script of its own. -/
def runFile : Nat → State → String → List String → State
  | 0, state, _, _ => state
  | fuel + 1, state, name, arguments =>
    let missing := { state.remark s!"{name}: not found" with status := 127 }
    let denied := { state.remark s!"{name}: Permission denied" with status := 126 }
    if !name.toList.contains '/' then missing
    else match state.tree.find state.directory name with
      | .error _ => missing
      | .ok (_, .file content executable) =>
        if !executable then denied
        else
          let text := String.ofList (Text.Utf8.decodeLossy content)
          let inner := runLines fuel
            { state with
              script := name, arguments, assigned := state.environment, functions := [], status := 0
              strict := false, traced := false, definite := false, line := 1 }
            (Command.ofScript text)
          { state.afterSubshell inner with flow := .next }
      | .ok _ => denied

/-- Runs a command. Its failure may be tested by another one. -/
def execute (tested : Bool) : Nat → State → Command → State
  | 0, state, _ => state
  | fuel + 1, state, command =>
    if state.flow ≠ .next then state
    else match command with
    | .nothing => state
    | .simple words redirections line =>
      let (given, words) := assignments words
      let (started, fields) := expandWords fuel { state with line } words
      let ready := assignAll fuel started given
      let ready := if words.isEmpty && !hasOutput (given.map Prod.snd) then
        { ready with status := 0 } else ready
      if ready.flow ≠ .next then ready
      else
        let shown := given.map fun (name, _) => name ++ "=" ++ (ready.parameter? name).getD ""
        let ready := if ready.traced then
          ready.complain ("+ " ++ " ".intercalate (shown ++ fields)) else ready
        match redirectAll fuel ready redirections, fields with
        | (state, some text), _ =>
          let failed := { state.remark text with
            status := 2, input := ready.input, outputs := ready.outputs }
          if fields.head?.any State.specialCommands.contains then failed.leave 2
          else failed.checked tested
        | (state, none), [] => { state with outputs := ready.outputs }.checked tested
        | (state, none), ["exec"] => { state with status := 0 }
        | (state, none), name :: arguments =>
          let finished := perform tested fuel state name arguments
          State.checked tested { finished with
            assigned := if given.isEmpty then finished.assigned else started.assigned
            input := if redirections.isEmpty then finished.input else ready.input
            outputs := if redirections.isEmpty then finished.outputs else ready.outputs }
    | .sequence first second => execute tested fuel (execute tested fuel state first) second
    | .conjunction first second =>
      let state := execute true fuel state first
      if state.status = 0 then execute tested fuel state second else state
    | .disjunction first second =>
      let state := execute true fuel state first
      if state.status = 0 then state else execute tested fuel state second
    | .negation command =>
      let state := execute true fuel state command
      if state.flow ≠ .next then state
      else { state with status := if state.status = 0 then 1 else 0 }
    | .pipe source sink =>
      let (inner, bytes) := collectOutput fuel state fun state => execute true fuel state source
      let between := state.afterSubshell inner
      let last := execute true fuel { between with input := bytes, status := 0 } sink
      (state.afterSubshell last).checked tested
    | .subshell body =>
      (state.afterSubshell (execute tested fuel state body)).checked tested
    | .redirected body redirections =>
      match redirectAll fuel state redirections with
      | (inner, some text) =>
        State.checked tested { inner.remark text with
          status := 2, input := state.input, outputs := state.outputs }
      | (inner, none) =>
        { execute tested fuel inner body with input := state.input, outputs := state.outputs }
    | .branch condition yes no =>
      let decided := execute true fuel state condition
      if decided.status = 0 then execute tested fuel decided yes
      else execute tested fuel { decided with status := 0 } no
    | .loop running condition body => repeatBody tested running 0 condition body fuel state
    | .each name words body =>
      let (state, fields) := match words with
        | none => (state, state.arguments)
        | some words => expandWords fuel state words
      forFields tested name body fuel { state with status := 0 } fields
    | .choice word cases =>
      let (state, pieces) := expandWord fuel state (state.atHome word)
      chooseCase tested (joined pieces) fuel { state with status := 0 } cases
    | .define name body =>
      { state with functions := (name, body) :: state.functions, status := 0 }

/-- Runs a body for each of some fields. -/
def forFields (tested : Bool) (name : String) (body : Command) :
    Nat → State → List String → State
  | 0, state, _ => state
  | _ + 1, state, [] => state
  | fuel + 1, state, field :: rest =>
    let state := execute tested fuel (state.assign name field) body
    match state.flow with
    | .next | .nextRound 0 => forFields tested name body fuel { state with flow := .next } rest
    | .leaveLoop 0 => { state with flow := .next }
    | .leaveLoop (outer + 1) => { state with flow := .leaveLoop outer }
    | .nextRound (outer + 1) => { state with flow := .nextRound outer }
    | _ => state

/-- Runs a body again and again, as a condition says. The status is that of the last round. -/
def repeatBody (tested running : Bool) (last : Nat) (condition body : Command) :
    Nat → State → State
  | 0, state => state
  | fuel + 1, state =>
    let decided := execute true fuel state condition
    if decided.flow ≠ .next then decided
    else if (decided.status = 0) ≠ running then { decided with status := last }
    else
      let state := execute tested fuel decided body
      match state.flow with
      | .next | .nextRound 0 =>
        repeatBody tested running state.status condition body fuel { state with flow := .next }
      | .leaveLoop 0 => { state with flow := .next }
      | .leaveLoop (outer + 1) => { state with flow := .leaveLoop outer }
      | .nextRound (outer + 1) => { state with flow := .nextRound outer }
      | _ => state

/-- Runs the body of the first case that has a pattern for the text. -/
def chooseCase (tested : Bool) (text : String) :
    Nat → State → List (List Word × Command) → State
  | 0, state, _ => state
  | _ + 1, state, [] => state
  | fuel + 1, state, (patterns, body) :: rest =>
    let (state, found) := patterns.foldl (fun (state, found) pattern =>
      if found then (state, found)
      else
        let (state, pieces) := expandWord fuel state pattern
        (state, (patternOf pieces).matchesText text.toList)) (state, false)
    if found then execute tested fuel state body else chooseCase tested text fuel state rest

/-- Runs lines of commands, and tells of an error that ends the script. -/
def runLines : Nat → State → List Command × Option (Nat × String) → State
  | 0, state, _ => state
  | fuel + 1, state, (commands, wrong) =>
    match commands, wrong with
    | command :: rest, _ => runLines fuel (execute false fuel state command) (rest, wrong)
    | [], none => state
    | [], some (line, text) =>
      if state.flow ≠ .next then state
      else ({ state with line }.remark ("Syntax error: " ++ text)).leave 2

end

/-- The supply of fuel of a script. -/
def supply : Nat := 10000

/-- Runs a script. Answers how it ended, and the tree then. Options may be set before it starts. -/
def runScript (environment : Table String String) (tree : FileTree) (directory : Location)
    (options : List String) (script text : String) (arguments : List String) : Exit × FileTree :=
  let start : State :=
    { tree, directory, input := [], outputs := { output := .nowhere, error := .errorOutput }
      script, arguments := [], assigned := environment, environment, functions := [], status := 0
      strict := false, traced := false, definite := false, line := 1
      flow := .next, errorOutput := [], collected := [] }
  let start := { start.setAll options with arguments }
  let final := runLines supply start (Command.ofScript text)
  ({ success := final.flow ≠ .killed && final.status = 0, errorOutput := final.errorOutput },
    final.tree)

end Piste.Shell
