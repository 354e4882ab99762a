import Piste.Decimal.Read
import Piste.Host.Basic
import Piste.Shell.Script
import Piste.Shell.Tool

/-!
# Shells

The state of a shell that runs a script, and the commands that are its own.
-/

namespace Piste.Shell

open Host

/-- Where an output goes. Scripts whose output is collected are nested; each has its own level. -/
inductive Destination where
  | nowhere
  | errorOutput
  | collected (level : Nat)
  | file (location : Location)
  deriving DecidableEq

/-- Where standard output and standard error go. -/
structure Outputs where
  output : Destination
  error : Destination

/-- How a script goes on after a command. -/
inductive Flow where
  | next
  /-- The innermost loop but for the given number is left. -/
  | leaveLoop (outer : Nat)
  /-- The innermost loop but for the given number goes on with its next round. -/
  | nextRound (outer : Nat)
  | leaveFunction
  | leaveScript
  | killed
  deriving DecidableEq

/-- A shell that runs a script. -/
structure State where
  tree : FileTree
  directory : Location
  input : List UInt8
  outputs : Outputs
  /-- The script as it was called. -/
  script : String
  arguments : List String
  assigned : Table String String
  /-- The variables that every script starts with. -/
  environment : Table String String
  functions : List (String × Command)
  status : Nat
  /-- A command that fails ends the script. -/
  strict : Bool
  /-- Commands are told to standard error before they run. -/
  traced : Bool
  /-- Parameters without a value end the script. -/
  definite : Bool
  line : Nat
  flow : Flow
  /-- What has been written to standard error. -/
  errorOutput : List UInt8
  /-- What has been collected, on each level. -/
  collected : List (List UInt8)

/-- Changes an output. -/
def Outputs.change (outputs : Outputs) (number : Nat) (destination : Destination) : Outputs :=
  if number = 2 then { outputs with error := destination }
  else if number = 1 then { outputs with output := destination }
  else outputs

namespace State

/-- Writes bytes where they go. -/
def deliver (state : State) (destination : Destination) (bytes : List UInt8) : State :=
  match destination with
  | .nowhere => state
  | .errorOutput => { state with errorOutput := state.errorOutput ++ bytes }
  | .collected level => { state with collected := state.collected.modify level (· ++ bytes) }
  | .file location =>
    match state.tree.at? location with
    | some (.file content executable) =>
      { state with tree := state.tree.put location (.file (content ++ bytes) executable) }
    | _ => state

/-- Writes a line to standard output. -/
def print (state : State) (text : String) : State :=
  state.deliver state.outputs.output (Text.Utf8.encode (text ++ "\n"))

/-- Writes a line to standard error. -/
def complain (state : State) (text : String) : State :=
  state.deliver state.outputs.error (Text.Utf8.encode (text ++ "\n"))

/-- Writes a line to standard error, with the place in the script. -/
def remark (state : State) (text : String) : State :=
  state.complain s!"{state.script}: {state.line}: {text}"

/-- Ends the script with a status. -/
def leave (state : State) (status : Nat) : State :=
  { state with status, flow := .leaveScript }

/-- The value of a parameter, if it has one. -/
def parameter? (state : State) (name : String) : Option String :=
  match name with
  | "#" => some (toString state.arguments.length)
  | "?" => some (toString state.status)
  | "$" => some "1"
  | "-" => some (if state.strict then "e" else "")
  | "!" => none
  | "0" => some state.script
  | "*" | "@" =>
    if state.arguments.isEmpty then none else some (" ".intercalate state.arguments)
  | _ =>
    match Decimal.readNatural? name.toList with
    | some n => state.arguments[n - 1]?
    | none => state.assigned.get? name

/-- A word whose tilde at the start stands for the home directory. -/
def atHome (state : State) (word : Word) : Word :=
  match word, state.parameter? "HOME" with
  | [.text "~" false], some home => [.text home true]
  | .text "~" false :: .text "/" false :: rest, some home => .text (home ++ "/") true :: rest
  | _, _ => word

/-- Gives a variable a value. -/
def assign (state : State) (name value : String) : State :=
  { state with assigned := state.assigned.insert name value }

/-- The state after commands that ran on their own: of them are left only what they wrote, the tree
and the status. -/
def afterSubshell (state inner : State) : State :=
  { state with
    tree := inner.tree
    status := inner.status
    errorOutput := inner.errorOutput
    collected := inner.collected
    flow := if inner.flow = .killed then .killed else state.flow }

/-- Ends the script after a failure, unless that is tested. -/
def checked (tested : Bool) (state : State) : State :=
  if state.strict && !tested && state.status ≠ 0 && state.flow = .next then
    { state with flow := .leaveScript }
  else state

/-- The text of an error where a file cannot be opened. -/
def openFailure (reads : Bool) (path : String) (error : IoError) : String :=
  let reason := if error = .noEntry then (if reads then "No such file" else "Directory nonexistent")
    else Place.errorText error
  (if reads then "cannot open " else "cannot create ") ++ path ++ ": " ++ reason

/-- Redirects an output or the input to a target. -/
def redirect (state : State) (number : Nat) (operator target : String) : Except String State :=
  let changed (state : State) (destination : Destination) : Except String State :=
    .ok { state with outputs := state.outputs.change number destination }
  match operator, target with
  | "<<", _ => .ok { state with input := Text.Utf8.encode target }
  | "<&", _ => .ok state
  | "<", "/dev/null" => .ok { state with input := [] }
  | "<", _ =>
    match state.tree.read state.directory target with
    | .ok input => .ok { state with input }
    | .error e => .error (openFailure true target e)
  | ">&", "1" => changed state state.outputs.output
  | ">&", "2" => changed state state.outputs.error
  | ">&", "-" => changed state .nowhere
  | ">&", _ => .error s!"{target}: Bad file descriptor"
  | _, "/dev/null" => changed state .nowhere
  | _, "/dev/stdout" => changed state state.outputs.output
  | _, "/dev/stderr" => changed state state.outputs.error
  | _, _ =>
    match state.tree.target state.directory target with
    | .error e => .error (openFailure false target e)
    | .ok (location, executable) =>
      let content := match operator, state.tree.at? location with
        | ">>", some (.file content _) => content
        | _, _ => []
      changed { state with tree := state.tree.put location (.file content executable) }
        (.file location)

/-- Sets the options that letters name, or unsets them. -/
def setOptions (state : State) (value : Bool) (letters : List Char) : State :=
  letters.foldl (fun state letter =>
    match letter with
    | 'e' => { state with strict := value }
    | 'x' => { state with traced := value }
    | 'u' => { state with definite := value }
    | _ => state) state

/-- Sets options and arguments. -/
def setAll (state : State) : List String → State
  | [] => state
  | "--" :: arguments => { state with arguments }
  | "-o" :: "errexit" :: rest => setAll { state with strict := true } rest
  | "-o" :: "nounset" :: rest => setAll { state with definite := true } rest
  | "-o" :: "xtrace" :: rest => setAll { state with traced := true } rest
  | "-o" :: _ :: rest => setAll state rest
  | argument :: rest =>
    match argument.toList with
    | '-' :: letter :: letters => setAll (setOptions state true (letter :: letters)) rest
    | '+' :: letters => setAll (setOptions state false letters) rest
    | _ => { state with arguments := argument :: rest }

/-- Splits off the first line of the input. -/
def inputLine (input : List UInt8) : List UInt8 × List UInt8 :=
  (input.takeWhile (· ≠ 10), (input.dropWhile (· ≠ 10)).drop 1)

/-- Assigns the fields of a line to variables. The last one takes the rest. -/
def assignFields (state : State) (fields : List String) : List String → State
  | [] => state
  | [name] => state.assign name (" ".intercalate fields)
  | name :: names =>
    assignFields (state.assign name (fields.head?.getD "")) (fields.drop 1) names

/-- Reads a line of the input to variables. -/
def readLine (state : State) (names : List String) : State :=
  let (line, input) := inputLine state.input
  let isBlank := fun c => c = ' ' || c = '\t'
  let fields := ((Text.Utf8.decodeLossy line).splitOnP isBlank).filter (!·.isEmpty)
  let status := if state.input.contains 10 then 0 else 1
  assignFields { state with input, status } (fields.map String.ofList) names

/-- Changes the directory. -/
def changeDirectory (state : State) (path : String) : State :=
  match state.tree.find state.directory path with
  | .ok (location, .directory) => { state with directory := location, status := 0 }
  | _ => { state.remark s!"cd: can't cd to {path}" with status := 2 }

/-- Splits text after a variable and an equals sign. -/
def textAssignment? (text : String) : Option (String × String) :=
  match text.toList.dropWhile fun c => c.isAlphanum || c = '_' with
  | '=' :: value =>
    some (String.ofList (text.toList.takeWhile fun c => c.isAlphanum || c = '_'),
      String.ofList value)
  | _ => none

/-- Does something with the number in the first argument. What is no number ends the script. -/
def withNumber (state : State) (name : String) (standard : Nat) (arguments : List String)
    (next : Nat → State) : State :=
  match arguments with
  | [] => next standard
  | argument :: _ =>
    match Decimal.readNatural? argument.toList with
    | some n => next n
    | none => (state.remark s!"{name}: Illegal number: {argument}").leave 2

/-- Commands of the shell itself whose failure ends the script. -/
def specialCommands : List String :=
  [":", ".", "break", "continue", "eval", "exec", "exit", "export", "readonly", "return", "set",
    "shift", "times", "trap", "unset"]

/-- All commands of the shell itself. -/
def ownCommands : List String :=
  specialCommands ++ ["[", "alias", "cd", "command", "echo", "false", "hash", "kill", "local",
    "printf", "pwd", "read", "test", "true", "type", "ulimit", "umask", "wait"]

/-- What runs under a name: a command of the shell, or a tool by its path. -/
def locateCommand? (state : State) (name : String) : Option String :=
  if ownCommands.contains name || (state.functions.lookup name).isSome then some name
  else if Place.toolNames.contains name then some ("/usr/bin/" ++ name)
  else if name.toList.contains '/' && (state.tree.find state.directory name).toBool then some name
  else none

/-- Runs a command of the shell itself. -/
def runOwn? (state : State) (name : String) (arguments : List String) : Option State :=
  let done := { state with status := 0 }
  match name with
  | ":" | "trap" | "wait" | "times" | "umask" | "ulimit" | "hash" | "alias" => some done
  | "exit" => some (state.withNumber name state.status arguments fun n => state.leave (n % 256))
  | "return" => some (state.withNumber name state.status arguments fun status =>
      { state with status, flow := .leaveFunction })
  | "break" => some (state.withNumber name 1 arguments fun n =>
      { done with flow := .leaveLoop (n - 1) })
  | "continue" => some (state.withNumber name 1 arguments fun n =>
      { done with flow := .nextRound (n - 1) })
  | "shift" => some (state.withNumber name 1 arguments fun n =>
      if state.arguments.length < n then (state.remark "shift: can't shift that many").leave 2
      else { done with arguments := state.arguments.drop n })
  | "set" => some (setAll done arguments)
  | "unset" => some { done with
      assigned := state.assigned.filterKeys (!arguments.contains ·) }
  | "export" | "readonly" | "local" =>
    some ((arguments.filterMap textAssignment?).foldl
      (fun state (name, value) => state.assign name value) done)
  | "cd" => some (state.changeDirectory
      ((arguments.head?.or (state.parameter? "HOME")).getD "."))
  | "pwd" => some (done.print ("/" ++ "/".intercalate state.directory.reverse))
  | "kill" =>
    if arguments.contains "-0" || arguments.contains "-l" then some done
    else some { done with flow := .killed }
  | "read" => some (state.readLine (arguments.filter (· ≠ "-r")))
  | "command" =>
    match arguments with
    | ["-v", name] =>
      match state.locateCommand? name with
      | some found => some (done.print found)
      | none => some { state with status := 127 }
    | _ => none
  | "type" =>
    match arguments with
    | [name] =>
      match state.locateCommand? name with
      | some found =>
        some (done.print (if found.toList.contains '/' then s!"{name} is {found}"
          else s!"{name} is a shell builtin"))
      | none => some { state.print s!"{name}: not found" with status := 127 }
    | _ => none
  | _ => none

/-- Runs a tool. -/
def runTool? (state : State) (name : String) (arguments : List String) : Option State := do
  let place : Place := { tree := state.tree, directory := state.directory, input := state.input }
  let result ← place.run? name arguments
  let state := { state with tree := result.tree, status := result.status }
  let state := result.remarks.foldl remark state
  let state := result.errors.foldl complain state
  some (state.deliver state.outputs.output result.output)

end State

end Piste.Shell
