import Piste.Command.Firmware
import Piste.Command.Positions

/-!
# The command line

A command line names a command and gives its options. An option is written out or as a letter, with
its value in the same argument or in the next one; letters may share one argument. An option that
may be repeated also takes several values between commas.
-/

namespace Piste

open Firmware

/-- A command with its options. -/
inductive Invocation where
  | render (layout : String) (sets : List String)
  | positions (layout : String)
  | embedCertificate (input output name : String) (style : CertificateStyle)
  | flags (frameworks : List String)
  | packageFirmware (project environment : String) (tool : Esptool)
  deriving DecidableEq, Repr

namespace CommandLine

/-- Why no command is run. -/
inductive Refusal where
  /-- The user asks for help. -/
  | help
  /-- The command line is wrong. -/
  | usage
  deriving DecidableEq, Repr

/-- An option that takes a value. -/
structure ValueOption where
  name : String
  letter : Option Char
  repeatable : Bool
  /-- The values that may be given. If there are none, any may. -/
  choices : List String
  deriving DecidableEq, Repr

/-- A value given for an option. -/
structure Given where
  name : String
  value : String
  deriving DecidableEq, Repr

/-- What an argument gives: a value, or an option whose value is the next argument. -/
inductive Reading where
  | nothing
  | given (value : Given)
  | awaiting (name : String)
  deriving DecidableEq, Repr

/-- An argument that starts an option. A dash alone is a value. -/
def startsOption (argument : String) : Bool :=
  argument.toList.head? == some '-' && argument != "-"

/-- An option written out, after its two dashes. -/
def readLong (options : List ValueOption) (text : List Char) : Except Refusal Reading :=
  let name := String.ofList (text.takeWhile (· ≠ '='))
  match text.dropWhile (· ≠ '=') with
  | [] =>
    if name = "verbose" then .ok .nothing
    else if name = "help" then .error .help
    else if options.any (·.name = name) then .ok (.awaiting name)
    else .error .usage
  | _ :: value =>
    if options.any (·.name = name) then .ok (.given ⟨name, String.ofList value⟩)
    else .error .usage

/-- Options as letters, after their dash. The first that takes a value takes all that follows. -/
def readLetters (options : List ValueOption) : List Char → Except Refusal Reading
  | [] => .ok .nothing
  | 'v' :: rest => readLetters options rest
  | 'h' :: _ => .error .help
  | letter :: rest =>
    match options.find? (·.letter = some letter) with
    | none => .error .usage
    | some option =>
      match rest with
      | [] => .ok (.awaiting option.name)
      | '=' :: value => .ok (.given ⟨option.name, String.ofList value⟩)
      | value => .ok (.given ⟨option.name, String.ofList value⟩)

/-- An argument that starts an option. -/
def readOption (options : List ValueOption) (argument : String) : Except Refusal Reading :=
  match argument.toList with
  | '-' :: '-' :: text => readLong options text
  | '-' :: letters => readLetters options letters
  | _ => .error .usage

/-- Adds a value to those given before. Only an option that may be repeated may be given again. -/
def accept (options : List ValueOption) (given : List Given) (value : Given) :
    Except Refusal (List Given) :=
  match options.find? (·.name = value.name) with
  | none => .error .usage
  | some option =>
    if !option.repeatable && given.any (·.name = value.name) then .error .usage
    else if !option.choices.isEmpty && value.value ∉ option.choices then .error .usage
    else .ok (given ++ [value])

/-- The values that the arguments of a command give, after those given before and an option that may
await one. Arguments that belong to no option are wrong. -/
def readArguments (options : List ValueOption) (given : List Given) (awaiting : Option String) :
    List String → Except Refusal (List Given)
  | [] => if awaiting.isSome then .error .usage else .ok given
  | argument :: rest =>
    match awaiting with
    | some name =>
      if startsOption argument then .error .usage
      else do
        let given ← accept options given ⟨name, argument⟩
        readArguments options given none rest
    | none =>
      if argument = "--" then if rest.isEmpty then .ok given else .error .usage
      else if !startsOption argument then .error .usage
      else do
        match ← readOption options argument with
        | .nothing => readArguments options given none rest
        | .given value =>
          let given ← accept options given value
          readArguments options given none rest
        | .awaiting name => readArguments options given (some name) rest

/-- The values between commas. -/
def splitValues (text : String) : List String :=
  (text.toList.splitOn ',').map String.ofList

/-- The values given for an option. -/
def valuesOf (given : List Given) (name : String) : List String :=
  (given.filter (·.name = name)).map Given.value

/-- The values of an option that may be repeated. -/
def listOf (given : List Given) (name : String) : List String :=
  (valuesOf given name).flatMap splitValues

/-- The value of an option that has a default. -/
def valueOr (given : List Given) (name default : String) : String :=
  (valuesOf given name).head?.getD default

/-- The value of an option that has to be given. -/
def required (given : List Given) (name : String) : Except Refusal String :=
  match (valuesOf given name).head? with
  | some value => .ok value
  | none => .error .usage

/-- The names of the styles of a certificate. -/
def styles : List (String × CertificateStyle) :=
  [("bytes", .bytes), ("lines", .lines)]

/-- The style that is given, or else the first. -/
def styleOf (given : List Given) : CertificateStyle :=
  (styles.lookup (valueOr given "style" "bytes")).getD .bytes

/-- The options of a command. -/
def optionsOf? : String → Option (List ValueOption)
  | "render" => some [⟨"layout", some 'l', false, []⟩, ⟨"set", some 's', true, []⟩]
  | "positions" => some [⟨"layout", some 'l', false, []⟩]
  | "embed-cert" => some [⟨"input", some 'i', false, []⟩, ⟨"output", some 'o', false, []⟩,
      ⟨"var", none, false, []⟩, ⟨"style", none, false, styles.map Prod.fst⟩]
  | "flags" => some [⟨"framework", some 'f', true, []⟩]
  | "merge-ota" => some [⟨"env", some 'e', false, []⟩, ⟨"project-dir", none, false, []⟩,
      ⟨"chip", none, false, []⟩, ⟨"esptool", none, false, []⟩]
  | _ => none

/-- The invocation of a command with the values given for its options. -/
def invocation (command : String) (given : List Given) : Except Refusal Invocation :=
  match command with
  | "render" => do .ok (.render (← required given "layout") (listOf given "set"))
  | "positions" => do .ok (.positions (← required given "layout"))
  | "embed-cert" =>
    .ok (.embedCertificate (valueOr given "input" Command.defaultInput)
      (valueOr given "output" Command.defaultOutput)
      (valueOr given "var" Command.defaultVariable) (styleOf given))
  | "flags" => .ok (.flags (listOf given "framework"))
  | "merge-ota" => do
    .ok (.packageFirmware (valueOr given "project-dir" ".") (← required given "env")
      { program := valueOr given "esptool" Esptool.defaultProgram
        chip := valueOr given "chip" Esptool.defaultChip })
  | _ => .error .usage

/-- What a request for help, on all commands or on one, leads to. -/
def helpOn : List String → Refusal
  | [] => .help
  | [command] => if command = "help" ∨ (optionsOf? command).isSome then .help else .usage
  | _ => .usage

/-- Reads the options of a command. -/
def parseCommand (command : String) (arguments : List String) : Except Refusal Invocation :=
  match optionsOf? command with
  | none => .error (if command = "help" then helpOn arguments else .usage)
  | some options => do
    invocation command (← readArguments options [] none arguments)

/-- Reads a command line. Before the command only options without a value may stand. -/
def parse : List String → Except Refusal Invocation
  | [] => .error .usage
  | argument :: rest =>
    if !startsOption argument then parseCommand argument rest
    else if argument = "--" then .error .usage
    else match readOption [] argument with
      | .ok _ => parse rest
      | .error refusal => .error refusal

/-- How a command line ended: the exit code, and what goes to standard error. -/
structure Outcome where
  exitCode : UInt8
  errorOutput : String

/-- The commands and their options. -/
def usageText : String :=
  "Usage: piste [-v]... COMMAND\n\n" ++
  "  render --layout FILE [--set NAME,...]...\n" ++
  "  positions --layout FILE\n" ++
  "  embed-cert [--input FILE] [--output FILE] [--var NAME] [--style bytes|lines]\n" ++
  "  flags [--framework NAME,...]...\n" ++
  "  merge-ota --env NAME [--project-dir DIRECTORY] [--chip NAME] [--esptool PROGRAM]\n"

variable {m : Type → Type} [Monad m] [Host m]

/-- Runs a command. -/
def runInvocation : Invocation → m (Except CommandError Unit)
  | .render layout sets => Command.render layout sets
  | .positions layout => Command.positions layout
  | .embedCertificate input output name style =>
    Command.embedCertificate input output name style
  | .flags frameworks => Command.flags frameworks
  | .packageFirmware project environment tool =>
    Command.packageFirmware project environment tool

/-- Runs a command line. -/
def execute (arguments : List String) : m Outcome := do
  match parse arguments with
  | .error .help =>
    Host.print usageText
    return { exitCode := 0, errorOutput := "" }
  | .error .usage => return { exitCode := 2, errorOutput := usageText }
  | .ok invocation =>
    match ← runInvocation invocation with
    | .ok () => return { exitCode := 0, errorOutput := "" }
    | .error e => return { exitCode := 1, errorOutput := e.text }

end CommandLine

end Piste
