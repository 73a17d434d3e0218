import ShellCoverage.FileSystem.Lookup
import ShellCoverage.Text.CodePoint
import ShellCoverage.Tracer.Environment
import ShellCoverage.Tracer.Options

/-!
# Requests

What a command line asks for. Settings that no option gives are taken from the environment, where an
empty value counts as none.

The arguments of a command are options and operands. An option has a name with one minus sign and a
letter, or with two and a word; its value stands in the next argument, behind a letter, or behind a word
and an equals sign. Letters may share one minus sign. Two minus signs alone end the options.

* `Arguments.Grammar` : the options that a command knows;
* `Arguments.read` : the effect of the options, and the operands;
* `Arguments.Fault` : why arguments are refused;
* `Request` : what is asked for;
* `Request.read` : the request of some arguments, or why they are refused.
-/

namespace ShellCoverage.CommandLine.Arguments

/-! ## Arguments -/

/-- Why arguments are refused. -/
inductive Fault where
  | unknownOption (name : Text)
  /-- An option lacks its value. -/
  | noValue (name : Text)
  /-- An option has a value but takes none. -/
  | needlessValue (name : Text)
  | noOperand
  | extraOperand (operand : Text)
  | noCommand
  | unknownCommand (name : Text)
  /-- The root is no directory. -/
  | badRoot (path : Text)
  /-- The text is no path. -/
  | badPath (t : Text)
  deriving DecidableEq, Repr

/-- What an option does to the settings. -/
inductive Effect (σ : Type) where
  | plain (f : σ → σ)
  | valued (f : Text → σ → σ)

/-- The options that a command knows. -/
structure Grammar (σ : Type) where
  options : List (Text × Effect σ)
  /-- Unknown options count as operands. -/
  ignoresUnknown : Bool := false
  /-- Options may follow operands. -/
  interspersed : Bool := true

/-- The minus sign. -/
def minus : CodePoint := CodePoint.ofChar '-'

/-- The equals sign. -/
def equals : CodePoint := CodePoint.ofChar '='

/-- What ends the options. -/
def endMark : Text := [minus, minus]

/-- What is known after an argument: the settings, an operand that it leaves, and whether the next
argument is a value. -/
inductive Taken (σ : Type) where
  | done (s : σ) (left : List Text)
  | awaits (name : Text) (f : Text → σ) (left : List Text)

variable {σ : Type}

/-- The effect of an option. -/
def Grammar.find? (g : Grammar σ) (name : Text) : Option (Effect σ) := g.options.lookup name

/-- The operand that unknown letters make. -/
def leftLetters (unknown : Text) : List Text := if unknown = [] then [] else [minus :: unknown]

/-- Takes the letters behind a minus sign. -/
def takeLetters (g : Grammar σ) (s : σ) (unknown : Text) : Text → Except Fault (Taken σ)
  | [] => .ok (.done s (leftLetters unknown))
  | c :: cs =>
    match g.find? [minus, c] with
    | some (.plain f) => takeLetters g (f s) unknown cs
    | some (.valued f) =>
      if cs = [] then .ok (.awaits [minus, c] (fun v => f v s) (leftLetters unknown))
      else .ok (.done (f cs s) (leftLetters unknown))
    | none =>
      if g.ignoresUnknown then takeLetters g s (unknown ++ [c]) cs else .error (.unknownOption [minus, c])

/-- The name of a long option, and the value behind its equals sign. -/
def splitValue (a : Text) : Text × Option Text :=
  match Text.cutFirst? [equals] a with
  | some (name, value) => (name, some value)
  | none => (a, none)

/-- Takes an argument with two minus signs. -/
def takeWord (g : Grammar σ) (s : σ) (a : Text) : Except Fault (Taken σ) :=
  let (name, value) := splitValue a
  match g.find? name, value with
  | some (.plain f), none => .ok (.done (f s) [])
  | some (.plain _), some _ => .error (.needlessValue name)
  | some (.valued f), none => .ok (.awaits name (fun v => f v s) [])
  | some (.valued f), some v => .ok (.done (f v s) [])
  | none, _ => if g.ignoresUnknown then .ok (.done s [a]) else .error (.unknownOption name)

/-- Takes an argument that begins with a minus sign. -/
def take (g : Grammar σ) (s : σ) (a : Text) : Except Fault (Taken σ) :=
  if endMark.isPrefixOf a then takeWord g s a else takeLetters g s [] a.tail

/-- The argument is an option. A minus sign alone is none. -/
def isOption (a : Text) : Bool := a.head? = some minus && a ≠ [minus]

/-- Takes arguments after some operands. -/
def readFrom (g : Grammar σ) (s : σ) (operands : List Text) : List Text → Except Fault (σ × List Text)
  | [] => .ok (s, operands)
  | a :: rest =>
    if a = endMark then .ok (s, operands ++ rest)
    else if isOption a then
      match take g s a, rest with
      | .error e, _ => .error e
      | .ok (.done s left), rest => readFrom g s (operands ++ left) rest
      | .ok (.awaits name _ _), [] => .error (.noValue name)
      | .ok (.awaits _ f left), v :: rest => readFrom g (f v) (operands ++ left) rest
    else if g.interspersed then readFrom g s (operands ++ [a]) rest
    else .ok (s, operands ++ a :: rest)

/-- The settings after all options, and the operands. -/
def read (g : Grammar σ) (s : σ) (args : List Text) : Except Fault (σ × List Text) :=
  readFrom g s [] args

end ShellCoverage.CommandLine.Arguments

namespace ShellCoverage.CommandLine
open Arguments

/-! ## Requests -/

/-- What a command line asks for. -/
inductive Request where
  | version
  | help
  /-- Traces a script. -/
  | run (o : Options) (summary : Bool)
  /-- Shows the summary of a resultset. -/
  | stats (file : Path) (asJson : Bool)
  /-- Adds up resultsets. -/
  | union (files : List Path) (output : Path) (name : Text)

/-- What is asked for, and whether it is told at length. -/
structure Asked where
  verbose : Bool := false
  request : Request

namespace Request

/-! ## Options of all commands -/

/-- What the options before the name of a command ask for. -/
structure General where
  verbose : Bool := false
  /-- What is asked for instead of a command. -/
  instead : Option Request := none

/-- Something is asked for instead of a command, unless something was before. -/
def General.ask (r : Request) (g : General) : General := { g with instead := g.instead.orElse fun _ => some r }

/-- The options before the name of a command. -/
def generalGrammar : Grammar General where
  options :=
    [("-v", .plain fun g => { g with verbose := true }),
      ("--verbose", .plain fun g => { g with verbose := true }),
      ("--version", .plain (General.ask .version)), ("-h", .plain (General.ask .help)),
      ("--help", .plain (General.ask .help))]
  interspersed := false

/-! ## Settings with help -/

/-- The settings of a command, and whether help is asked for. -/
structure Settings (σ : Type) where
  settings : σ
  help : Bool := false

/-- An option of a command's settings. -/
def lift {σ : Type} : Effect σ → Effect (Settings σ)
  | .plain f => .plain fun s => { s with settings := f s.settings }
  | .valued f => .valued fun v s => { s with settings := f v s.settings }

/-- The options that ask for help. -/
def helpOptions {σ : Type} : List (Text × Effect (Settings σ)) :=
  [("-h", .plain fun s => { s with help := true }), ("--help", .plain fun s => { s with help := true })]

/-- The options of a command, with those for help. -/
def withHelp {σ : Type} (options : List (Text × Effect σ)) : List (Text × Effect (Settings σ)) :=
  options.map (fun o => (o.1, lift o.2)) ++ helpOptions

/-- Reads the arguments of a command; with help asked for, nothing else is. -/
def readCommand {σ : Type} (g : Grammar (Settings σ)) (s : σ) (args : List Text)
    (make : σ → List Text → Except Fault Request) : Except Fault Request := do
  let (s, operands) ← Arguments.read g ⟨s, false⟩ args
  if s.help then pure .help else make s.settings operands

/-! ## Tracing a script -/

/-- The settings for tracing a script. -/
structure RunSettings where
  skipsUncovered : Bool := false
  mute : Bool := false
  shell : Option Text := none
  root : Option Text := none
  name : Option Text := none
  output : Option Text := none
  summary : Bool := true

/-- The options for tracing a script. -/
def runGrammar : Grammar (Settings RunSettings) where
  options := withHelp
    [("--skip-uncovered", .plain fun s => { s with skipsUncovered := true }),
      ("-s", .plain fun s => { s with skipsUncovered := true }),
      ("--mute", .plain fun s => { s with mute := true }),
      ("-m", .plain fun s => { s with mute := true }),
      ("--bash-path", .valued fun v s => { s with shell := some v }),
      ("--root", .valued fun v s => { s with root := some v }),
      ("--command-name", .valued fun v s => { s with name := some v }),
      ("--output", .valued fun v s => { s with output := some v }),
      ("-o", .valued fun v s => { s with output := some v }),
      ("--summary", .plain fun s => { s with summary := true }),
      ("--no-summary", .plain fun s => { s with summary := false })]
  ignoresUnknown := true

/-- The value of a setting: the one that is given, or else that of a variable, if it is not empty. -/
def settingOr (env : Environment) (variableName : Text) (given : Option Text) : Option Text :=
  given.orElse fun _ => (Table.get? variableName env).filter (· ≠ [])

/-- The path is a root: it names something that is no regular file. -/
def isRoot (fs : FileSystem) (path : Text) : Bool :=
  match fs.locate true path with
  | .ok (_, x) => !x.isFile
  | .error _ => false

/-- The path that an argument gives. -/
def pathOf (t : Text) : Except Fault Path :=
  match FileSystem.encodePath t with
  | .ok _ => .ok (Path.ofText t)
  | .error _ => .error (.badPath t)

/-- The request to trace a script. An empty root counts as none. -/
def ofRun (fs : FileSystem) (env : Environment) (s : RunSettings) :
    List Text → Except Fault Request
  | [] => .error .noOperand
  | script :: args => do
    let defaults : Options := {}
    let root := (settingOr env "SHCOV_ROOT" s.root).filter (· ≠ [])
    let script ← pathOf script
    let output ← pathOf ((settingOr env "SHCOV_OUTPUT" s.output).getD defaults.output)
    let o : Options :=
      { skipsUncovered := s.skipsUncovered
        mute := s.mute
        shell := (settingOr env "SHCOV_BASH_PATH" s.shell).getD defaults.shell
        root := root.map fun r => (Path.ofText r).toText
        command := script.toText :: args
        commandName := settingOr env "SHCOV_COMMAND_NAME" s.name
        output := output.toText }
    match root with
    | none => pure (.run o s.summary)
    | some r => if isRoot fs r then pure (.run o s.summary) else throw (.badRoot r)

/-! ## Showing and adding resultsets -/

/-- The options for showing a summary. -/
def statsGrammar : Grammar (Settings Bool) where
  options := withHelp [("--json", .plain fun _ => true)]

/-- The request to show a summary. -/
def ofStats (asJson : Bool) : List Text → Except Fault Request
  | [] => .ok (.stats Report.defaultFile asJson)
  | [file] => (pathOf file).map fun p => .stats p asJson
  | _ :: extra :: _ => .error (.extraOperand extra)

/-- The name of the sum of resultsets. -/
def unionName : Text := "shcov union"

/-- The options for adding resultsets: the output and the name. -/
def unionGrammar : Grammar (Settings (Option Text × Text)) where
  options := withHelp
    [("--output", .valued fun v s => (some v, s.2)), ("-o", .valued fun v s => (some v, s.2)),
      ("--command-name", .valued fun v s => (s.1, v))]

/-- The request to add resultsets. -/
def ofUnion (s : Option Text × Text) : List Text → Except Fault Request
  | [] => .error .noOperand
  | files =>
    match s.1 with
    | none => .error (.noValue "--output")
    | some output => do
      let paths ← files.mapM pathOf
      return .union paths (← pathOf output) s.2

/-! ## Reading -/

/-- The request of some arguments. -/
def read (fs : FileSystem) (env : Environment) (args : List Text) : Except Fault Asked := do
  let (g, rest) ← Arguments.read generalGrammar {} args
  match g.instead with
  | some request => pure ⟨g.verbose, request⟩
  | none =>
    match rest with
    | [] => .error .noCommand
    | name :: args =>
      let command : Except Fault Request :=
        if name = ("run" : Text) then readCommand runGrammar {} args (ofRun fs env)
        else if name = ("stats" : Text) then readCommand statsGrammar false args ofStats
        else if name = ("union" : Text) then readCommand unionGrammar (none, unionName) args ofUnion
        else .error (.unknownCommand name)
      return ⟨g.verbose, ← command⟩

end Request

end ShellCoverage.CommandLine
