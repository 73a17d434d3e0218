import ShellCoverage.Shell.Builtin.Control
import ShellCoverage.Shell.Builtin.Settings
import ShellCoverage.Shell.Expansion
import ShellCoverage.Shell.Invocation

/-!
# Starting a shell

A shell takes its variables, functions and options from the environment and from its arguments, reads a
startup file, and then runs a script, a string, or its standard input.

* `Sh.freshShell` : the process in which a shell starts;
* `Sh.shell` : a shell from its start to its end.
-/

namespace ShellCoverage.Shell

/-! ## The environment -/

namespace Sh

/-- An exported variable. -/
def exportedVariable (s : Octets) : Variable := { value := some (.scalar s), exported := true }

/-- How the name of a variable that holds a function begins, and how it ends. -/
def functionMarks : Octets × Octets := ("BASH_FUNC_", "%%")

/-- The function whose definition a variable of the environment holds. -/
def functionName? (name : Octets) : Option Octets :=
  (Octets.dropHead? functionMarks.1 name).bind fun rest =>
    if functionMarks.2.toList.isSuffixOf rest.toList then
      some (String.ofList (rest.toList.take (rest.length - functionMarks.2.length)))
    else none

/-- Defines a function whose text came in the environment. -/
def importFunction (name text : Octets) : Sh Unit := do
  let r ← prepare (Reader.ofList (name ++ " " ++ text ++ "\n").toList 0)
  match Reader.lineCommands r with
  | .ok (some (some (.function _ _ _ body))) after =>
    keepBodies after
    let f : Function := { body, source := "environment", exported := true }
    change fun p => { p with functions := Table.insert name f p.functions }
  | _ => pure ()

/-- Where the shell looks for commands that can be added to it. -/
def loadablesPath : Octets :=
  "/usr/local/lib/bash:/usr/lib/bash:/opt/local/lib/bash:/usr/pkg/lib/bash:/opt/pkg/lib/bash:."

/-- The prompt of traces that a shell begins with, whatever the environment says. -/
def startingPrompt : Octets := "+ "

/-- The variables that a shell sets of itself. -/
def ownVariables (dialect : Dialect) (p : Process) : Sh (Table Octets Variable) := do
  let scalar (s : Octets) : Variable := { value := some (.scalar s) }
  let fixed (s : Octets) : Variable := { value := some (.scalar s), readonly := true, integer := true }
  match dialect with
  | .plain =>
    return [("IFS", scalar " \t\n"), ("OPTIND", scalar "1"), ("PS1", scalar "# "), ("PS2", scalar "> "),
      ("PPID", scalar (Octets.ofNat p.parent))]
  | .full =>
    return [("BASH", scalar "/usr/bin/bash"), ("BASH_VERSION", scalar versionText),
      ("BASH_VERSINFO", { value := some (.indexed (Value.ofList 0 versionParts)), readonly := true }),
      ("BASH_ALIASES", { value := some (.keyed []) }), ("BASH_CMDS", { value := some (.keyed []) }),
      ("BASH_LOADABLES_PATH", scalar loadablesPath), ("SHELL", scalar "/bin/bash"),
      ("HOSTNAME", scalar "localhost"),
      ("HOSTTYPE", scalar "x86_64"), ("MACHTYPE", scalar "x86_64-pc-linux-gnu"),
      ("OSTYPE", scalar "linux-gnu"), ("IFS", scalar " \t\n"),
      ("OPTIND", { scalar "1" with integer := true }),
      ("OPTERR", scalar "1"), ("PS4", scalar startingPrompt), ("UID", fixed "0"), ("EUID", fixed "0"),
      ("PPID", fixed (Octets.ofNat p.parent)), ("TERM", scalar "dumb")]

/-- The path that a shell takes for that of its current directory: the one from the environment if it
leads there, or else the one without links. There is none if the directory was removed. -/
def startingPath (env : Table Octets Octets) : Sh Octets := do
  let p ← process
  match Table.get? "PWD" env with
  | some path =>
    match ← node? true path with
    | .ok (place, .directory _ _) =>
      if Octets.startsWith "/" path && place = p.cwd then return path
    | _ => pure ()
  | none => pure ()
  return if FileSystem.isRemoved p.cwd then "" else placeText p.cwd

/-- Variables that are not taken from the environment. -/
def isOwn (dialect : Dialect) (name : Octets) : Bool :=
  name = "IFS" || (dialect = .full && (name = "PWD" || name = "OLDPWD" || name = "SHLVL" ||
    fixedNames.elem name && name ≠ "SHELLOPTS" && name ≠ "BASHOPTS"))

/-- The process in which a shell starts, with the environment that it is given. -/
def freshShell (dialect : Dialect) (depth : Nat) (name : Octets) (env : Table Octets Octets) :
    Sh Process := do
  let p ← process
  let w ← world
  let path ← startingPath env
  let imported := env.filter fun e => Octets.isName e.1 && !isOwn dialect e.1
  let own ← ownVariables dialect p
  let entries := imported.foldl (fun t e => Table.insert e.1 (exportedVariable e.2) t) own
  let entries := if dialect = .full && Table.has "PS4" env then
    Table.insert "PS4" (exportedVariable startingPrompt) entries else entries
  let entries := if Table.has "PATH" entries then entries else
    Table.insert "PATH" { value := some (.scalar "/usr/local/sbin:/usr/local/bin:/usr/sbin:/usr/bin:/sbin:/bin") } entries
  let entries := Table.insert "PWD" (if dialect = .full then
      exportedVariable (if path = "" then (Table.get? "PWD" env).getD "" else path)
    else { value := some (.scalar path), exported := Table.has "PWD" env }) entries
  let oldIsThere ← match Table.get? "OLDPWD" env with
    | some old => do
      match ← node? true old with
      | .ok (_, .directory _ _) => pure (some old)
      | _ => pure none
    | none => pure none
  let entries := if dialect = .plain then entries else
    Table.insert "OLDPWD" { value := oldIsThere.map .scalar, exported := true } entries
  let whole := (Table.get? wholeLocale env).getD ""
  let isUnknown := dialect = .full && (Charset.ofVariables? whole "" "").isNone
  if isUnknown then complain (name ++ ": " ++ unknownLocale wholeLocale whole ++ "\n")
  let level := nextLevel (((Table.get? "SHLVL" env).bind Octets.integer?).getD 0) 1
  if dialect = .full && maxLevel ≤ level then
    complain (name ++ ": warning: shell level (" ++ Octets.ofNat level ++ ") too high, resetting to 1\n")
  let level := if maxLevel ≤ level then 1 else level
  let entries := if dialect = .plain then entries else
    Table.insert "SHLVL" (exportedVariable (Octets.ofNat level)) entries
  let options := if dialect = .plain then [] else ["braceexpand", "hashall", "interactive-comments"]
  let features := if dialect = .plain then [] else (featureNames.filter (·.2)).map (·.1)
  return {
    pid := p.pid
    parent := p.parent
    name
    dialect
    charset := if dialect = .plain then .bytes else Charset.ofEnvironment env
    failedLocales := if isUnknown then [wholeLocale ++ "=" ++ whole] else []
    cwd := p.cwd
    cwdPath := path
    descriptors := p.descriptors
    vars := [{ entries }]
    options
    features
    traps := p.traps.filter fun t => t.2 = ""
    lastArgument := (Table.get? "_" env).getD name
    started := w.seconds
    movesSeen := w.moves.length
    depth
    maskedMode := p.maskedMode }

/-! ## Running -/

variable (runs : Runs)

/-- Reads the startup file that the environment names. -/
def runStartupFile : Sh Unit := do
  match ← scalar? "BASH_ENV" with
  | none => pure ()
  | some word =>
    let path ← expandText runs ("\"" ++ word ++ "\"")
    match ← node? true path with
    | .ok (_, .directory _ _) => pure ()
    | _ =>
      match ← withFile path remaining with
      | .error _ => pure ()
      | .ok text =>
        let depth := (← process).depth
        change fun p => { p with depth := p.depth - 1 }
        ensuring (discard (Builtin.sourceFile runs path (String.ofList text) [])) (change fun p => { p with depth })

/-- Refuses to run, with a status. -/
def refuseStart {α : Type} (message : Octets) (status : Nat) : Sh α := do
  let p ← process
  match p.dialect with
  | .full => complain (p.name ++ ": " ++ message ++ "\n")
  | .plain => complain (p.name ++ ": 0: " ++ message ++ "\n")
  throw (.exited status)

/-- Opens a script; the result is its open file, if there is anything to read. -/
def openScript (file : Octets) : Sh (Option Nat) := do
  let plain := (← process).dialect = .plain
  let found ← node? true file
  let path ←
    match found with
    | .ok _ => pure file
    | .error _ =>
      if Octets.has '/' file then pure file else pure ((← Builtin.sourcePath? file).getD file)
  match ← node? true path with
  | .ok (_, .directory _ _) =>
    if plain then return none
    change fun p => { p with name := file }
    refuseStart (file ++ ": Is a directory") 126
  | _ =>
    match ← openFile path .reading with
    | .error e =>
      if plain then refuseStart ("cannot open " ++ file ++ ": " ++
        (if e = .noEntry then "No such file" else e.description)) 2
      else refuseStart (file ++ ": " ++ e.description) (if e = .noEntry then 127 else 126)
    | .ok i =>
      let isRegular : Bool := match (← world).files[i]? with
        | some { channel := .file _, .. } => true
        | _ => false
      if !plain && isRegular then
        let cs ← remaining i
        if ((cs.take 80).takeWhile (· ≠ '\n')).any fun c => c.toNat = 0 then
          change fun p => { p with name := file }
          refuseStart (file ++ ": cannot execute binary file") 126
      return some i

/-- Refuses the arguments. -/
def refuseArguments (r : Refusal) : Sh Unit := do
  let p ← process
  match r, p.dialect with
  | .option o, .plain | .optionName o, .plain | .featureName o, .plain => refuseStart ("Illegal option " ++ o) 2
  | .option o, .full =>
    complain (p.name ++ ": " ++ o ++ ": invalid option\n" ++ shellUsage p.name)
    throw (.exited 2)
  | .optionName o, .full =>
    complain (p.name ++ ": line 0: " ++ p.name ++ ": " ++ o ++ ": invalid option name\n")
    throw (.exited 2)
  | .featureName o, .full =>
    complain (p.name ++ ": line 0: " ++ o ++ ": invalid shell option name\n")
    throw (.exited 2)

/-- The names in a list with colons between them. There is an empty one before a colon at the start, and
between two colons that follow each other, but none after one of two at the end. -/
def listedNames : Nat → Bool → List Char → List Octets
  | 0, _, _ => []
  | _, _, [] => []
  | n + 1, isFirst, cs =>
    let cs := if !isFirst && cs.head? = some ':' then cs.tail else cs
    let name := cs.takeWhile (· ≠ ':')
    let rest := cs.drop name.length
    String.ofList name :: listedNames n false (if name = [] then rest.tail else rest)

/-- Sets the options that a variable of the environment lists; unknown ones are refused. -/
def setListed (env : Table Octets Octets) (name : Octets) (known : List Octets) (set refuse : Octets → Sh Unit) :
    Sh Unit := do
  let text := (Table.get? name env).getD ""
  for n in listedNames (text.length + 1) true text.toList do
    if known.elem n then set n else refuse n

/-- Sets the options that arguments and the environment ask for. What the environment asks for cannot be
unset by an argument. -/
def setOptions (i : Invocation) (env : Table Octets Octets) : Sh Unit := do
  for o in i.options do
    if o.1 ≠ "restricted" then Builtin.setOption o.1 o.2
  if (← process).dialect = .full then
    let known := featureNames.map (·.1)
    if !i.isGuarded then
      if Table.has "POSIXLY_CORRECT" env then Builtin.setOption "posix" true
      else setListed env "SHELLOPTS" optionNames (fun n => Builtin.setOption n true) fun n => do
        complain ((← process).name ++ ": line 0: " ++ n ++ ": invalid option name\n")
      setListed env "BASHOPTS" known (fun n => Builtin.setFeature n true) fun _ => pure ()
    for f in i.features do
      if known.elem f.1 then Builtin.setFeature f.1 f.2
      else refuseArguments (.featureName f.1)

/-- The variables that a restricted shell may not change. -/
def restrictedNames : List Octets := ["PATH", "SHELL", "ENV", "BASH_ENV", "HISTFILE"]

/-- Forbids what a restricted shell may not do. -/
def restrict : Sh Unit := do
  Builtin.setFeature "restricted_shell" true
  for n in restrictedNames do
    change fun p => { p with vars := Variables.update n (fun v => { v with readonly := true }) p.vars }

/-- A plain shell that is to control jobs says that there is no terminal. -/
def refuseControl : Sh Unit := do
  let p ← process
  if p.options.elem "monitor" || p.options.elem "interactive" then
    complain (p.name ++ ": 0: can't access tty; job control turned off\n")
    Builtin.setOption "monitor" false

/-- Runs what the arguments of a shell ask for. -/
def runInvocation (i : Invocation) (env : Table Octets Octets) : Sh Unit := do
  let p ← process
  let plain := p.dialect = .plain
  if let some r := i.refused then refuseArguments r
  if i.asksVersion then
    write ("GNU bash, version " ++ versionText ++ " (x86_64-pc-linux-gnu)\n")
    throw (.exited 0)
  if i.hasCommand && i.operands = [] then
    refuseStart (if plain then "-c requires an argument" else "-c: option requires an argument") 2
  setOptions i env
  let options := (← process).options
  let operands := i.operands.drop (if i.hasCommand then 2 else if i.readsInput then 0 else 1)
  change fun p => { p with arguments := [operands] }
  if !plain && !options.elem "posix" && !options.elem "privileged" then runStartupFile runs
  if i.isRestricted && !plain then
    Builtin.setOption "restricted" true
    restrict
  if i.hasCommand then
    let text := i.operands.headD ""
    change fun p => { p with
      name := i.operands.tail.headD p.name
      parameters := i.operands.drop 2
      inputFlags := "c" }
    if plain then refuseControl else store "BASH_EXECUTION_STRING" text
    runInputText runs "-c" text.toList 0
  else
    match i.readsInput, i.operands with
    | false, file :: rest =>
      match ← openScript file with
      | none => pure ()
      | some i =>
        change fun p => { p with name := file, source := if plain then "" else file, parameters := rest }
        runFile runs i maxScriptReads 0 0
    | _, operands =>
      change fun p => { p with parameters := operands, inputFlags := "s" }
      runInput runs maxReads 0

/-- A shell from its start to its end; `depth` is the level of indirection that its traces begin with. -/
def shell (dialect : Dialect) (depth : Nat) (argv : List Octets) (env : Table Octets Octets) : Sh Ending := do
  let fresh ← freshShell dialect depth (argv.headD "") env
  let i := Invocation.read dialect argv.tail
  change fun _ => fresh
  if fresh.cwdPath = "" then
    match dialect with
    | .full => complainUnreachable "shell-init"
    | .plain => complain (fresh.name ++ ": 0: getcwd() failed: No such file or directory\n")
  noteTraps
  spend programTime
  toEnd runs do
    if dialect = .full then
      for e in if i.isGuarded then [] else env do
        match functionName? e.1 with
        | some name => importFunction name e.2
        | none => pure ()
      match Table.get? "BASH_XTRACEFD" env with
      | some s => afterStore "BASH_XTRACEFD" s
      | none => pure ()
    runInvocation runs i env

end Sh

end ShellCoverage.Shell
