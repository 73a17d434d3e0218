import ShellCoverage.Shell.Builtin.Completion
import ShellCoverage.Shell.Builtin.Directories
import ShellCoverage.Shell.Builtin.Input
import ShellCoverage.Shell.Builtin.Jobs
import ShellCoverage.Shell.Builtin.Limits
import ShellCoverage.Shell.Builtin.Plain.Conditions
import ShellCoverage.Shell.Builtin.Plain.Signals
import ShellCoverage.Shell.Launch
import ShellCoverage.Shell.Redirection
import ShellCoverage.Shell.Search

/-!
# Finding and invoking commands

A name means a function, a command of the shell, or a program, in this order.

* `Sh.builtins` : the commands of the shell;
* `Sh.invoke` : runs the command that expanded words mean.
-/

namespace ShellCoverage.Shell

namespace Sh

variable (runs : Runs)

/-- The commands that every shell has. -/
def commonBuiltins : List (Octets × Builtin) :=
  [(":", Builtin.succeed), ("true", Builtin.succeed), ("false", Builtin.failing), ("eval", Builtin.eval runs),
    (".", Builtin.source runs "."), ("cd", Builtin.cd), ("pwd", Builtin.pwd), ("echo", Builtin.echo)]

/-- The other commands of the plain shell. -/
def plainBuiltins : List (Octets × Builtin) :=
  let exported := Builtin.Plain.mark "export" (·.exported) fun v => { v with exported := true }
  let readonly := Builtin.Plain.mark "readonly" (·.readonly) fun v => { v with readonly := true }
  [("break", Builtin.Plain.leave Jump.breakLoop), ("continue", Builtin.Plain.leave Jump.continueLoop),
    ("return", Builtin.Plain.returning), ("exit", Builtin.Plain.exiting), ("shift", Builtin.Plain.shift),
    ("ulimit", Builtin.Plain.ulimit), ("chdir", Builtin.cd), ("export", exported), ("readonly", readonly), ("local", Builtin.Plain.declareLocal),
    ("unset", Builtin.Plain.unset), ("set", Builtin.Plain.set), ("trap", Builtin.Plain.trap),
    ("umask", Builtin.Plain.umask), ("times", Builtin.Plain.times), ("alias", Builtin.Plain.aliasCommand),
    ("unalias", Builtin.Plain.unaliasCommand), ("read", Builtin.Plain.read), ("getopts", Builtin.Plain.getopts),
    ("printf", Builtin.Plain.printf), ("test", Builtin.Plain.test "test"), ("[", Builtin.Plain.test "["),
    ("kill", Builtin.Plain.kill), ("wait", Builtin.Plain.wait), ("jobs", Builtin.Plain.jobs),
    ("fg", Builtin.Plain.resume), ("bg", Builtin.Plain.resume)]

/-- The other commands of the full shell. -/
def fullBuiltins : List (Octets × Builtin) :=
  [("break", Builtin.leave "break" Jump.breakLoop), ("continue", Builtin.leave "continue" Jump.continueLoop),
    ("return", Builtin.returning), ("exit", Builtin.exiting "exit"), ("shift", Builtin.shift),
    ("export", Builtin.mark runs "export" 'x'), ("readonly", Builtin.mark runs "readonly" 'r'),
    ("local", Builtin.declare runs "local"), ("unset", Builtin.unset), ("set", Builtin.set), ("trap", Builtin.trap),
    ("ulimit", Builtin.ulimit), ("umask", Builtin.umask), ("times", Builtin.times), ("alias", Builtin.aliasCommand),
    ("unalias", Builtin.unaliasCommand), ("read", Builtin.read), ("getopts", Builtin.getopts),
    ("printf", Builtin.printf), ("test", Builtin.test "test"), ("[", Builtin.test "["), ("kill", Builtin.kill),
    ("wait", Builtin.wait), ("jobs", Builtin.jobs), ("fg", Builtin.resume "fg"), ("bg", Builtin.resume "bg"),
    ("source", Builtin.source runs "source"), ("declare", Builtin.declare runs "declare"),
    ("typeset", Builtin.declare runs "typeset"), ("let", Builtin.letCommand), ("shopt", Builtin.shopt),
    ("pushd", Builtin.pushd), ("popd", Builtin.popd), ("dirs", Builtin.dirs),
    ("mapfile", Builtin.mapfile runs "mapfile"), ("readarray", Builtin.mapfile runs "readarray"),
    ("caller", Builtin.caller), ("help", Builtin.help), ("disown", Builtin.disown),
    ("logout", fun _ => Builtin.refuse 1 "logout" "not login shell: use \x60exit'"),
    ("suspend", fun _ => Builtin.refuse 1 "suspend" "cannot suspend: no job control"), ("bind", Builtin.bind),
    ("complete", Builtin.complete), ("compgen", Builtin.compgen runs), ("compopt", Builtin.compopt),
    ("history", Builtin.succeed), ("fc", Builtin.succeed), ("enable", Builtin.enable)]

/-- The commands of the shell that are handled with the words of a command. -/
def directNames : List Octets := ["exec", "command", "type", "hash", "builtin"]

/-- The commands of the shell. -/
def builtins (d : Dialect) : List (Octets × Builtin) :=
  match d with
  | .plain => commonBuiltins runs ++ plainBuiltins
  | .full => commonBuiltins runs ++ fullBuiltins runs

/-- The name is that of a command of the shell. -/
def isBuiltin (name : Octets) : Sh Bool := do
  let p ← process
  if p.disabled.elem name then return false
  return (directNames.elem name && (p.dialect = .full || name ≠ "builtin")) ||
    ((builtins runs p.dialect).lookup name).isSome

/-! ## Programs -/

/-- Reports why a program could not be started, and gives the status. -/
def refuseProgram (path : Octets) (e : Errno) : Sh Nat := do
  let plain := (← process).dialect = .plain
  match e with
  | .noEntry =>
    match ← node? true path with
    | .ok _ => report (path ++ if plain then ": not found" else ": cannot execute: required file not found")
    | .error _ => report (path ++ if plain then ": not found" else ": No such file or directory")
    return 127
  | e =>
    let isDirectory ← Testing.onNode true path Node.isDirectory
    let cause : Octets :=
      if isDirectory && !plain then "Is a directory" else e.description
    report (path ++ ": " ++ cause)
    return 126

/-- The number of buckets of the functions of the full shell. -/
def functionBuckets : Nat := 512

/-- What a program is given: the variables that are passed on. The full shell adds the functions and the
path of the program. -/
def environmentFor (path : Octets) : Sh (Table Octets Octets) := do
  let env ← environment
  let p ← process
  if p.dialect = .plain then return env
  let bodies ← Builtin.bodyText
  let exported := (Value.inBuckets functionBuckets p.functions).filter fun f => f.2.exported
  let functions := exported.map fun f =>
    (functionMarks.1 ++ f.1 ++ functionMarks.2, "() " ++ Listing.flatBody bodies f.2.body)
  return Table.erase "_" env ++ functions ++ [("_", path)]

/-- The process becomes the program at a path, which is given an environment. A file that is no program for the system is run as a
script. -/
def become (path : Octets) (words : List Octets) (env : Table Octets Octets) : Sh Ending := do
  let p ← process
  match ← launch runs path words env with
  | .ok e => return e
  | .error .notExecutable =>
    let content := match ← node? true path with
      | .ok (_, .file _ content) => content
      | _ => []
    if content = [] then return .exited 0
    if (content.take 80).takeWhile (· ≠ 10) |>.elem 0 then
      report (path ++ ": cannot execute binary file: Exec format error")
      return .exited 126
    let depth := if p.dialect = .plain then p.depth else p.depth + 1
    shell runs p.dialect depth (p.name :: path :: words.tail) env
  | .error e => return .exited (← refuseProgram path e)

/-- Reports that a name means nothing, and gives the status. -/
def refuseName (name : Octets) : Sh Nat := do
  let searched ← scalar? "PATH"
  if (← process).dialect = .plain then
    report (if name = "" then ": Permission denied" else name ++ ": not found")
  else if searched.getD "" = "" then report (name ++ ": No such file or directory")
  else report (Quoting.cited (← charset) name ++ ": command not found")
  return 127

/-- What a process does to run the program that a name means, or the function for names that mean
nothing. -/
def becomeNamed (words : List Octets) (path? : Option Octets) : Sh Ending := do
  let name := words.headD ""
  match path? with
  | some path => become runs path words (← environmentFor path)
  | none =>
    let handler : Octets := "command_not_found_handle"
    let p ← process
    match Table.get? handler p.functions with
    | none => return .exited (← refuseName name)
    | some f =>
      change fun p => { p with
        subshells := p.subshells + 1
        parameters := words
        frames := { name := handler, source := f.source, line := p.line, parameters := p.parameters } :: p.frames }
      Builtin.untilReturned (runs f.body)
      return .exited (← process).status

/-- Runs the program that a name means in a process of its own, with redirections and with assignments
that the redirections do not know of. -/
def external (words : List Octets) (rs : List Redirect) (scope? : Option Scope) : Sh Unit := do
  let inner : Sh (Option Octets) := knownPath? (words.headD "")
  let path? ← match scope? with
    | none => inner
    | some scope => do
      let vs := (← process).vars
      change fun p => { p with vars := scope :: vs }
      let path? ← inner
      change fun p => { p with vars := vs }
      if Table.has "PATH" scope.entries then forgetPaths
      pure path?
  tidyJobs
  let child := { (← copyProcess) with subshells := (← process).subshells }
  spawn child (entryOf child) do
    let act : Sh Ending := do
      if !(← redirect runs rs) then return .exited 1
      if (← Builtin.isRestricted) && Octets.has '/' (words.headD "") then
        report (words.headD "" ++ ": restricted: cannot specify \x60/' in command names")
        return .exited 1
      if let some scope := scope? then change fun p => { p with vars := scope :: p.vars }
      becomeNamed runs words path?
    match ← attempt act with
    | .ok e => return e
    | .error .stopped => throw .stopped
    | .error j => return endingOf j (← process).status
  let text : Sh Octets := do
    match (← process).current with
    | some c => return Listing.command (← Builtin.bodyText) c
    | none => return Octets.join " " words
  setStatus (← awaitCommand child.pid text).status

/-! ## What a name means -/

/-- What a name means. -/
inductive Meaning where
  | alias (text : Octets)
  | keyword
  | function (f : Function)
  | builtin
  /-- A program whose path is remembered. -/
  | hashed (path : Octets)
  | file (path : Octets)
  deriving Inhabited

/-- What a name means, the first meaning first. Remembered paths count where `remembers` is set. -/
def meanings (name : Octets) (remembers : Bool) : Sh (List Meaning) := do
  let p ← process
  let aliases := if p.dialect = .plain || p.features.elem "expand_aliases" then p.aliases else []
  let fromPath : List Octets ←
    if Octets.has '/' name then
      if ← Program.isProgram name then pure [name] else pure []
    else do
      ((← searchPath).map fun d => Program.inDirectory d name).filterM Program.isProgram
  let isCommand ← isBuiltin runs name
  let hidden : Bool := Table.has name p.functions || isCommand || keywords.elem name || Table.has name aliases
  let remembered? ← if remembers && (p.dialect = .plain || !hidden) then rememberedPath? name else pure none
  return ((Table.get? name aliases).map Meaning.alias).toList ++
    (if keywords.elem name then [.keyword] else []) ++
    ((Table.get? name p.functions).map Meaning.function).toList ++
    (if isCommand then [.builtin] else []) ++ (remembered?.map Meaning.hashed).toList ++ fromPath.map Meaning.file

/-- Describes what a name means. -/
def describeMeaning (name : Octets) (m : Meaning) : Sh Unit := do
  match m with
  | .alias text =>
    if (← process).dialect = .plain then write (name ++ " is an alias for " ++ text ++ "\n")
    else write (name ++ " is aliased to \x60" ++ text ++ "'\n")
  | .keyword => write (name ++ " is a shell keyword\n")
  | .function f =>
    if (← process).dialect = .plain then write (name ++ " is a shell function\n")
    else write (name ++ " is a function\n" ++ Listing.function (← Builtin.bodyText) name f.body ++ "\n")
  | .builtin =>
    let isSpecial := Builtin.isSpecial (← process).dialect name && (← isStrict)
    write (name ++ (if isSpecial then " is a special shell builtin\n" else " is a shell builtin\n"))
  | .hashed path =>
    if (← process).dialect = .plain then write (name ++ " is a tracked alias for " ++ path ++ "\n")
    else write (name ++ " is hashed (" ++ path ++ ")\n")
  | .file path =>
    write (name ++ " is " ++ path ++ "\n")
    if (← process).dialect = .plain && !Octets.has '/' name then remember name path 0

/-- The kind of a meaning in one word. -/
def Meaning.kind : Meaning → Octets
  | .alias _ => "alias"
  | .keyword => "keyword"
  | .function _ => "function"
  | .builtin => "builtin"
  | .hashed _ | .file _ => "file"

/-- `type` -/
def typeCommand : Builtin := fun args => do
  let plain := (← process).dialect = .plain
  match ← if plain then pure (some ([], args)) else Builtin.options? "type" "afptP" "" args with
  | none => return 2
  | some (os, names) =>
    let mut status := 0
    for name in names do
      let ms ← meanings runs name (!Builtin.has os 'a')
      let ms := ms.filter fun m => match m with
        | .function _ => !(Builtin.has os 'f' || Builtin.has os 'P')
        | .hashed _ | .file _ => true
        | _ => !(Builtin.has os 'P')
      let ms := if Builtin.has os 'a' then ms else ms.take 1
      if ms.isEmpty then
        if plain then
          write (name ++ ": not found\n")
          status := 127
        else
          if !(Builtin.has os 't' || Builtin.has os 'p' || Builtin.has os 'P') then
            Builtin.complain "type" (name ++ ": not found")
          status := 1
      for m in ms do
        if Builtin.has os 't' then write (m.kind ++ "\n")
        else if Builtin.has os 'p' || Builtin.has os 'P' then
          match m with
          | .hashed path | .file path => write (path ++ "\n")
          | _ => pure ()
        else describeMeaning name m
    return status

/-- `command -v` and `command -V` -/
def tellCommand (verbose : Bool) (names : List Octets) : Sh Nat := do
  let p ← process
  let plain := p.dialect = .plain
  let mut good := false
  for name in if plain then names.take 1 else names do
    match (← meanings runs name true).head? with
    | none =>
      if verbose then
        if plain then write (name ++ ": not found\n") else Builtin.complain "command" (name ++ ": not found")
    | some m =>
      good := true
      if verbose then describeMeaning name m
      else match m with
        | .alias text =>
          write ("alias " ++ name ++ "=" ++ (if plain then Builtin.Plain.quoted text else Quoting.single text) ++ "\n")
        | .hashed path => write (path ++ "\n")
        | .file path =>
          write (path ++ "\n")
          if plain && !Octets.has '/' name then remember name path 0
        | _ => write (name ++ "\n")
  return if good || names = [] then 0 else if plain then 127 else 1

/-! ## Invoking -/

/-- `exec` with a command: the shell becomes the program. -/
def exec (args : List Octets) : Sh Nat := do
  let plain := (← process).dialect = .plain
  match ← if plain then pure (some ([], args)) else Builtin.options? "exec" "cl" "a" args with
  | none => return 2
  | some (_, []) => return 0
  | some (os, words) =>
    if ← Builtin.isRestricted then return ← Builtin.refuse 1 "exec" "restricted"
    let name := words.headD ""
    let own := (os.lookup 'a').getD name
    let given := (if Builtin.has os 'l' then "-" ++ own else own) :: words.tail
    let path? ← programPath? name
    let p ← process
    let path? : Option Octets := path?.map fun path =>
      if Octets.startsWith "/" path || p.dialect = .plain then path
      else p.cwdPath ++ "/" ++ (Octets.dropHead? "./" path).getD path
    match path? with
    | none =>
      Builtin.complain "exec" (name ++ ": not found")
      throw (.exited 127)
    | some path =>
      change fun p => { p with traps := p.traps.filter fun t => t.2 = "" }
      noteTraps
      if p.dialect = .full && (p.subshells = 0 || p.isCaptured) then
        let level := ((← scalar? "SHLVL").bind Octets.integer?).getD 0
        let level := Octets.ofNat (nextLevel level (-1))
        change fun p => { p with
          vars := Variables.update "SHLVL" (fun _ => exportedVariable level) p.vars }
      let env ← if Builtin.has os 'c' then pure [] else environmentFor path
      match ← become runs path given env with
      | .exited n => throw (.exited n)
      | .killed n => throw (.killed n)

/-- Runs a command of the shell, which messages about expressions name. A special command that is used in a
wrong way ends a shell which keeps to the standard, unless it is run by another command. -/
def runBuiltin (name : Octets) (direct : Bool) (body : Sh Nat) : Sh Unit := do
  let before := (← process).command
  change fun p => { p with command := name }
  let r ← attempt body
  change fun p => { p with command := before }
  let counts := !direct && Builtin.isSpecial (← process).dialect name && (← isStrict)
  let runsText := ["eval", ".", "source"].elem name
  match r with
  | .ok n =>
    if n = 2 && counts && !runsText && (← process).dialect = .full then throw (.exited n) else setStatus n
  | .error (.refused n) => if counts then throw (.exited n) else setStatus n
  | .error j => throw j

/-- The options of `command`, and the other arguments; nothing, after a message, if they are refused. -/
def commandOptions (args : List Octets) : Sh (Option (Builtin.Options × List Octets)) := do
  let p ← process
  change fun p => { p with command := "command" }
  let r ← attempt (Builtin.options? "command" "pVv" "" args)
  change fun q => { q with command := p.command }
  conclude r

/-- Runs the command that expanded words mean. Functions are passed over if `direct` is set; the words
before a command that is passed on are at most so many. -/
def invokeWith : Nat → Bool → List Octets → Sh Unit
  | 0, _, _ => pure ()
  | _, _, [] => setStatus 0
  | n + 1, direct, name :: args => do
    let p ← process
    let isSpecial : Bool := Builtin.specialNames.elem name && (← isStandard)
    let f? := if direct || isSpecial then none else Table.get? name p.functions
    match f? with
    | some f => call runs name f args
    | none =>
      if p.disabled.elem name then return ← external runs (name :: args) [] none
      if p.dialect = .full && args.head? = some "--help" && Builtin.isExplained name then
        return ← setStatus (← Builtin.explain name)
      match name with
      | "exec" => runBuiltin name direct (exec runs args)
      | "type" => runBuiltin name direct (typeCommand runs args)
      | "hash" => runBuiltin name direct (hash (isBuiltin runs) args)
      | "command" =>
        match ← attempt (commandOptions args) with
        | .error (.refused status) => setStatus status
        | .error j => throw j
        | .ok none => setStatus 2
        | .ok (some (os, rest)) =>
          if Builtin.has os 'v' || Builtin.has os 'V' then
            setStatus (← tellCommand runs (Builtin.has os 'V') rest)
          else invokeWith n true rest
      | name =>
        if name = "builtin" && p.dialect = .full then
          match Builtin.withoutMark args with
          | [] => setStatus 0
          | b :: rest =>
            if ← isBuiltin runs b then invokeWith n true (b :: rest)
            else
              Builtin.complain "builtin" (b ++ ": not a shell builtin")
              setStatus 1
        else
          match (builtins runs p.dialect).lookup name with
          | some b => runBuiltin name direct (b args)
          | none => external runs (name :: args) [] none

/-- Runs the command that expanded words mean. -/
def invoke (words : List Octets) : Sh Unit := invokeWith runs (words.length + 1) false words

end Sh

end ShellCoverage.Shell
