import ShellCoverage.Shell.Builtin.Basic

/-!
# Commands that direct the flow

`:`, `true`, `false`, `break`, `continue`, `return`, `exit`, `shift`, `eval`, `source`, `caller`, and calls of
functions.

A call has parameters and variables of its own. The traps for single commands, and that for the end of a
call, hold inside only where the function inherits them.

* `Sh.call` : calls a function;
* `Sh.refuseNesting` : keeps calls from nesting too deep.
-/

namespace ShellCoverage.Shell.Builtin

/-- `:` and `true` -/
def succeed : Builtin := fun _ => return 0

/-- `false` -/
def failing : Builtin := fun _ => return 1

/-- The message for an argument that is no number. -/
def notNumeric (name arg : Octets) : Sh Unit := do
  match (← Sh.process).dialect with
  | .plain => complain name ("Illegal number: " ++ arg)
  | .full => complain name (arg ++ ": numeric argument required")

/-- Refuses arguments after the first one: the shell goes on with its next line. -/
def refuseMore (name : Octets) (more : List Octets) : Sh Unit := do
  if more ≠ [] && (← Sh.process).dialect = .full then
    complain name "too many arguments"
    throw (.discarded 1)

/-- `break` and `continue`: leaves loops, or goes on with their next rounds. -/
def leave (name : Octets) (jump : Nat → Jump) : Builtin := fun args => do
  let loops := (← Sh.process).loops
  if loops = 0 then
    if !(← Sh.isStrict) then
      complain name "only meaningful in a \x60for', \x60while', or \x60until' loop"
    return 0
  let go (n : Nat) : Sh Nat := do
    Sh.setStatus 0
    throw (jump n)
  match withoutMark args with
  | [] => go 1
  | a :: more =>
    match Octets.machineInteger? a with
    | none =>
      notNumeric name a
      throw (.exited 128)
    | some n =>
      refuseMore name more
      if n ≤ 0 then
        complain name (a ++ ": loop count out of range")
        Sh.setStatus 1
        throw (.breakLoop loops)
      else go (min n.toNat loops)

/-- `return` -/
def returning : Builtin := fun args => do
  let p ← Sh.process
  if p.frames.isEmpty && p.dialect = .full then
    refuse 2 "return" "can only \x60return' from a function or sourced script"
  else
    let jump (n : Nat) : Jump := if p.frames.isEmpty then .exited n else .returned n
    match withoutMark args with
    | [] => throw (jump p.status)
    | a :: more =>
      match Octets.machineInteger? a with
      | some n =>
        refuseMore "return" more
        throw (jump (n % 256).toNat)
      | none =>
        notNumeric "return" a
        throw (jump 2)

/-- `exit` -/
def exiting (name : Octets) : Builtin := fun args => do
  match withoutMark args with
  | [] => throw (.exited (← Sh.process).status)
  | a :: r =>
    match Octets.machineInteger? a with
    | some n =>
      refuseMore name r
      throw (.exited (n % 256).toNat)
    | none =>
      notNumeric name a
      throw (.exited 2)

/-- `shift` -/
def shift : Builtin := fun args => do
  let ps ← Sh.parameters
  match withoutMark args with
  | [] =>
    if ps = [] then return 1
    Sh.change fun p => { p with parameters := p.parameters.drop 1 }
    return 0
  | a :: more =>
    match Octets.machineInteger? a with
    | none =>
      notNumeric "shift" a
      return 1
    | some n =>
      refuseMore "shift" more
      if n < 0 then refuse 1 "shift" (a ++ ": shift count out of range")
      else if ps.length < n.toNat then
        if ← Sh.hasFeature "shift_verbose" then complain "shift" (a ++ ": shift count out of range")
        return 1
      else
        Sh.change fun p => { p with parameters := p.parameters.drop n.toNat }
        return 0

/-- `eval` -/
def eval (runs : Runs) : Builtin := fun args => do
  let p ← Sh.process
  let words? ← if p.dialect = .plain then pure (some args)
    else (Option.map Prod.snd) <$> options? "eval" "" "" args
  let some words := words? | return 2
  let text := Octets.join " " words
  if text = "" then Sh.setStatus 0
  else
    Sh.change fun p => { p with depth := p.depth + 1 }
    let before := if p.dialect = .plain then 0 else p.line - 1
    Sh.ensuring (Sh.runInputText runs "eval" text.toList before)
      (Sh.change fun q => { q with
        depth := p.depth
        line := p.line
        errorLine := p.errorLine
        current := p.current })
  return (← Sh.process).status

/-- The file that `source` reads: found by the search path, or else in the current directory. -/
def sourcePath? (name : Octets) : Sh (Option Octets) := do
  let isFile (path : Octets) : Sh Bool := do
    match ← Sh.node? true path with
    | .ok (_, .directory _ _) => return false
    | .ok _ => return true
    | .error _ => return false
  if Octets.has '/' name then return some name
  let dirs := Octets.pieces ':' (← Sh.scalar "PATH")
  for dir in dirs do
    let path := if dir = "" then "./" ++ name else dir ++ "/" ++ name
    if ← isFile path then return some (if dir = "" then name else path)
  if !(← Sh.isStrict) && (← isFile name) then return some name
  return none

/-- Runs an action up to a return. -/
def untilReturned (body : Sh Unit) : Sh Unit := do
  match ← Sh.attempt body with
  | .ok _ => pure ()
  | .error (.returned n) => Sh.setStatus n
  | .error j => throw j

/-- Runs the trap for returns, if there is one. -/
def runReturnTrap (runs : Runs) : Sh Unit := discard (Sh.runCondition runs "RETURN" "return trap")

/-- Runs the commands of a file in this shell, and gives their status. -/
def sourceFile (runs : Runs) (path text : Octets) (args : List Octets) : Sh Nat := do
  let p ← Sh.process
  let frame : Frame :=
    { name := "source", source := path, line := p.line, parameters := p.parameters, reads := true, arguments := args }
  let kept := if args = [] then [[path]] else if p.features.elem "extdebug" then [args] else []
  Sh.change fun p => { p with
    frames := frame :: p.frames
    arguments := kept ++ p.arguments
    depth := p.depth + 1
    input := ""
    command := if p.dialect = .plain then path else p.command
    parameters := if args = [] then p.parameters else args
    loops := 0 }
  let ending ← Sh.ensuring (Sh.untilJump (Sh.runText runs text.toList 0)) (Sh.change fun q => { q with
    frames := p.frames
    arguments := q.arguments.drop kept.length
    depth := p.depth
    input := p.input
    command := p.command
    line := p.line
    errorLine := p.errorLine
    current := p.current
    loops := p.loops
    parameters := if args = [] then q.parameters else p.parameters })
  match ending with
  | none => return (← Sh.process).status
  | some (.returned n) => return n
  | some j => throw j

/-- Runs the commands of a file that is given by a name. -/
def sourceNamed (runs : Runs) (name file : Octets) (args : List Octets) : Sh Nat := do
  let plain := (← Sh.process).dialect = .plain
  let fails : Sh Nat := do if ← Sh.isStandard then throw (.refused 1) else return 1
  let absent : Sh Nat := do
    if plain then
      Sh.fault (if Octets.has '/' file then "cannot open " ++ file ++ ": No such file" else file ++ ": not found")
    if (← Sh.isStandard) && !(Octets.has '/' file) then complain name (file ++ ": file not found")
    else Sh.report (file ++ ": No such file or directory")
    fails
  match ← sourcePath? file with
  | none => absent
  | some path =>
    match ← Sh.node? true path with
    | .error .noEntry => absent
    | .error e =>
      if plain then Sh.fault ("cannot open " ++ path ++ ": " ++ e.description)
      Sh.report (file ++ ": " ++ e.description)
      fails
    | .ok (_, .directory _ _) =>
      if plain then return 0
      complain name (file ++ ": is a directory")
      fails
    | .ok _ =>
      match ← Sh.withFile path Sh.remaining with
      | .error e =>
        if plain then Sh.fault ("cannot open " ++ path ++ ": " ++ e.description)
        Sh.report (path ++ ": " ++ e.description)
        fails
      | .ok text => sourceFile runs path (String.ofList text) args

/-- `source` and `.`: the trap for returns runs at the end, also where there is no such file. -/
def source (runs : Runs) (name : Octets) : Builtin := fun args => do
  let plain := (← Sh.process).dialect = .plain
  let words? ← if plain then pure (some (withoutMark args))
    else (Option.map Prod.snd) <$> options? name "" "" args
  let some words := words? | return 2
  match words with
  | [] =>
    if plain then return 0
    complain name "filename argument required"
    usage name
  | file :: args =>
    let status ← sourceNamed runs name file (if plain then [] else args)
    runReturnTrap runs
    return status

/-- `caller` -/
def caller : Builtin := fun args => do
  let p ← Sh.process
  let lines := Sh.callLines p
  let sources := Sh.callSources p
  let names := Sh.callNames p
  let args := withoutMark args
  if let some a := args.find? fun a => (Octets.natural? a).isNone then
    complain "caller" (Octets.noNumber a)
    return ← usage "caller"
  let n := (args.head?.bind Octets.natural?).getD 0
  if args = [] && p.frames.isEmpty then
    Sh.write "0 NULL\n"
    return 0
  match lines[n]?, sources[n + 1]? with
  | some l, some s =>
    if args = [] then Sh.write (l ++ " " ++ s ++ "\n")
    else Sh.write (l ++ " " ++ (names[n + 1]?).getD "main" ++ " " ++ s ++ "\n")
    return 0
  | _, _ => return 1

end ShellCoverage.Shell.Builtin

namespace ShellCoverage.Shell.Sh

/-! ## Calls of functions -/

variable (runs : Runs)

/-- The traps of the caller that hold in a function. -/
def inheritedTraps (p : Process) (f : Function) : Table Octets Octets :=
  p.traps.filter fun t =>
    !((t.1 = "ERR" && !(p.options.elem "errtrace")) ||
      ((t.1 = "DEBUG" || t.1 = "RETURN") && !(f.traced || p.options.elem "functrace")))

/-- Runs the body of a function, with the traps at its beginning and at its end. An end without a return
belongs to the line in which the body begins. -/
def runBody (f : Function) : Sh Unit := do
  change fun p => { p with line := f.line }
  if ← runDebugTrap runs then
    match ← attempt (runs f.body) with
    | .ok _ => change fun p => { p with line := f.line }
    | .error (.returned n) => setStatus n
    | .error j => throw j
  Builtin.runReturnTrap runs

/-- The number of calls that may be nested, if there is a limit. -/
def nestingLimit : Sh (Option Nat) := do
  let n := (← scalar? "FUNCNEST").bind Octets.natural?
  return n.bind fun n => if n = 0 then none else some n

/-- Refuses a call that would be nested too deep. -/
def refuseNesting (name : Octets) : Sh Unit := do
  if (← process).dialect = .plain then return
  if let some n ← nestingLimit then
    if n ≤ ((← process).frames.filter fun f => !f.reads).length then
      report (name ++ ": maximum function nesting level exceeded (" ++ Octets.ofNat n ++ ")")
      throw (.discarded 1 (some (← process).line))

/-- Calls a function. -/
def call (name : Octets) (f : Function) (args : List Octets) : Sh Unit := do
  refuseNesting name
  let p ← process
  change fun p => { p with
    frames := { name, source := f.source, line := p.line, parameters := p.parameters, arguments := args } :: p.frames
    vars := {} :: p.vars
    arguments := if p.features.elem "extdebug" then args :: p.arguments else p.arguments
    parameters := args
    loops := 0
    traps := inheritedTraps p f
    optionIndex := 0
    optionWord := 1 }
  let removed := p.traps.filter fun t => !((inheritedTraps p f).elem t)
  ensuring (runBody runs f) do
    let ended (q : Process) : Nat := q.vars.length - p.vars.length
    let locals := (← process).vars.take (ended (← process))
    change fun q => { q with
      options := (q.frames.head?.bind (·.options)).getD q.options
      frames := p.frames
      arguments := if p.features.elem "extdebug" then q.arguments.drop 1 else q.arguments
      vars := q.vars.drop (ended q)
      parameters := p.parameters
      loops := p.loops
      line := p.line
      errorLine := p.errorLine
      optionIndex := p.optionIndex
      optionWord := p.optionWord
      traps := removed.foldl (fun ts t => if Table.has t.1 ts then ts else Table.insert t.1 t.2 ts) q.traps }
    leaveLocales locals

end ShellCoverage.Shell.Sh
