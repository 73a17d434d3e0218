import ShellCoverage.Shell.Conditional
import ShellCoverage.Shell.Menu
import ShellCoverage.Shell.Simple
import ShellCoverage.Shell.Timing

/-!
# The interpreter

Each kind of command is run by a function that gets the way to run the commands inside it as an argument;
`Interpreter.run` ties these functions together.

* `Interpreter.step` : runs a command, given how to run those inside it;
* `Interpreter.run` : runs a command.
-/

namespace ShellCoverage.Shell.Interpreter
open Sh

variable (runs : Runs)

/-! ## Failures and traps -/

/-- Runs an action that ends a command. Where failures matter, the trap for errors runs after a failure if
there was one before the command, and the shell ends if it is asked to. -/
def checkingFailure (body : Sh Unit) : Sh Unit := do
  let isTrapped := Table.has "ERR" (← process).traps
  let isNegated := (← process).negated
  change fun p => { p with negated := false }
  body
  let p ← process
  if p.status ≠ 0 && !p.forgiving && !isNegated then
    if isTrapped then
      change fun p => { p with line := p.errorLine }
      discard (runCondition runs "ERR" "error trap")
      change fun q => { q with line := p.line }
    if (← process).options.elem "errexit" then throw (.exited (← process).status)

/-- Runs an action whose failure does not end the shell. -/
def forgiving (body : Sh Unit) : Sh Unit := do
  let before := (← process).forgiving
  change fun p => { p with forgiving := true }
  ensuring body (change fun p => { p with forgiving := before })

/-- Runs a command whose status is turned around. Failures inside it do not end the full shell either way, but there
is a trap for them as long as the shell does not end at failures. -/
def negating (c : Command) (body : Sh Unit) : Sh Unit := do
  if (← process).dialect = .plain || (← hasOption "errexit") then forgiving body
  else
    let before := (← process).negated
    change fun p => { p with negated := c.mayFail }
    ensuring body (change fun p => { p with negated := before })

/-- Runs a command after the trap for it. A debugger may have it passed over. -/
def unlessSkipped (c : Command) (body : Sh Unit) : Sh Unit := do
  noteCommand c
  let negated := (← process).negated
  change fun p => { p with negated := false }
  if ← runDebugTrap runs then
    change fun p => { p with negated }
    body
  else setStatus 0

/-- Runs a command whose head stands in a line. -/
def fromLine (line : Nat) (body : Sh Unit) : Sh Unit :=
  keepingLine do
    change fun p => { p with line }
    body

/-- Runs a command that has a status of its own. -/
def finishing (body : Sh Unit) : Sh Unit :=
  checkingFailure runs do
    body
    change fun p => { p with pipeline := [p.status] }

/-- Runs a command that stands in a line and may fail. -/
def inLine (c : Command) (line : Nat) (body : Sh Unit) : Sh Unit :=
  keepingLine do
    noteLine line
    unlessSkipped runs c (finishing runs body)

/-! ## Loops -/

/-- What a round of a loop leads to. -/
inductive Round where
  | next
  | done

/-- A round of a loop: jumps that mean this loop end here. -/
def round (body : Sh Unit) : Sh Round := do
  match ← attempt body with
  | .ok _ => return .next
  | .error (.breakLoop n) => if n ≤ 1 then return .done else throw (.breakLoop (n - 1))
  | .error (.continueLoop n) => if n ≤ 1 then return .next else throw (.continueLoop (n - 1))
  | .error j => throw j

/-- Runs an action inside a loop. -/
def inLoop (body : Sh Unit) : Sh Unit := do
  change fun p => { p with loops := p.loops + 1 }
  ensuring body (change fun p => { p with loops := p.loops - 1 })

/-- Loops have at most so many rounds. -/
def maxRounds : Nat := 1000000

/-- The rounds of a loop with a condition; `last` is the status of the round before. -/
def whileRounds (untilTrue : Bool) (test body : Command) : Nat → Nat → Sh Unit
  | 0, _ => throw .stopped
  | n + 1, last => do
    match ← round (forgiving (runs test)) with
    | .done => pure ()
    | .next =>
      let holds : Bool := (← process).status = 0
      if holds = untilTrue then setStatus last
      else
        match ← round (runs body) with
        | .done => pure ()
        | .next => whileRounds untilTrue test body n (← process).status

/-- The text of the words of a loop, as a trace shows it. -/
def loopHead (keyword name : Octets) (ws : Option (List Word)) : Octets :=
  keyword ++ " " ++ name ++ " in " ++ (match ws with | some ws => Octets.join " " ws | none => "\"$@\"")

/-- The fields that a loop goes through. -/
def loopFields (ws : Option (List Word)) : Sh (List Octets) :=
  match ws with
  | some ws => fields runs ws
  | none => parameters

/-- Gives the variable of a loop its next value; a reference refers to something else then. The result says
whether that was allowed. -/
def assignRound (name s : Octets) : Sh Bool := do
  let v? := Variables.find? name (← process).vars
  if ← isCircular name then
    warnCircular name 1
    return false
  else if v?.any (·.reference) then
    if !(Assignment.isReference s) then
      report ("\x60" ++ s ++ "': not a valid identifier")
      return false
    change fun p => { p with
      vars := Variables.update name (fun v => { v with value := some (.scalar s) }) p.vars }
    return true
  else if ← isReadonly name then
    reportReadonly name
    if ← isStandard then throw (.exited 1)
    return false
  else
    store name (← valueFor name s false "")
    return true

/-- The rounds of a loop over fields. -/
def forRounds (c : Command) (line : Nat) (name head : Octets) (body : Command) : List Octets → Sh Unit
  | [] => pure ()
  | s :: ss => do
    change fun p => { p with line }
    let isWanted ←
      if (← process).dialect = .full then do
        trace runs head
        noteCommand c
        runDebugTrap runs
      else pure true
    if !isWanted then forRounds c line name head body ss
    else if !(← assignRound name s) then setStatus 1
    else
      match ← round (runs body) with
      | .done => pure ()
      | .next => forRounds c line name head body ss

/-- The value of an expression of a command, with its trace; nothing, after a message, if it is wrong. -/
def arithmeticValue? (text : Octets) : Sh (Option Int) := do
  let text ← expandExpression runs text
  trace runs ("(( " ++ text ++ " ))")
  Builtin.evaluated? "((" text

/-- The value of an expression of a loop, with its trace; an empty one is true. A debugger may have it
passed over. -/
def loopValue? (line : Nat) (text : Octets) : Sh (Option Int) := do
  let text := if Octets.trim text.toList = [] then "1" else text
  let before := (← process).line
  change fun p => { p with line }
  let text ← expandExpression runs text
  trace runs ("(( " ++ text ++ " ))")
  noteCommand (.arithmetic line text)
  let value? ← if ← runDebugTrap runs then Builtin.evaluated? "((" text else pure (some 0)
  change fun p => { p with line := before }
  return value?

/-- The rounds of an arithmetic loop; `last` is the status of the round before. -/
def arithmeticRounds (line : Nat) (test step : Octets) (body : Command) : Nat → Nat → Sh Unit
  | 0, _ => throw .stopped
  | n + 1, last => do
    match ← loopValue? runs line test with
    | none => setStatus 1
    | some 0 => setStatus last
    | some _ =>
      match ← round (runs body) with
      | .done => pure ()
      | .next =>
        let status := (← process).status
        match ← loopValue? runs line step with
        | none => setStatus 1
        | some _ => arithmeticRounds line test step body n status

/-- Whether a word may name the variable of a loop; a message says so if it may not. -/
def mayLoopOver (name : Octets) : Sh Bool := do
  if Octets.isName name then return true
  report ("\x60" ++ name ++ "': not a valid identifier")
  setStatus 1
  return false

/-- The rounds of a selection; the menu is shown when `shows` is set. -/
def selectRounds (name : Octets) (items : List Octets) (body : Command) : Nat → Bool → Sh Unit
  | 0, _ => throw .stopped
  | n + 1, shows => do
    if shows then complain (Menu.text (← screenWidth) items)
    complain ((← scalar? "PS3").getD "#? ")
    if (← Builtin.readFor "" []) ≠ 0 then
      write "\n"
      setStatus 1
    else
      let reply ← scalar "REPLY"
      if reply = "" then selectRounds name items body n true
      else
        let choice := (Octets.integer? reply).bind fun k => if k ≤ 0 then none else items[k.toNat - 1]?
        store name (choice.getD "")
        match ← round (runs body) with
        | .done => pure ()
        | .next =>
          let reply? ← scalar? "REPLY"
          selectRounds name items body n (reply? = some "")

/-! ## Other commands -/

/-- The commands of the clauses that a word selects. The status is that of the last one that ran, or 0;
until then it is the one before. `ran` says that a clause ran. -/
def choose (fold extended : Bool) (subject : Octets) :
    List (List Word × Option Command × ClauseEnd) → Bool → Bool → Sh Unit
  | [], _, ran => if ran then pure () else setStatus 0
  | (ps, c, e) :: clauses, entered, ran => do
    let selected ← if entered then pure true else
      ps.anyM fun p => do
        let k ← charset
        return k.accepts fold (k.pattern extended (← expandPattern runs p)) subject
    if selected then
      match c with
      | some c => runs c
      | none => setStatus 0
      match e with
      | .stop => pure ()
      | .fallThrough => choose fold extended subject clauses true true
      | .testNext => choose fold extended subject clauses false true
    else choose fold extended subject clauses false ran

/-- Remembers the line in which a subshell ends, for which the shell does not wait. -/
def noteEnd : Command → Sh Unit
  | .subshell line _ | .redirected (.subshell line _) _ => noteLine line
  | _ => pure ()

/-- Starts a command as part of a pipeline, in a process of its own, with the given descriptors. The process does
nothing if a debugger has the command passed over. -/
def startPart (c : Command) (descriptors : List (Nat × Nat)) : Sh Nat := do
  let before := (← process).line
  let isWanted ← match c with
    | .simple line _ _ =>
      noteLine line
      noteCommand c
      runDebugTrap runs
    | c =>
      if descriptors.any (·.1 = 1) then noteEnd c
      pure true
  if let .simple _ _ _ := c then change fun p => { p with line := before }
  let child := descriptors.foldl (fun p d => withDescriptor d.1 d.2 p) (← copyProcess)
  let body : Sh Unit := match c with
    | .subshell _ body => runs body
    | .simple line ws rs => do
      noteLine line
      if isWanted then simple runs ws rs
    | c => runs c
  start runs child body
  return child.pid

/-- Starts the commands of a pipeline, the first of which reads from an open file; the last one is run by
the shell itself if it is asked to, and has no number then. -/
def startParts (input : Option Nat) : List Command → Sh (List Nat)
  | [] => return []
  | [c] => do
    if ← hasFeature "lastpipe" then
      let old := (← process).descriptors
      let stdin? := Table.get? 0 old
      if let some i := stdin? then changeWorld (·.retain i)
      if let some i := input then moveToDescriptor 0 i
      ensuring (forgiving (runs c)) do
        restoreDescriptors old [0]
        if let some i := stdin? then release i
      return []
    else
      let pid ← startPart runs c (input.toList.map fun i => (0, i))
      if let some i := input then release i
      return [pid]
  | c :: cs => do
    let (reader, writer) ← addPipe (some pipeCapacity)
    let pid ← startPart runs c ((input.toList.map fun i => (0, i)) ++ [(1, writer)])
    release writer
    if let some i := input then release i
    return pid :: (← startParts (some reader) cs)

/-- Says which signals have ended the commands of a pipeline: the full shell names the one to which
the pipeline owes its status. -/
def tellPipeline (cs : List Command) (es : List (Nat × Ending)) : Sh Unit := do
  if (← process).dialect = .plain then
    for e in es do
      tellEnding e.1 e.2 (pure "")
  else
    let isAnyFailure ← hasOption "pipefail"
    let deciding? := if isAnyFailure then es.reverse.find? fun e => e.2.status ≠ 0
      else if es.length = cs.length then es.getLast? else none
    if let some (pid, e) := deciding? then
      tellEnding pid e (do return Listing.command (← Builtin.bodyText) (.pipeline cs))

/-- Runs the commands of a pipeline, and gives their statuses. -/
def pipelineStatuses (cs : List Command) : Sh (List Nat) := do
  tidyJobs
  let pids ← startParts runs none cs
  let own := (← process).status
  pause (.allEnded pids) none false
  let es ← pids.mapM fun pid => do return (pid, ← awaitEnd pid)
  tellPipeline cs es
  noteKilled
  let statuses := es.map fun e => e.2.status
  return if pids.length = cs.length then statuses else statuses ++ [own]

/-- The status of a pipeline: that of its last command, or of the last one that failed. -/
def pipelineStatus (anyFailure : Bool) (statuses : List Nat) : Nat :=
  if anyFailure then ((statuses.reverse.find? (· ≠ 0)).getD 0) else statuses.getLastD 0

/-- The commands of a pipeline. -/
def pipelineCommands : Command → List Command
  | .pipeline cs => cs
  | c => [c]

/-- Adds a job. -/
def addJob (pids : List Nat) (text : Octets) : Sh Unit := do
  let pid := pids.getLastD 0
  change fun p => { p with
    jobs := p.jobs ++ [{ number := (p.jobs.getLast?.map (·.number)).getD 0 + 1, pids, text }]
    lastJob := some pid
    children := p.children ++ pids
    status := 0 }
  chooseCurrentJob

/-- Runs a command in the background. It reads nothing unless it is a pipeline. -/
def background (c : Command) : Sh Unit := do
  tidyJobs
  let text := Listing.command (← Builtin.bodyText) c
  noteEnd c
  let child ← copyProcess
  let nothing ← addFile { channel := .null }
  let body : Sh Unit :=
    match c with
    | .subshell _ c => finishing runs (runs c)
    | c => runs c
  let child := withDescriptor 0 nothing { child with jobs := [] }
  start runs child body
  release nothing
  addJob [child.pid] text

/-- Starts a command with a pipe to it and one from it; the descriptors are the elements of a variable. -/
def coprocess (name : Octets) (c : Command) : Sh Unit := do
  tidyJobs
  let text := Listing.command (← Builtin.bodyText) c
  let (itsInput, myOutput) ← addPipe (some pipeCapacity)
  let (myInput, itsOutput) ← addPipe (some pipeCapacity)
  let child := withDescriptor 1 itsOutput (withDescriptor 0 itsInput { (← copyProcess) with jobs := [] })
  start runs child (runs c)
  release itsInput
  release itsOutput
  let input ← highDescriptor
  moveToDescriptor input myInput
  let output := (← highDescriptor) - 2
  moveToDescriptor output myOutput
  addJob [child.pid] text
  change fun p => { p with coprocess := some { name, pid := child.pid } }
  storeValue name (.indexed (Value.ofList 0 [Octets.ofNat input, Octets.ofNat output]))
  store (name ++ "_PID") (Octets.ofNat child.pid)

/-- Takes away what belongs to a coprocess that has ended. -/
def tidyCoprocess : Sh Unit := do
  match (← process).coprocess with
  | none => pure ()
  | some c =>
    if !(← world).isAlive c.pid then
      match ← lookup? c.name with
      | some (.indexed es) =>
        for e in es do
          if let some fd := Octets.natural? e.2 then closeDescriptor fd
      | _ => pure ()
      change fun p => { p with
        coprocess := none
        vars := Variables.remove (c.name ++ "_PID") false (Variables.remove c.name false p.vars) }

/-- The commands of a sequence, in order. -/
def parts : Command → List Command
  | .sequence _ a b => parts a ++ parts b
  | c => [c]

/-- A word that a function may be named with: one without quotes and expansions that is no number. -/
def isFunctionName (w : Word) : Bool :=
  !(w.toList.any ['\x27', '"', '\\', '\x60', '$'].elem) && !(w.toList.all Char.isDigit)

/-- The file that a function is defined in. -/
def definingSource : Sh Octets := do
  let p ← process
  if p.currentSource ≠ "" then return p.currentSource
  else return if p.inputFlags = "c" then "environment" else "main"

/-- Shows the time that a command took. -/
def showTiming (portable : Bool) (t : Timing) : Sh Unit := do
  let wanted ← scalar? "TIMEFORMAT"
  let format := if portable then Timing.portableFormat else wanted.getD Timing.longFormat
  if format ≠ "" then
    match t.shown format with
    | .ok text => complain (text ++ "\n")
    | .error c => report ("TIMEFORMAT: \x60" ++ c.toString ++ "': invalid format character")

/-- Runs a command, given how to run those inside it. -/
def execute (c : Command) : Sh Unit := do
  match c with
  | .simple line ws rs => inLine runs c line (simple runs ws rs)
  | .pipeline cs =>
    checkingFailure runs do
      let statuses ← pipelineStatuses runs cs
      setStatus (pipelineStatus (← hasOption "pipefail") statuses)
      change fun p => { p with pipeline := statuses }
  | .negated (.negated c) => runs c
  | .negated c =>
    negating c (runs c)
    change fun p => { p with status := if p.status = 0 then 1 else 0 }
  | .timed portable c =>
    let start := (← world).clock
    runs c
    showTiming portable { passed := ((← world).clock - start) / 1000 }
  | .andThen a b =>
    forgiving (runs a)
    if (← process).status = 0 then runs b
  | .orElse a b =>
    forgiving (runs a)
    if (← process).status ≠ 0 then runs b
  | .sequence _ a b =>
    for c in parts a ++ parts b do
      runs c
  | .background c => background runs c
  | .group c => runs c
  | .subshell line body =>
    keepingLine do
      noteLine line
      noteCommand c
      finishing runs do
        let e ← forked runs (runs body) (do return Listing.command (← Builtin.bodyText) c)
        setStatus e.status
  | .conditional test yes no =>
    forgiving (runs test)
    if (← process).status = 0 then runs yes
    else
      match no with
      | some c => runs c
      | none => setStatus 0
  | .loop untilTrue test body => inLoop (whileRounds runs untilTrue test body maxRounds 0)
  | .forEach line name ws body =>
    fromLine line do
      if !(← mayLoopOver name) then
        if ← isStandard then throw (.exited 2)
      else
        let ss ← loopFields runs ws
        if ss = [] then setStatus 0
        inLoop (forRounds runs c line name (loopHead "for" name ws) body ss)
  | .forArithmetic line start test step body =>
    keepingLine do
      match ← loopValue? runs line start with
      | none => setStatus 1
      | some _ => inLoop (arithmeticRounds runs line test step body maxRounds 0)
  | .select line name ws body =>
    fromLine line do
      if !(← mayLoopOver name) then return
      trace runs (loopHead "select" name ws)
      unlessSkipped runs c do
        let ss ← loopFields runs ws
        if ss = [] then setStatus 0
        else inLoop (selectRounds runs name ss body maxRounds true)
  | .choice line subject clauses =>
    fromLine line do
      if (← process).dialect = .full then traceWith runs holdTrace ("case " ++ subject ++ " in")
      unlessSkipped runs c do
        let s ← expandText runs subject
        choose runs (← hasFeature "nocasematch") (← hasFeature "extglob") s clauses false false
  | .test line t => inLine runs c line (Conditional.run runs t)
  | .arithmetic line e =>
    inLine runs c line do
      match ← arithmeticValue? runs e with
      | some n => setStatus (if n = 0 then 1 else 0)
      | none => setStatus 1
  | .function _ name bodyLine body =>
    if ← isStandard then
      let isSpecial := Builtin.specialNames.elem name
      if isSpecial || !(Octets.isName name) then
        report ("\x60" ++ name ++ "': " ++ if isSpecial then "is a special builtin" else "not a valid identifier")
        throw (.exited 2)
    let old? := Table.get? name (← process).functions
    if (← process).dialect = .full && !isFunctionName name then
      report ("\x60" ++ name ++ "': not a valid identifier")
      setStatus 1
    else if (old?.map (·.readonly)).getD false then
      report (name ++ ": readonly function")
      setStatus 1
    else
      let f : Function := { body, source := ← definingSource, line := bodyLine }
      change fun p => { p with functions := Table.insert name f p.functions, status := 0 }
  | .coprocess name c => coprocess runs name c
  | .redirected c rs =>
    redirectedOr runs rs (runs c) do
      finishing runs (do setStatus (← redirectionStatus))

/-- Closes the pipes of process substitutions. -/
def closeSubstitutes : Sh Unit := do
  for fd in (← process).substitutes do
    closeDescriptor fd

/-- Runs a command, given how to run those inside it, with all that belongs to its end. -/
def step (c : Command) : Sh Unit := do
  if ← hasOption "noexec" then return
  let before := (← process).substitutes
  change fun p => { p with substitutes := [] }
  ensuring (execute runs c) (do closeSubstitutes; change fun p => { p with substitutes := before })
  spend stepTime
  tidyCoprocess
  deliver runs

/-- Commands nest at most so deep. -/
def maxDepth : Nat := 4000

/-- Runs a command; commands nest at most `n` deep. -/
def runAt : Nat → Runs
  | 0 => fun _ => throw .stopped
  | n + 1 => step (runAt n)

/-- Runs a command. -/
def run : Runs := runAt maxDepth

end ShellCoverage.Shell.Interpreter
