import ShellCoverage.Shell.Grammar
import ShellCoverage.Shell.Parameters

/-!
# Running scripts

A script is read line by line, and the commands of a line are run before the next line is read. The way
in which a command is run is an argument here.

* `Sh.runText` : runs the lines of a text; `Sh.runFile` : those of a file, which may grow meanwhile;
  `Sh.runInput` : those of the standard input;
* `Sh.runTrap` : runs the commands of a trap;
* `Sh.toEnd` : runs an action up to the end of the process, with the trap for it;
* `Sh.forked` : runs an action in a copy of the process.
-/

namespace ShellCoverage.Shell

/-- The signals with names of their own, with their numbers. -/
def plainSignals : List (Octets × Nat) :=
  [("EXIT", 0), ("HUP", 1), ("INT", 2), ("QUIT", 3), ("ILL", 4), ("TRAP", 5), ("ABRT", 6), ("BUS", 7),
    ("FPE", 8), ("KILL", 9), ("USR1", 10), ("SEGV", 11), ("USR2", 12), ("PIPE", 13), ("ALRM", 14),
    ("TERM", 15), ("STKFLT", 16), ("CHLD", 17), ("CONT", 18), ("STOP", 19), ("TSTP", 20),
    ("TTIN", 21), ("TTOU", 22), ("URG", 23), ("XCPU", 24), ("XFSZ", 25), ("VTALRM", 26), ("PROF", 27),
    ("WINCH", 28), ("IO", 29), ("PWR", 30), ("SYS", 31)]

/-- The signals for programs' own use: those in the first half are counted from the first one, the others
from the last one. -/
def ownSignals : List (Octets × Nat) :=
  let counted (base : Octets) (sign : Octets) (n : Nat) : Octets := if n = 0 then base else base ++ sign ++ Octets.ofNat n
  (List.range 16).map (fun n => (counted "RTMIN" "+" n, 34 + n)) ++
    (List.range 15).map fun n => (counted "RTMAX" "-" (14 - n), 50 + n)

/-- The signals, with their numbers. -/
def signals : List (Octets × Nat) := plainSignals ++ ownSignals

/-- The name of a signal. -/
def signalName? (n : Nat) : Option Octets := (signals.find? fun s => s.2 = n).map (·.1)

/-- The number of a signal, given by name or number. -/
def signalNumber? (s : Octets) : Option Nat :=
  match Octets.natural? s with
  | some n => if n < 65 then some n else none
  | none =>
    let name := s.map Char.toUpper
    let name := (Octets.dropHead? "SIG" name).getD name
    (signals.lookup name)

/-- What a signal means, in words. -/
def signalText (n : Nat) : Octets :=
  (["", "Hangup", "Interrupt", "Quit", "Illegal instruction", "Trace/breakpoint trap", "Aborted", "Bus error",
    "Floating point exception", "Killed", "User defined signal 1", "Segmentation fault",
    "User defined signal 2", "Broken pipe", "Alarm clock", "Terminated", "Stack fault", "Child exited",
    "Continued", "Stopped (signal)", "Stopped", "Stopped (tty input)", "Stopped (tty output)",
    "Urgent I/O condition", "CPU time limit exceeded", "File size limit exceeded", "Virtual timer expired",
    "Profiling timer expired", "Window changed", "I/O possible", "Power failure", "Bad system call"][n]?).getD
    ("Signal " ++ Octets.ofNat n)

namespace Sh

/-- Gives a reader what the process decides about reading. -/
def prepare (r : Reader) : Sh Reader := do
  let p ← process
  let plain := p.dialect = .plain
  return { r with
    dialect := p.dialect
    charset := p.charset
    aliases := if plain || p.features.elem "expand_aliases" then p.aliases else []
    extendedPatterns := p.features.elem "extglob"
    standard := p.options.elem "posix"
    insideTest := p.insideTest
    nextBody := (← world).bodies.size
    bodies := []
    warnings := []
    translated := []
    lookahead := none }

/-- Writes messages of a reader, which name a kind of input. -/
def reportLines (input : Octets) (ms : List (Nat × Octets)) : Sh Unit := do
  let name ← messageName
  let head := if input = "" then name ++ ": " else name ++ ": " ++ input ++ ": "
  for m in ms do
    complain (head ++ "line " ++ Octets.ofNat m.1 ++ ": " ++ m.2 ++ "\n")

/-- What is left to be read after an error: the lines after it, or nothing. -/
def afterError (e : SyntaxError) (r : Reader) : Reader :=
  let rest := if e.isLocal then (r.rest.dropWhile (· ≠ '\n')).drop 1 else []
  { Reader.ofList rest r.line with rest }

/-- Keeps the texts that a reader has gathered. -/
def keepBodies (r : Reader) : Sh Unit :=
  changeWorld fun w =>
    let size := max r.nextBody w.bodies.size
    let bodies := w.bodies ++ Array.replicate (size - w.bodies.size) ""
    { w with bodies := r.bodies.foldl (fun bs b => bs.set! b.1 b.2) bodies }

/-- The option for a shell that only shows the texts that ask for a translation. -/
def translationOption : Octets := "dump-strings"

/-- Writes the lines that were read, or the texts in them that ask for a translation, if the shell is asked
to. -/
def echoLines (before : List Char) (after : Reader) : Sh Unit := do
  let p ← process
  if p.options.elem "verbose" && (p.dialect = .full || p.input = "") then
    complain (String.ofList (before.take (before.length - after.rest.length)))
  if ← hasOption translationOption then
    for t in after.translated do
      write ("\"" ++ t ++ "\"\n")

/-- Runs the commands of a line; the result is the line from which the full shell counts those that follow:
that of the command at which it is. Where the shell is to go on with its next line, the commands have ended
here. In a subshell nothing follows. -/
def runCommands (runs : Runs) (c : Command) (line : Nat) : Sh Nat := do
  match ← attempt (runs c) with
  | .ok _ => do
    let p ← process
    return if p.dialect = .full then p.line else line
  | .error (.discarded n last) =>
    let p ← process
    if 0 < p.subshells then throw (.discarded n last)
    setStatus n
    return if p.dialect = .full then last.getD p.line else line
  | .error j => throw j

/-- The text that is read is the argument of a command, or a file that one reads. -/
def isInside : Sh Bool := do
  let p ← process
  return p.input = "eval" || (p.input = "" && p.frames.head?.any (·.reads))

/-- Sets the status after an error of the reader of the full shell. If the text is not inside another one,
a status that says of some failure stays, unless the error is a token in the wrong place. -/
def refuseFull (e : SyntaxError) : Sh Unit := do
  let p ← process
  let inside ← isInside
  match e with
  | .unclosed .. => if inside || p.status = 0 then setStatus 2
  | .badTest _ ends =>
    change fun p => { p with insideTest := true }
    if inside || (ends && p.status = 0) then setStatus 2
  | .inCommands e =>
    match e with
    | .badTest .. => if p.status = 0 then setStatus 1
    | _ => setStatus (if inside then 1 else 2)
    if p.inputFlags = "c" && p.subshells = 0 then throw (.exited 127)
    else if inside then throw (.exited (← process).status)
  | e =>
    change fun p => { p with insideTest := false }
    setStatus e.status
  if inside && (← isStandard) then throw (.refused e.status)

/-- Reports an error of the reader and gives what is left to be read after it. -/
def refuseLine (r : Reader) (e : SyntaxError) (after : Reader) : Sh Reader := do
  echoLines r.rest after
  let p ← process
  match p.dialect with
  | .full =>
    reportLines "" after.warnings
    reportLines p.input e.messages
    refuseFull e
  | .plain =>
    reportAt after.nextLine ("Syntax error: " ++ e.plainMessage)
    setStatus 2
    if ← isInside then throw (.refused 2)
  return afterError e after

/-- What has become of a line of a script. -/
structure LineEnd where
  /-- What is left to be read. -/
  after : Reader
  /-- There was a line. -/
  goesOn : Bool
  /-- The status is that of the line: it had commands, or an error. -/
  decides : Bool

/-- Reads and runs the commands of a line. -/
def runLine (runs : Runs) (r : Reader) : Sh LineEnd := do
  let r ← prepare r
  match Reader.lineCommands r with
  | .error e after =>
    let after ← refuseLine r e after
    return { after, goesOn := after.rest ≠ [], decides := true }
  | .ok c after =>
    echoLines r.rest after
    keepBodies after
    reportLines "" after.warnings
    change fun p => { p with readLine := after.nextLine }
    match c with
    | none => return { after, goesOn := false, decides := false }
    | some none => return { after, goesOn := true, decides := false }
    | some (some c) =>
      change fun p => { p with line := after.line }
      let line ← runCommands runs c after.line
      return { after := { after with line }, goesOn := true, decides := true }

/-- Runs what is left to be read, at most so many lines. The status is 0 if there are no commands;
`decided` says that there were some before. -/
def runReader (runs : Runs) : Nat → Bool → Reader → Sh Unit
  | 0, _, _ => pure ()
  | n + 1, decided, r => do
    let e ← runLine runs r
    let decided := decided || e.decides
    if e.goesOn then runReader runs n decided e.after
    else if !decided then setStatus 0

/-- Runs the lines of a text, the first of which has the number `line + 1`. -/
def runText (runs : Runs) (text : List Char) (line : Nat) : Sh Unit :=
  runReader runs (text.length + 2) false (Reader.ofList (Reader.endingLiterally text) line)

/-- Runs the lines of a text that comes from some kind of input. -/
def runInputText (runs : Runs) (input : Octets) (text : List Char) (line : Nat) : Sh Unit := do
  let p ← process
  change fun p => { p with input }
  ensuring (runText runs text line) (change fun q => { q with input := p.input })

/-- The shell ends after a command if it is to run one only. -/
def checkSingle : Sh Unit := do
  if ← hasOption "onecmd" then throw (.exited (← process).status)

/-- Runs the lines of a script, at most so many. The shell may be told to stop after the first one. The
full shell forgets what it has read when it starts a process; the result is what was left then. -/
def runScript (runs : Runs) : Nat → Reader → Sh (Option Reader)
  | 0, _ => return none
  | n + 1, r => do
    let starts := (← process).starts
    let e ← runLine runs r
    checkSingle
    let p ← process
    if !e.goesOn then return none
    else if p.dialect = .full && p.starts ≠ starts then return some e.after
    else runScript runs n e.after

/-- The number of lines of a text; the last one need not have a line feed. -/
def lineCount (text : List Char) : Nat :=
  text.count '\n' + if text.getLast?.all (· = '\n') then 0 else 1

/-- Scripts are read at most so often while they run. -/
def maxScriptReads : Nat := 1000000

/-- Runs the lines of an open file from some character on, as they are when they are read. -/
def runFile (runs : Runs) (file : Nat) : Nat → Nat → Nat → Sh Unit
  | 0, _, _ => pure ()
  | n + 1, start, line => do
    let text := (← remaining file).drop start
    if text ≠ [] then
      let shown := if (← process).dialect = .plain then Reader.endingLiterally text else text
      let whole := Reader.ofList shown line
      match ← runScript runs (text.length + 2) whole with
      | some r => runFile runs file n (start + min text.length (whole.rest.length - r.rest.length)) r.line
      | none => runFile runs file n (start + text.length) (line + lineCount text)

/-- Runs the lines of the standard input. What the commands read is missing from the lines; `line` is
the number of the line that was read last. -/
def runInput (runs : Runs) : Nat → Nat → Sh Unit
  | 0, _ => pure ()
  | n + 1, line => do
    let r ← prepare (Reader.ofList [] line)
    let read? ← takeFrom 0 true none fun cs _ =>
      let r := { Reader.ofList cs line with
        dialect := r.dialect
        charset := r.charset
        aliases := r.aliases
        extendedPatterns := r.extendedPatterns
        standard := r.standard
        nextBody := r.nextBody }
      let (parsed, rest) : (Reader × EStateM.Result SyntaxError Reader (Option (Option Command))) × List Char :=
        match Reader.lineCommands r with
        | .error e after => ((r, .error e after), (afterError e after).rest)
        | .ok c after => ((r, .ok c after), after.rest)
      some (parsed, cs.length - rest.length)
    match read? with
    | none => pure ()
    | some (r, .error e after) =>
      let after ← refuseLine r e after
      if after.rest ≠ [] then runInput runs n after.line
    | some (r, .ok c after) =>
      if r.rest = [] then return
      keepBodies after
      reportLines "" after.warnings
      change fun p => { p with readLine := after.nextLine }
      match c with
      | none => pure ()
      | some c =>
        let line ← match c with
          | some c => do
            change fun p => { p with line := after.line }
            runCommands runs c after.line
          | none => pure after.line
        checkSingle
        runInput runs n line

/-! ## Traps -/

/-- What others know of a process. -/
def entryOf (p : Process) : Entry :=
  let numbers (empty : Bool) : List Nat := p.traps.filterMap fun t =>
    if (t.2 = "") = empty then signals.lookup t.1 else none
  { parent := p.parent
    ignored := numbers true
    trapped := numbers false
    isGuarded := p.dialect = .full && (Table.get? "EXIT" p.traps).any (· ≠ "") }

/-- Lets the others know which signals the process takes care of. -/
def noteTraps : Sh Unit := do
  let p ← process
  let e := entryOf p
  changeWorld (·.changeEntry p.pid fun x => { x with
    ignored := e.ignored
    trapped := e.trapped
    isGuarded := e.isGuarded })

/-- Runs the commands of the trap for a condition, and gives their status. The status of the shell is what
it was before, unless the commands end the shell. -/
def runTrap (runs : Runs) (condition input text : Octets) (line : Option Nat) : Sh Nat := do
  let p ← process
  change fun q => { q with
    depth := q.depth + 1
    runningTraps := condition :: q.runningTraps
    line := line.getD q.line }
  let first := match line with | some n => n - 1 | none => p.line - 1
  let body : Sh Nat := do
    runInputText runs input text.toList first
    return (← process).status
  let r ← attempt body
  change fun q => { q with
    depth := p.depth
    runningTraps := p.runningTraps
    line := p.line
    status := p.status
    pipeline := p.pipeline }
  conclude r

/-- Runs the trap for a condition, if there is one and it is not running, and gives the status of its
commands. -/
def runCondition (runs : Runs) (name input : Octets) : Sh Nat := do
  let p ← process
  match Table.get? name p.traps with
  | some text => if text = "" || p.runningTraps.elem name then return 0 else runTrap runs name input text none
  | none => return 0

/-- Remembers the line of the command that is about to run. -/
def noteLine (line : Nat) : Sh Unit :=
  change fun p => { p with line, errorLine := if p.runningTraps.elem "ERR" then p.errorLine else line }

/-- Remembers the command that is about to run, unless a trap is running. -/
def noteCommand (c : Command) : Sh Unit :=
  change fun p => { p with current := if p.runningTraps = [] then some c else p.current }

/-- Runs a command, after which the line is that before it. A jump out of the commands around leaves it. -/
def keepingLine (body : Sh Unit) : Sh Unit := do
  let line := (← process).line
  let r ← attempt body
  match r with
  | .ok _ | .error (.breakLoop _) | .error (.continueLoop _) => change fun p => { p with line }
  | _ => pure ()
  conclude r

/-- Runs the trap for the command that is about to run; the result says whether it is to run. In the mode
for debuggers a failure of the trap prevents that, and one with the status 2 ends a function. -/
def runDebugTrap (runs : Runs) : Sh Bool := do
  let status ← runCondition runs "DEBUG" "debug trap"
  if status = 0 || !(← hasFeature "extdebug") then return true
  if status = 2 && !(← process).frames.isEmpty then throw (.returned 2)
  return false

/-- Runs the commands of the trap for the end of the shell, which is then no more. After a signal they
run a level deeper than at an end in time. -/
def runExitTrap (runs : Runs) (bySignal : Bool) : Sh Unit := do
  match Table.get? "EXIT" (← process).traps with
  | none => pure ()
  | some text =>
    change fun p => { p with
      traps := Table.erase "EXIT" p.traps
      frames := []
      depth := if bySignal then p.depth else p.depth - 1
      forgiving := false }
    noteTraps
    discard (runTrap runs "EXIT" "exit trap" text (some 1))

/-- Takes care of a signal for which there are commands. -/
def handle (runs : Runs) (n : Nat) : Sh Unit := do
  let name := (signalName? n).getD ""
  match Table.get? name (← process).traps with
  | some text => if text ≠ "" then discard (runTrap runs name "trap" text (some 1))
  | none => pure ()

/-- Takes care of the signals that were sent to the process. -/
def deliver (runs : Runs) : Sh Unit := do
  let pid := (← process).pid
  if (← world).signalled.isEmpty then return
  let mine := (← world).signalled.filter fun s => s.1 = pid
  if mine ≠ [] then
    changeWorld fun w => { w with signalled := w.signalled.filter fun s => s.1 ≠ pid }
    for s in mine do
      handle runs s.2

/-! ## Processes -/

/-- The end of a process to which a jump leads. -/
def endingOf (j : Jump) (status : Nat) : Ending :=
  match j with
  | .exited n => .exited n
  | .returned n => .exited n
  | .discarded n _ => .exited n
  | .refused n => .exited n
  | .killed n => .killed n
  | _ => .exited status

/-- Runs an action, whose early end is that of the action, unless the machine stops. -/
def untilJump (body : Sh Unit) : Sh (Option Jump) := do
  match ← attempt body with
  | .ok _ => return none
  | .error .stopped => throw .stopped
  | .error j => return some j

/-- The end of a process, before which the trace is written if it ends of its own accord. -/
def flushed (e : Ending) : Sh Ending := do
  match e with
  | .killed _ => return e
  | .exited _ =>
    match ← untilJump flushTrace with
    | some (.killed n) => return .killed n
    | _ => return e

/-- Runs an action up to the end of the process, with the trap for it. -/
def toEnd (runs : Runs) (body : Sh Unit) : Sh Ending := do
  let e ← match ← untilJump body with
    | none => pure (Ending.exited ((← process).status % 256))
    | some j => pure (endingOf j (← process).status)
  match e with
  | .killed n =>
    if World.abruptSignals.elem n || (← process).dialect = .plain then return e
    discard (untilJump (runExitTrap runs true))
    return e
  | .exited n =>
    setStatus n
    match ← untilJump (runExitTrap runs false) with
    | none => flushed e
    | some j => flushed (endingOf j n)

/-- Starts a process, which runs an action up to its end. -/
def start (runs : Runs) (p : Process) (body : Sh Unit) : Sh Unit := spawn p (entryOf p) (toEnd runs body)

/-- The copy of this process in which a subshell runs. -/
def copyProcess : Sh Process := do
  let p ← process
  change fun p => { p with starts := p.starts + 1 }
  return { p with
    pid := ← newPid
    parent := p.pid
    subshells := p.subshells + 1
    children := []
    coprocess := none
    traps := p.traps.filter fun t =>
      t.2 = "" || (t.1 = "ERR" && p.options.elem "errtrace") ||
        ((t.1 = "DEBUG" || t.1 = "RETURN") && p.options.elem "functrace")
    formerTraps := if p.formerTraps = [] then p.traps else p.formerTraps
    substitutes := []
    isCaptured := false
    jobs := if p.dialect = .plain then [] else p.jobs }

/-- All processes of a job have ended. -/
def isDone (w : World) (j : Job) : Bool := j.pids.all fun n => !w.isAlive n

/-- Makes the newest job that runs the current one; the newest one before it is the previous one. -/
def chooseCurrentJob : Sh Unit := do
  let w ← world
  change fun p =>
    match (p.jobs.filter fun j => !isDone w j).reverse with
    | [] => { p with currentJob := none, previousJob := none }
    | j :: older => { p with
        currentJob := some j.number
        previousJob := some ((older.head?.getD j).number) }

/-- Forgets some jobs. -/
def dropJobs (gone : Job → Bool) : Sh Unit := do
  let p ← process
  let dropped := (p.jobs.filter gone).map fun j => some j.number
  if dropped ≠ [] then
    change fun p => { p with jobs := p.jobs.filter fun j => !gone j }
    if dropped.elem p.currentJob || dropped.elem p.previousJob then chooseCurrentJob

/-- Forgets the jobs of whose end the shell knows. -/
def tidyJobs : Sh Unit := do
  let w ← world
  dropJobs fun j => j.isNoted && isDone w j

/-- Notes that the shell knows of the end of the jobs that a signal has ended. -/
def noteKilled : Sh Unit := do
  let w ← world
  let isKilled (j : Job) : Bool :=
    match w.endOf? j.lastPid with
    | some (.killed _) => true
    | _ => false
  change fun p => { p with jobs := p.jobs.map fun j => { j with isNoted := j.isNoted || isKilled j } }

/-- The signals of which the shell says nothing when they end a command: the user or the reader of a pipe
is the cause. -/
def silentSignals : List Nat := [2, 13]

/-- Says that a signal has ended a command that the shell has waited for. The full shell gives the details
of all signals but the usual one and those for which it has a trap. -/
def tellEnding (pid : Nat) (e : Ending) (text : Sh Octets) : Sh Unit := do
  match e with
  | .exited _ => pure ()
  | .killed n =>
    if silentSignals.elem n then return
    let p ← process
    let isBrief := p.dialect = .plain || n = World.endSignal ||
      ((signalName? n).bind fun s => Table.get? s p.traps).isSome
    if isBrief then complain (signalText n ++ "\n")
    else report (Octets.padLeft 5 (Octets.ofNat pid) ++ " " ++ Octets.padRight 24 (signalText n) ++ (← text))

/-- Waits for the end of a command, whose text is given, and says so if a signal was the cause. What the
last command of a substitution stands for is the substitution itself. -/
def awaitCommand (pid : Nat) (text : Sh Octets) : Sh Ending := do
  let e ← awaitEnd pid
  if !(← process).isCaptured then tellEnding pid e text
  noteKilled
  return e

/-- Runs an action in a copy of the process; the text is that of the command. -/
def forked (runs : Runs) (body : Sh Unit) (text : Sh Octets) : Sh Ending := do
  tidyJobs
  let p ← copyProcess
  start runs p body
  awaitCommand p.pid text

/-- Runs an action in a copy of the process and gives what it writes. -/
def captured (runs : Runs) (body : Sh Unit) : Sh (Octets × Ending) := do
  let (reader, writer) ← addPipe none
  let p := withDescriptor 1 writer { (← copyProcess) with isCaptured := true }
  start runs p body
  release writer
  let out := String.ofList (← remaining reader)
  release reader
  let e ← awaitEnd p.pid
  if (← process).dialect = .plain then tellEnding p.pid e (pure "")
  return (out, e)

end Sh

end ShellCoverage.Shell
