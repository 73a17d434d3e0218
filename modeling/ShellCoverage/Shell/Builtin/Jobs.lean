import ShellCoverage.Shell.Builtin.Settings
import ShellCoverage.Shell.Listing

/-!
# Commands on processes

A shell knows the processes that it has started to run beside it as jobs: `kill`, `wait`, `jobs`, `fg`,
`bg`, `disown`.

* `Builtin.job?` : the job that a word names;
* `Builtin.kill`, `Builtin.wait`, `Builtin.jobs` : the commands.
-/

namespace ShellCoverage.Shell.Builtin

/-! ## Jobs -/

/-- What a word that names a job leads to. -/
inductive JobSearch where
  | found (j : Job)
  | absent
  /-- The word means several jobs. -/
  | several

/-- The only job of some. -/
def JobSearch.ofList : List Job → JobSearch
  | [] => .absent
  | [j] => .found j
  | _ => .several

/-- The text stands somewhere in another one. -/
def isInside (part : List Char) : List Char → Bool
  | [] => part = []
  | c :: r => part.isPrefixOf (c :: r) || isInside part r

/-- The job that a word with a percent sign names. -/
def searchJob (p : Process) (r : List Char) : JobSearch :=
  let numbered (n : Option Nat) : JobSearch := .ofList (p.jobs.filter fun j => some j.number = n)
  match r with
  | [] | ['%'] | ['+'] => numbered p.currentJob
  | ['-'] => numbered p.previousJob
  | '?' :: part => .ofList (p.jobs.filter fun j => isInside part j.text.toList)
  | r =>
    match Octets.natural? (String.ofList r) with
    | some n => numbered (some n)
    | none => .ofList (p.jobs.filter fun j => r.isPrefixOf j.text.toList)

/-- The job that a word names: one with a percent sign, or the number of a process. -/
def job? (p : Process) (s : Octets) : Option Job :=
  match s.toList with
  | '%' :: r => match searchJob p r with | .found j => some j | _ => none
  | _ => (Octets.natural? s).bind fun n => p.jobs.find? fun j => j.pids.elem n

/-- Notes whether the shell knows of the end of a job. -/
def noteJob (number : Nat) (isNoted : Bool := true) : Sh Unit :=
  Sh.change fun p => { p with jobs := p.jobs.map fun j => if j.number = number then { j with isNoted } else j }

/-! ## `kill` -/

/-- Sends a signal to a process; the result says whether it is there. -/
def send (signal pid : Nat) : Sh Bool := do
  if !(← Sh.world).isAlive pid then return false
  Sh.changeWorld (·.send signal pid)
  Sh.notice
  return true

/-- The signal that is asked for, and the other arguments. -/
def signalOf : List Octets → Except Octets (Nat × List Octets)
  | "-s" :: s :: r | "-n" :: s :: r =>
    match signalNumber? s with
    | some n => .ok (n, withoutMark r)
    | none => .error s
  | "--" :: r => .ok (World.endSignal, r)
  | a :: r =>
    match a.toList with
    | '-' :: c :: cs =>
      match signalNumber? (String.ofList (c :: cs)) with
      | some n => .ok (n, withoutMark r)
      | none => .error (String.ofList (c :: cs))
    | _ => .ok (World.endSignal, a :: r)
  | [] => .ok (World.endSignal, [])

/-- `kill` -/
def kill : Builtin := fun args => do
  match args with
  | ["-s"] | ["-n"] => refuse 1 "kill" (args.headD "" ++ ": option requires an argument")
  | ["-l"] | ["-L"] =>
    if ← Sh.isStrict then Sh.write (Octets.join " " ((signals.drop 1).map (·.1)) ++ "\n")
    else Sh.write signalTable
    return 0
  | "-l" :: names =>
    onEach names fun n => do
      let text? : Option Octets :=
        match Octets.natural? n with
        | some k => signalName? (if 128 < k then k - 128 else k)
        | none => (signalNumber? n).map Octets.ofNat
      match text? with
      | some t => Sh.write (t ++ "\n"); return true
      | none => complain "kill" (n ++ ": invalid signal specification"); return false
  | args =>
    match signalOf args with
    | .error s => refuse 1 "kill" (s ++ ": invalid signal specification")
    | .ok (_, []) => usage "kill"
    | .ok (signal, targets) =>
      onEach targets fun t => do
        if Octets.startsWith "%" t then
          match job? (← Sh.process) t with
          | some j =>
            discard (j.pids.mapM (send signal))
            noteJob j.number false
            return true
          | none => complain "kill" (t ++ ": no such job"); return false
        else
          match Octets.integer? t with
          | some (.ofNat pid) =>
            let target ← if pid = 0 then Sh.process >>= fun p => pure p.pid else pure pid
            if ← send signal target then return true
            complain "kill" ("(" ++ t ++ ") - No such process")
            return false
          | some (.negSucc _) => complain "kill" ("(" ++ t ++ ") - No such process"); return false
          | none => complain "kill" (t ++ ": arguments must be process or job IDs"); return false

/-! ## `wait` -/

/-- The status of a wait that a signal has ended. -/
def interrupted? : Sh (Option Nat) := do
  let pid := (← Sh.process).pid
  return ((← Sh.world).signalled.find? fun s => s.1 = pid).map fun s => 128 + s.2

/-- Waits until a process has ended, and gives its status; a signal ends the wait, which is told. -/
def waitFor (pid : Nat) : Sh (Except Nat Nat) := do
  Sh.pause (.allEnded [pid]) none true
  match (← Sh.world).endOf? pid with
  | some e => return .ok e.status
  | none => return .error ((← interrupted?).getD 0)

/-- Waits until a job has ended, and gives its status. -/
def waitForJob (j : Job) : Sh (Except Nat Nat) := do
  Sh.pause (.allEnded j.pids) none true
  match ← waitFor j.lastPid with
  | .ok n =>
    noteJob j.number
    return .ok n
  | .error n => return .error n

/-- Waits for some processes. -/
def waitForAll : List Nat → Sh Nat
  | [] => return 0
  | pid :: pids => do
    match ← waitFor pid with
    | .ok _ => waitForAll pids
    | .error n => return n

/-- Waits for the jobs that run, the first one first, at most so many. -/
def waitForJobs : Nat → Sh Nat
  | 0 => return 0
  | n + 1 => do
    let w ← Sh.world
    match (← Sh.process).jobs.find? fun j => !Sh.isDone w j with
    | none => return 0
    | some j =>
      match ← waitForJob j with
      | .ok _ => waitForJobs n
      | .error status => return status

/-- Forgets what has ended, after a wait for all. Only the last job stays known, and it stays in the list
if it had ended in time before the wait. -/
def forgetEnded : Sh Unit := do
  Sh.noteKilled
  let w ← Sh.world
  let last := (← Sh.process).lastJob
  Sh.dropJobs fun j => Sh.isDone w j && (some j.lastPid ≠ last || j.isNoted)
  Sh.change fun p => { p with
    children := p.children.filter fun n => w.isAlive n || some n = p.lastJob }

/-- Waits for the next job of some that ends; the name of a variable gets the number of its process. -/
def waitForNext (jobs : List Job) (name? : Option Octets) : Sh Nat := do
  let jobs := jobs.filter fun j => !j.isNoted
  if jobs.isEmpty then return 127
  Sh.pause (.anyEnded (jobs.map Job.lastPid)) none true
  let w ← Sh.world
  match jobs.find? fun j => !w.isAlive j.lastPid with
  | none => return (← interrupted?).getD 127
  | some j =>
    noteJob j.number
    match name? with
    | some name => Sh.store name (Octets.ofNat j.lastPid)
    | none => pure ()
    return ((w.endOf? j.lastPid).map Ending.status).getD 127

/-- Complains that there is nothing to wait for. -/
def refuseWait (t : Octets) (isNext : Bool) : Sh Nat := do
  match Octets.natural? t with
  | some _ =>
    complain "wait" (if isNext then t ++ ": no such job" else "pid " ++ t ++ " is not a child of this shell")
    return 127
  | none =>
    if Octets.startsWith "%" t then
      complain "wait" (t ++ ": no such job")
      return 127
    else
      complain "wait" ("\x60" ++ t ++ "': not a pid or valid job spec")
      return 1

/-- Waits for what some words name, one after the other, and gives the last status. -/
def waitForEach : List Octets → Nat → Sh Nat
  | [], status => return status
  | t :: ts, _ => do
    let p ← Sh.process
    let waited? : Option (Except Nat Nat) ←
      match job? p t with
      | some j =>
        if Octets.startsWith "%" t || (Octets.natural? t).any (· = j.lastPid) then some <$> waitForJob j
        else some <$> waitFor ((Octets.natural? t).getD 0)
      | none =>
        match (Octets.natural? t).filter p.children.elem with
        | some pid => some <$> waitFor pid
        | none => pure none
    match waited? with
    | some (.ok n) => waitForEach ts n
    | some (.error n) => return n
    | none => waitForEach ts (← refuseWait t false)

/-- `wait` -/
def wait : Builtin := fun args => do
  match ← options? "wait" "fn" "p" args with
  | none => return 2
  | some (os, targets) =>
    let p ← Sh.process
    match os.lookup 'p' with
    | some name => Sh.change fun p => { p with vars := Variables.remove name false p.vars }
    | none => pure ()
    if has os 'n' then
      if targets = [] then waitForNext p.jobs (os.lookup 'p')
      else
        let jobs := targets.filterMap (job? p)
        match targets.find? fun t => (job? p t).all (·.isNoted) with
        | some t => if jobs.all (·.isNoted) then refuseWait t true else waitForNext jobs (os.lookup 'p')
        | none => waitForNext jobs (os.lookup 'p')
    else if targets = [] then
      let status ← waitForJobs (p.jobs.length + 1)
      if status = 0 then
        let w ← Sh.world
        let rest := (p.children ++ p.lastJob.toList).filter w.isAlive
        let status ← waitForAll rest
        if status = 0 then forgetEnded
        return status
      return status
    else
      let status ← waitForEach targets 127
      match os.lookup 'p', targets.getLast? with
      | some name, some t =>
        let pid := (job? p t).map Job.lastPid <|> Octets.natural? t
        if let some n := pid then Sh.store name (Octets.ofNat n)
      | _, _ => pure ()
      return status

/-! ## `jobs` -/

/-- How a job stands, in words. -/
def jobState (w : World) (j : Job) : Octets :=
  if !Sh.isDone w j then "Running"
  else
    match w.endOf? j.lastPid with
    | some (.exited 0) => "Done"
    | some (.exited n) => "Exit " ++ Octets.ofNat n
    | some (.killed n) => signalText n
    | none => "Done"

/-- Writes a row for a job. -/
def writeJob (withPids : Bool) (j : Job) : Sh Unit := do
  let w ← Sh.world
  let p ← Sh.process
  let mark := if p.currentJob = some j.number then "+" else if p.previousJob = some j.number then "-" else " "
  let pid := if withPids then Octets.ofNat (j.pids.headD 0) ++ " " else " "
  Sh.write ("[" ++ Octets.ofNat j.number ++ "]" ++ mark ++ " " ++ pid ++ Octets.padRight 24 (jobState w j) ++ j.text ++
    (if Sh.isDone w j then "" else " &") ++ "\n")

/-- `jobs` -/
def jobs : Builtin := fun args => do
  match ← options? "jobs" "lnprsx" "" args with
  | none => return 2
  | some (os, targets) =>
    let w ← Sh.world
    Sh.tidyJobs
    let p ← Sh.process
    let show_ (j : Job) : Sh Unit := do
      if has os 'p' then Sh.write (Octets.ofNat (j.pids.headD 0) ++ "\n")
      else if (has os 'r' && Sh.isDone w j) || has os 's' then pure ()
      else
        writeJob (has os 'l') j
        if Sh.isDone w j then noteJob j.number
    if targets = [] then
      for j in p.jobs do
        show_ j
      return 0
    else
      onEach targets fun t => do
        let found :=
          match t.toList with
          | '%' :: r => searchJob p r
          | r => match Octets.natural? t with
            | some n => .ofList (p.jobs.filter fun j => j.number = n)
            | none => searchJob p r
        match found with
        | .found j => show_ j; return true
        | .absent => complain "jobs" (t ++ ": no such job"); return false
        | .several =>
          complain "jobs" ((Octets.dropHead? "%" t).getD t ++ ": ambiguous job spec")
          complain "jobs" (t ++ ": no such job")
          return false

/-- `fg` and `bg` -/
def resume (name : Octets) : Builtin := fun _ => refuse 1 name "no job control"

/-- `disown` -/
def disown : Builtin := fun args => do
  match ← options? "disown" "arh" "" args with
  | none => return 2
  | some (os, targets) =>
    let p ← Sh.process
    if targets = [] then
      if has os 'a' || has os 'r' then
        Sh.dropJobs fun _ => true
        return 0
      match p.jobs.find? fun j => some j.number = p.currentJob with
      | none => refuse 1 "disown" "current: no such job"
      | some j =>
        Sh.dropJobs fun k => k.number = j.number
        return 0
    else
      onEach targets fun t => do
        match job? p t with
        | some j =>
          Sh.dropJobs fun k => k.number = j.number
          return true
        | none => complain "disown" (t ++ ": no such job"); return false

end ShellCoverage.Shell.Builtin
