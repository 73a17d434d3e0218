import ShellCoverage.Shell.Builtin.Jobs
import ShellCoverage.Shell.Builtin.Plain

/-!
# Signals and jobs in the plain shell

* `Plain.trap` : the commands for signals;
* `Plain.job` : the job that a word names;
* `Plain.kill`, `Plain.wait`, `Plain.jobs`, `Plain.resume` : the commands on processes.
-/

namespace ShellCoverage.Shell.Builtin.Plain

/-! ## Signals -/

/-- The number after the greatest one of a signal. -/
def signalCount : Nat := 65

/-- The name of a signal; those without one of their own are named by their numbers. -/
def signalName (n : Nat) : Octets :=
  if n = 16 then Octets.ofNat n else (signalName? n).getD (Octets.ofNat n)

/-- The signal of a number in digits. -/
def numbered? (s : Octets) : Option Nat :=
  if s ≠ "" && s.toList.all Char.isDigit then (Octets.natural? s).filter (· < signalCount) else none

/-- The signal that a word stands for: a number, or the name of one from some number on. -/
def signal? (least : Nat) (s : Octets) : Option Nat :=
  numbered? s <|>
    ((List.range signalCount).drop least).find? fun n => !s.toList.all Char.isDigit && signalName n = s.map Char.toUpper

/-- Writes the traps. -/
def listTraps : Sh Unit := do
  let traps := (← Sh.process).traps
  for n in List.range signalCount do
    if let some text := Table.get? ((signalName? n).getD "") traps then
      Sh.write ("trap -- " ++ quoted text ++ " " ++ signalName n ++ "\n")

/-- Sets or takes away the traps for some signals, up to the first word that names none. -/
def setTraps (text? : Option Octets) : List Octets → Sh Nat
  | [] => return 0
  | w :: ws => do
    match signal? 0 w with
    | none =>
      Sh.complain ("trap: " ++ w ++ ": bad trap\n")
      return 1
    | some n =>
      let name := (signalName? n).getD (Octets.ofNat n)
      Sh.change fun p => { p with
        traps := match text?.filter (· ≠ "-") with
          | some s => Table.insert name s p.traps
          | none => Table.erase name p.traps }
      Sh.noteTraps
      setTraps text? ws

/-- `trap` -/
def trap : Builtin := fun args => do
  let (_, args) ← plainOptions "" "" args
  match args with
  | [] =>
    listTraps
    return 0
  | [w] => setTraps none [w]
  | a :: ws => if (numbered? a).isSome then setTraps none (a :: ws) else setTraps (some a) ws

/-! ## Jobs -/

/-- The jobs, the current one first. -/
def jobsInOrder (p : Process) : List Job := p.jobs.reverse

/-- The job that a word names. The shell does not know the texts of jobs. -/
def job (s : Octets) : Sh Job := do
  let js := jobsInOrder (← Sh.process)
  let first (js : List Job) (cause : Octets) : Sh Job :=
    match js with
    | j :: _ => return j
    | [] => Sh.fault cause
  match s.toList with
  | ['%'] | ['%', '+'] | ['%', '%'] => first js "No current job"
  | ['%', '-'] => first (js.drop 1) "No previous job"
  | '%' :: r =>
    match (Octets.natural? (String.ofList r)).bind fun n => js.find? fun j => j.number = n with
    | some j => return j
    | none => Sh.fault ("No such job: " ++ s)
  | _ => Sh.fault ("No such job: " ++ s)

/-- How a process has ended, in words. -/
def endingText : Ending → Octets
  | .exited 0 => "Done"
  | .exited n => "Done(" ++ Octets.ofNat n ++ ")"
  | .killed n => signalText n

/-- Writes a row for a job, or one for each of its processes with their numbers. -/
def writeJob (withPids : Bool) (mark : Char) (j : Job) : Sh Unit := do
  let w ← Sh.world
  let state := if Sh.isDone w j then ((w.endOf? j.lastPid).map endingText).getD "Done" else "Running"
  let number := "[" ++ Octets.ofNat j.number ++ "] " ++ mark.toString ++ " "
  let row (head : Octets) : Octets := Octets.padRight (max 33 (head.length + 1)) head
  if withPids then
    let first := number ++ Octets.ofNat (j.pids.headD 0) ++ " " ++ state
    let others := j.pids.tail.map fun n =>
      "\n" ++ String.ofList (List.replicate number.length ' ') ++ Octets.ofNat n
    Sh.write (row first ++ String.join others ++ "\n")
  else
    Sh.write (row (number ++ state) ++ String.join (j.pids.tail.map fun _ => " | ") ++ "\n")

/-- Writes jobs, and forgets those that have ended. -/
def showJobs (os : Options) (named : List Job) : Sh Unit := do
  let js := jobsInOrder (← Sh.process)
  let current := (js.head?).map (·.number)
  let previous := (js[1]?).map (·.number)
  let w ← Sh.world
  for j in named do
    if has os 'p' then Sh.write (Octets.ofNat (j.pids.headD 0) ++ "\n")
    else
      let mark := if some j.number = current then '+' else if some j.number = previous then '-' else ' '
      writeJob (has os 'l') mark j
  Sh.change fun p => { p with
    jobs := p.jobs.filter fun j => !(Sh.isDone w j && named.any fun k => k.number = j.number) }

/-- `jobs` -/
def jobs : Builtin := fun args => do
  let (os, targets) ← plainOptions "lp" "" args
  let named ← if targets = [] then pure (jobsInOrder (← Sh.process)) else targets.mapM job
  showJobs os named
  return 0

/-- `fg` and `bg`: jobs are controlled only at a terminal. -/
def resume : Builtin := fun args => do
  let (_, targets) ← plainOptions "" "" args
  match targets with
  | [] =>
    if (← Sh.process).jobs = [] then Sh.fault "No current job"
    Sh.fault "job (null) not created under job control"
  | t :: _ =>
    discard (job t)
    Sh.fault ("job " ++ t ++ " not created under job control")

/-- Waits for a job and gives its status. The end by a signal is told. -/
def waitForJob (j : Job) : Sh (Except Nat Nat) := do
  let r ← Builtin.waitForJob j
  if let some (.killed n) := (← Sh.world).endOf? j.lastPid then
    if !j.isNoted && !Sh.silentSignals.elem n then Sh.complain (signalText n ++ "\n")
  return r

/-- Waits for what some words name, one after the other, and gives the last status. -/
def waitForEach : List Octets → Nat → Sh Nat
  | [], status => return status
  | t :: ts, _ => do
    let j? ←
      if Octets.startsWith "%" t then some <$> job t
      else do
        let pid ← number t
        pure ((← Sh.process).jobs.find? fun j => j.lastPid = pid)
    match j? with
    | none => waitForEach ts 127
    | some j =>
      match ← waitForJob j with
      | .ok n => waitForEach ts n
      | .error n => return n

/-- `wait` -/
def wait : Builtin := fun args => do
  let (_, targets) ← plainOptions "" "" args
  if targets ≠ [] then return ← waitForEach targets 127
  let p ← Sh.process
  let status ← waitForJobs (p.jobs.length + 1)
  if status ≠ 0 then return status
  let w ← Sh.world
  let status ← waitForAll ((p.children ++ p.lastJob.toList).filter w.isAlive)
  if status = 0 then
    for j in (← Sh.process).jobs do
      noteJob j.number
  return status

/-! ## `kill` -/

/-- How `kill` is used. -/
def killUsage : Octets :=
  "Usage: kill [-s sigspec | -signum | -sigspec] [pid | job]... or\nkill -l [exitstatus]"

/-- Writes the names of all signals, or of the one that has ended a command with some status. -/
def nameSignals (words : List Octets) : Sh Nat := do
  match words with
  | [] =>
    Sh.write ("0\n" ++ String.join (((List.range signalCount).drop 1).map fun n => signalName n ++ "\n"))
  | w :: _ =>
    let n ← number w
    let n := if 128 < n then n - 128 else n
    if n = 0 || signalCount ≤ n then Sh.fault ("invalid signal number or exit status: " ++ w)
    Sh.write (signalName n ++ "\n")
  return 0

/-- The process that an argument of `kill` names; there is no process group of a job. -/
def killTarget? (t : Octets) : Sh (Option Nat) := do
  match t.toList with
  | '%' :: _ =>
    discard (job t)
    return none
  | '-' :: r =>
    discard (number (String.ofList r))
    return none
  | _ =>
    let n ← number t
    let own := (← Sh.process).pid
    return some (if n = 0 then own else n)

/-- Sends a signal to what the arguments name. -/
def sendAll (signal : Nat) (targets : List Octets) : Sh Nat :=
  onEach targets fun t => do
    let sent ← match ← killTarget? t with
      | some pid => send signal pid
      | none => pure false
    if !sent then Sh.report "No such process\n"
    return sent

/-- `kill` -/
def kill : Builtin := fun args => do
  match args with
  | [] => Sh.fault killUsage
  | a :: rest =>
    match if Octets.startsWith "-" a then signal? 1 (String.ofList (a.toList.drop 1)) else none with
    | some signal => if rest = [] then Sh.fault killUsage else sendAll signal rest
    | none =>
      let (os, words) ← plainOptions "l" "s" args
      if has os 'l' then
        if has os 's' then Sh.fault killUsage
        nameSignals words
      else
        let signal ← match os.reverse.lookup 's' with
          | none => pure World.endSignal
          | some s =>
            match signal? 1 s with
            | some n => pure n
            | none => Sh.fault ("invalid signal number or name: " ++ s)
        if words = [] then Sh.fault killUsage
        sendAll signal words

end ShellCoverage.Shell.Builtin.Plain
