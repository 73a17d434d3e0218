import ShellCoverage.Shell.Program.Rules.Workspace

/-!
# Inputs and outputs of rules

What is written waits until there is much of it, a command is started or the script ends. Records are taken from
the files among the arguments; files and commands are known by their names.

* `Rules.put` : writes to a file or a command; `Rules.flushAll` : writes what waits;
* `Rules.nextRecord?` : the next record of the arguments; `Rules.recordFrom` : that of a file or a command;
* `Rules.closeChannel` : closes what has a name.
-/

namespace ShellCoverage.Shell.Rules

open Program

/-! ## Outputs -/

/-- The name of the standard output. -/
def standardName : Octets := "/dev/stdout"

/-- Writes what waits at an outlet. -/
def Outlet.flush (o : Outlet) : Sh Outlet := do
  if o.waiting = [] then return o
  discard (Sh.writeTo o.fd (String.join o.waiting.reverse))
  return { o with waiting := [], size := 0 }

/-- Changes an outlet. -/
def changeOutlet (name : Octets) (f : Outlet → Sh Outlet) : Act Unit := do
  if let some o := Table.get? name (← get).outlets then
    let o ← onMachine (f o)
    modify fun s => { s with outlets := Table.insert name o s.outlets }

/-- Writes what waits at all outlets. -/
def flushAll : Act Unit := do
  for name in Table.keys (← get).outlets do changeOutlet name Outlet.flush

/-- Ends with a message of its own. -/
def stopWith {α : Type} (message : Octets) : Act α := do
  onMachine (complain message)
  modify fun s => { s with status := 2 }
  throw .abandoned

/-- Runs a text as the commands of a shell that does not have the outlets and sources of the script. -/
def commandBody (launch : Launch) (text : Octets) (fds : List Nat) (env : Table Octets Octets) : Sh Nat := do
  for fd in fds do Sh.closeDescriptor fd
  runCommand launch ["sh", "-c", text] env

/-- Starts the commands in a text, with a descriptor for an open file. -/
def startCommand (text : Octets) (descriptors : List (Nat × Nat)) : Act Nat := do
  flushAll
  let s ← get
  let launch ← readThe Launch
  let fds := s.outlets.filterMap (fun o => if 2 < o.2.fd then some o.2.fd else none) ++
    s.sources.filterMap fun x => if 2 < x.2.feed.fd then some x.2.feed.fd else none
  onMachine do
    let env ← environment
    startWith descriptors (commandBody launch text fds env)

/-- The status of a command that has ended. -/
def statusOf : Ending → Nat
  | .exited n => n
  | .killed n => 256 + n

/-- The ways to open an outlet. -/
inductive Mode where
  | file
  | atEnd
  | command
  deriving DecidableEq

/-- Opens an outlet. -/
def openOutlet (mode : Mode) (name : Octets) : Act Outlet := do
  if mode = .command then
    flushAll
    let (reader, writer) ← onMachine (Sh.addPipe (some Sh.pipeCapacity))
    let fd ← onMachine (Sh.freeDescriptor 3)
    let pid ← startCommand name [(0, reader)]
    onMachine do
      Sh.release reader
      Sh.moveToDescriptor fd writer
    return { fd, pid := some pid }
  if name = "/dev/stderr" then return { fd := 2, immediate := true }
  match ← onMachine (Sh.openFile name (if mode = .atEnd then .appending else .writing true)) with
  | .error e => stopWith ("cannot open " ++ name ++ " for output (" ++ e.description ++ ")")
  | .ok i =>
    let fd ← onMachine (Sh.freeDescriptor 3)
    onMachine (Sh.moveToDescriptor fd i)
    return { fd }

/-- Opens an outlet, unless it is there. -/
def provideOutlet (mode : Mode) (name : Octets) : Act Unit := do
  if !Table.has name (← get).outlets then
    let o ← openOutlet mode name
    modify fun s => { s with outlets := Table.insert name o s.outlets }

/-- What waits to be written is at most so long. -/
def maxWaiting : Nat := 4096

/-- Writes a text to an outlet that is there. -/
def put (name : Octets) (text : Octets) : Act Unit :=
  changeOutlet name fun o =>
    let o := { o with waiting := text :: o.waiting, size := o.size + text.length }
    if o.immediate || maxWaiting ≤ o.size then o.flush else return o

/-- Closes an outlet, and gives the status of the command that reads it. -/
def closeOutlet (name : Octets) (o : Outlet) : Act Nat := do
  let o ← onMachine o.flush
  modify fun s => { s with outlets := Table.erase name s.outlets }
  onMachine do
    if 2 < o.fd then Sh.closeDescriptor o.fd
    match o.pid with
    | some pid => return statusOf (← Sh.awaitEnd pid)
    | none => return 0

/-- Closes all outlets: first those that commands read, the last one first. -/
def closeAll : Act Unit := do
  let piped := (← get).outlets.filter fun o => o.2.pid.isSome
  for (name, o) in piped.reverse do discard (closeOutlet name o)
  flushAll

/-! ## Records -/

/-- The part of a text up to a match that is not empty, and what follows it. -/
def cutAtMatch (r : Regex) : Cut (List Char) := fun ended cs =>
  match partsBetween.nonEmpty? r (cs.length + 1) 0 cs with
  | some (start, length) =>
    if ended || start + length < cs.length then some (cs.take start, cs.drop (start + length)) else none
  | none => if ended && cs ≠ [] then some (cs, []) else none

/-- The lines up to an empty one, and what follows the empty lines after them. -/
def cutAtGap : Cut (List Char) := fun ended cs =>
  let start := cs.dropWhile (· = '\n')
  let rec go (acc : List Char) : List Char → Option (List Char × List Char)
    | '\n' :: '\n' :: r => some (acc.reverse, r)
    | c :: r => go (c :: acc) r
    | [] =>
      let line := acc.reverse
      if ended && line ≠ [] then some (if acc.head? = some '\n' then line.dropLast else line, []) else none
  go [] start

/-- The part of a text up to a character, without it. -/
def cutBefore (c : Char) : Cut (List Char) := fun ended cs =>
  (cutAt c ended cs).map fun (s, rest) => (if s.getLast? = some c then s.dropLast else s, rest)

/-- Takes a record off a feed. -/
def recordOf? (f : Feed) : Act (Option Octets × Feed) := do
  let rs ← globalText "RS"
  let cut ← match rs.toList with
    | [] => pure cutAtGap
    | [c] => pure (cutBefore c)
    | _ => pure (cutAtMatch (← regexOf rs))
  let (r, f) ← onMachine (f.take? cut)
  return (r.map String.ofList, f)

/-- Ends if a file cannot be read. -/
def checkReadable (f : Feed) : Act Unit := do
  if let some e ← onMachine (refusal? f.fd) then stopWith ("read error (" ++ e.description ++ ")")

/-- Carries out an argument that sets a variable. -/
def assignArgument (name value : Octets) : Act Unit :=
  assign (.global name) (.input (String.ofList (unescaped (value.length + 1) value.toList)))

/-- The name and the value of an argument that sets a variable. -/
def assignmentIn? (s : Octets) : Option (Octets × Octets) :=
  let name := s.toList.takeWhile (· ≠ '=')
  match s.toList.drop name.length with
  | _ :: value => if Octets.isNameList name then some (String.ofList name, String.ofList value) else none
  | [] => none

/-- Opens the next file among the arguments, of which so many are left, or the standard input if none is
named. -/
def openNext : Nat → Act Bool
  | 0 => useStandard
  | n + 1 => do
    let s ← get
    let count := integerOf (← globalCell "ARGC").toNumber
    if count ≤ s.argument then useStandard
    else
      set { s with argument := s.argument + 1 }
      let args ← elementsOf (← arrayOf (.global "ARGV"))
      let arg ← textOf ((Table.get? (Octets.ofNat s.argument) args).getD .missing)
      if arg = "" then openNext n
      else
        match assignmentIn? arg with
        | some (name, value) =>
          assignArgument name value
          openNext n
        | none =>
          match ← onMachine (Feed.open? arg) with
          | .error e =>
            stopWith ((if arg = "-" then "read error (" else "cannot open " ++ arg ++ " (") ++ e.description ++ ")")
          | .ok f =>
            checkReadable f
            setGlobal "FILENAME" (.text arg)
            setGlobal "FNR" (.ofNat 0)
            modify fun s => { s with main := some f, hasFile := true }
            return true
where
  /-- Takes the standard input, unless a file was named. -/
  useStandard : Act Bool := do
    let s ← get
    if s.hasFile then return false
    set { s with main := some { fd := 0 }, hasFile := true }
    checkReadable { fd := 0 }
    return true

/-- The next record of the arguments, of which so many are tried. -/
def nextRecordWithin : Nat → Act (Option Octets)
  | 0 => return none
  | n + 1 => do
    if (← get).isOver then return none
    match (← get).main with
    | none =>
      let argc := integerOf (← globalCell "ARGC").toNumber
      if ← openNext (argc.toNat + 1) then nextRecordWithin n
      else
        modify fun s => { s with isOver := true }
        return none
    | some f =>
      let (r, f) ← recordOf? f
      match r with
      | some _ =>
        modify fun s => { s with main := some f }
        return r
      | none =>
        onMachine f.close
        modify fun s => { s with main := none }
        nextRecordWithin n

/-- The number of a variable is one more. -/
def countUp (name : Octets) : Act Unit := do setGlobal name (.number ((← globalCell name).toNumber + 1))

/-- The next record of the arguments, which is counted. -/
def nextRecord? : Act (Option Octets) := do
  let argc := integerOf (← globalCell "ARGC").toNumber
  let r ← nextRecordWithin (2 * argc.toNat + 4)
  if r.isSome then
    countUp "NR"
    countUp "FNR"
  return r

/-- Goes on with the next file. -/
def leaveFile : Act Unit := do
  if let some f := (← get).main then
    onMachine f.close
    modify fun s => { s with main := none }

/-- The source of some name, which is opened if it is not there; nothing if that fails. -/
def sourceOf? (isCommand : Bool) (name : Octets) : Act (Option Source) := do
  if let some x := Table.get? name (← get).sources then return some x
  if isCommand then
    let (reader, writer) ← onMachine (Sh.addPipe (some Sh.pipeCapacity))
    let pid ← startCommand name [(1, writer)]
    let fd ← onMachine do
      Sh.release writer
      let fd ← Sh.freeDescriptor 3
      Sh.moveToDescriptor fd reader
      return fd
    return some { feed := { fd }, pid := some pid }
  match ← onMachine (Feed.open? name) with
  | .error _ => return none
  | .ok feed =>
    checkReadable feed
    return some { feed }

/-- Takes a record from a file or a command: one and it, zero at the end, and minus one if there is no such
file. -/
def recordFrom (isCommand : Bool) (name : Octets) : Act (Int × Octets) := do
  match ← sourceOf? isCommand name with
  | none => return (-1, "")
  | some x =>
    let (r, feed) ← recordOf? x.feed
    modify fun s => { s with sources := Table.insert name { x with feed } s.sources }
    return match r with
    | some r => (1, r)
    | none => (0, "")

/-- Closes the outlet or the source of some name, and gives a status; minus one if there is none. -/
def closeChannel (name : Octets) : Act Int := do
  match Table.get? name (← get).outlets, Table.get? name (← get).sources with
  | some o, _ => return (← closeOutlet name o : Nat)
  | none, some x =>
    modify fun s => { s with sources := Table.erase name s.sources }
    onMachine do
      x.feed.close
      match x.pid with
      | some pid => return (statusOf (← Sh.awaitEnd pid) : Nat)
      | none => return 0
  | none, none => return -1

/-- Runs the commands in a text, and gives their status. -/
def runSystem (text : Octets) : Act Nat := do
  let pid ← startCommand text []
  return statusOf (← onMachine (Sh.awaitEnd pid))

end ShellCoverage.Shell.Rules
