import ShellCoverage.Shell.Machine

/-!
# Descriptors

Input and output of a process. Who reads from a pipe waits for what is written into it, as long as there
is somebody who may write; who writes into a full pipe waits for room, and one that nobody reads any more
sends the writer a signal.

* `Sh.setDescriptor`, `Sh.closeDescriptor` : what a descriptor means;
* `Sh.openFile` : opens the file at a path;
* `Sh.takeFrom` : takes characters from a descriptor; `Sh.readAll`, `Sh.readLine?` : all, or a line;
* `Sh.writeTo` : writes to a descriptor; `Sh.write`, `Sh.complain`, `Sh.writeTrace`;
* `Sh.report` : a message with the name of the shell and the line.
-/

namespace ShellCoverage.Shell

namespace Sh

/-! ## Open files -/

/-- The open file of a descriptor. -/
def openFile? (fd : Nat) : Sh (Option (Nat × OpenFile)) := do
  let m ← get
  match Table.get? fd m.process.descriptors with
  | none => return none
  | some i => return (m.world.files[i]?).map fun f => (i, f)

/-- Makes an open file that the process has, under no descriptor yet. -/
def addFile (f : OpenFile) : Sh Nat := do
  let i := (← world).files.size
  changeWorld fun w => { w with files := w.files.push f }.retain i
  return i

/-- One descriptor less means an open file. -/
def release (i : Nat) : Sh Unit := changeWorld (·.release i)

/-- Makes a pipe, with the open files for reading and for writing. -/
def addPipe (capacity : Option Nat) : Sh (Nat × Nat) := do
  let n := (← world).pipes.size
  changeWorld fun w => { w with pipes := w.pipes.push { capacity } }
  let reader ← addFile { channel := .pipe n, writable := false }
  let writer ← addFile { channel := .pipe n, readable := false }
  return (reader, writer)

/-- The number of characters that a pipe holds at most. -/
def pipeCapacity : Nat := 65536

/-- Changes an open file. -/
def changeFile (i : Nat) (f : OpenFile → OpenFile) : Sh Unit :=
  changeWorld fun w => { w with files := w.files.modify i f }

/-- Makes a descriptor mean an open file. -/
def setDescriptor (fd i : Nat) : Sh Unit := do
  let old := Table.get? fd (← process).descriptors
  changeWorld fun w =>
    let w := w.retain i
    match old with
    | some j => w.release j
    | none => w
  change fun p => { p with descriptors := Table.insert fd i p.descriptors }

/-- Makes a descriptor mean an open file that the process has under no other one. -/
def moveToDescriptor (fd i : Nat) : Sh Unit := do
  setDescriptor fd i
  release i

/-- Closes a descriptor. -/
def closeDescriptor (fd : Nat) : Sh Unit := do
  match Table.get? fd (← process).descriptors with
  | some i => release i
  | none => pure ()
  change fun p => { p with
    descriptors := Table.erase fd p.descriptors
    traceDescriptor := if p.traceDescriptor = some fd then none else p.traceDescriptor }

/-- A table of descriptors with one of them changed. -/
def withDescriptor (fd i : Nat) (p : Process) : Process :=
  { p with descriptors := Table.insert fd i p.descriptors }

/-- The lowest descriptor from `n` on that is free. -/
def freeDescriptor (n : Nat) : Sh Nat := do
  let t := (← process).descriptors
  return ((List.range (n + t.length + 1)).drop n).find? (fun fd => !Table.has fd t) |>.getD n

/-- The highest descriptor below 64 that is free. -/
def highDescriptor : Sh Nat := do
  let t := (← process).descriptors
  return (((List.range 64).reverse).find? fun n => !Table.has n t).getD 63

/-- The content of the file at a place. -/
def contentAt (place : List Name) : Sh Octets := do
  match (← world).node? place with
  | some (.file _ content) => return Octets.ofBytes content
  | _ => return ""

/-- A descriptor means a directory. -/
def isDirectoryAt (fd : Nat) : Sh Bool := do
  match ← openFile? fd with
  | some (_, f) => return match f.channel with | .directory => true | _ => false
  | none => return false

/-! ## Reading -/

/-- Reading goes on at most so often. -/
def maxReads : Nat := 10000000

/-- More characters than will ever wait in a pipe. -/
def everything : Nat := 2 ^ 62

/-- Takes characters from a pipe as a function says, which gets what there is and whether no more can
come, and tells how much it takes, or that it needs more; it needs all if `whole` is set. At the deadline
it gets what there is as if no more could come. -/
def takeFromPipe {α : Type} (pipe : Nat) (whole : Bool) (deadline : Option Nat)
    (f : List Char → Bool → Option (α × Nat)) : Nat → Sh (Option α)
  | 0 => throw .stopped
  | n + 1 => do
    let w ← world
    let p := w.pipe pipe
    let cs := p.content
    let isLate := deadline.any (· ≤ w.clock)
    let isLast : Bool := p.writers = 0 || isLate
    match if whole && !isLast then none else f cs isLast with
    | some (a, k) =>
      let rest := cs.drop k
      changeWorld (·.changePipe pipe fun p => p.withContent rest (p.size - min k p.size))
      return some a
    | none =>
      if isLast then return none
      changeWorld (·.changePipe pipe fun p => p.withContent cs p.size)
      let room := p.capacity
      changeWorld (·.changePipe pipe fun p => { p with capacity := none })
      pause (.more pipe (if whole then everything else p.size)) deadline false
      changeWorld (·.changePipe pipe fun p => { p with capacity := room })
      takeFromPipe pipe whole deadline f n

/-- Takes characters from a descriptor as a function says, which gets what there is and whether no more
can come, and tells how much it takes, or that it needs more. -/
def takeFrom {α : Type} (fd : Nat) (whole : Bool) (deadline : Option Nat)
    (f : List Char → Bool → Option (α × Nat)) : Sh (Option α) := do
  match ← openFile? fd with
  | none => return none
  | some (i, file) =>
    if !file.readable then return none
    let taken (cs : List Char) : Sh (Option α) := do
      match f cs true with
      | some (a, n) =>
        changeFile i fun file => { file with position := file.position + n }
        return some a
      | none => return none
    match file.channel with
    | .null | .directory => taken []
    | .zeros => taken (List.replicate pipeCapacity '\x00')
    | .text content => taken (content.toList.drop file.position)
    | .file place => taken ((← contentAt place).toList.drop file.position)
    | .pipe n => takeFromPipe n whole deadline f maxReads

/-- Takes all characters in pieces, as they come, and runs an action on each. -/
def takePieces (fd : Nat) (act : Octets → Sh Unit) : Nat → Sh Unit
  | 0 => throw .stopped
  | n + 1 => do
    let piece ← takeFrom fd false none fun cs isLast =>
      if cs = [] && !isLast then none else some (String.ofList cs, cs.length)
    match piece with
    | none | some "" => pure ()
    | some s =>
      act s
      takePieces fd act n

/-- All that can be read from a descriptor. -/
def readAll (fd : Nat) : Sh (Option Octets) :=
  takeFrom fd true none fun cs _ => some (String.ofList cs, cs.length)

/-- Characters up to and with a delimiter, if there are any left. -/
def readLine? (fd : Nat) (delimiter : Char) : Sh (Option (List Char)) :=
  takeFrom fd false none fun cs isLast =>
    let l := cs.takeWhile (· ≠ delimiter)
    match cs.drop l.length with
    | c :: _ => some (l ++ [c], l.length + 1)
    | [] => if isLast then some (l, l.length) else none

/-- All that is left of an open file, which is not taken from it unless it is a pipe. -/
def remaining (i : Nat) : Sh (List Char) := do
  match (← world).files[i]? with
  | none => return []
  | some f =>
    match f.channel with
    | .null | .directory | .zeros => return []
    | .text content => return content.toList.drop f.position
    | .file place => return (← contentAt place).toList.drop f.position
    | .pipe n =>
      return (← takeFromPipe n true none (fun cs _ => some (cs, cs.length)) maxReads).getD []

/-! ## Writing -/

/-- Bytes with others written over them from a position on. -/
def overwrite (old : Bytes) (position : Nat) (new : Bytes) : Bytes :=
  old.take position ++ List.replicate (position - old.length) 0 ++ new ++
    old.drop (position + new.length)

/-- The signal for one who writes to a pipe that nobody reads. -/
def pipeSignal : Nat := 13

/-- Writes into a pipe, and waits for room when it is full. -/
def writePipe (pipe : Nat) : Nat → Octets → Sh (Option Errno)
  | 0, _ => throw .stopped
  | n + 1, s => do
    let p := (← world).pipe pipe
    if p.readers = 0 then
      let pid := (← process).pid
      changeWorld (·.send pipeSignal pid)
      notice
      return some .brokenPipe
    else
      let room := p.room s.length
      if room = s.length then
        changeWorld (·.changePipe pipe (·.push s))
        return none
      else
        changeWorld (·.changePipe pipe (·.push (String.ofList (s.toList.take room))))
        pause (.room pipe) none false
        writePipe pipe n (String.ofList (s.toList.drop room))

/-- Notes that the file at a place was changed. -/
def noteChange (place : List Name) : Sh Unit :=
  changeWorld fun w =>
    { w with times := (w.namesOf place).foldl (fun t p => Table.insert p (w.clock + 1 : Int) t) w.times }

/-- Writes to an open file; the result tells why that failed. -/
def writeFile (i : Nat) (s : Octets) : Sh (Option Errno) := do
  match (← world).files[i]? with
  | none => return none
  | some f =>
    match f.channel with
    | .null | .zeros | .directory | .text _ => return none
    | .pipe n => writePipe n maxReads s
    | .file place =>
      let new := Octets.toBytes s
      match (← world).node? place with
      | some (.file mode old) =>
        let position := if f.appends then old.length else f.position
        changeWorld (·.setNode place (.file mode (overwrite old position new)))
        changeFile i fun f => { f with position := position + new.length }
        noteChange place
        return none
      | _ => return none

/-- Writes to a descriptor; the result tells why that failed. -/
def writeTo (fd : Nat) (s : Octets) : Sh (Option Errno) := do
  match ← openFile? fd with
  | some (i, f) =>
    if !f.writable then return some .badDescriptor
    else if s = "" then return none
    else writeFile i s
  | none => return some .badDescriptor

/-- Writes to the output. -/
def write (s : Octets) : Sh Unit := discard (writeTo 1 s)

/-- Writes to the error output. -/
def complain (s : Octets) : Sh Unit := discard (writeTo 2 s)

/-- Writes into the trace, after the lines that wait. -/
def writeTrace (s : Octets) : Sh Unit := do
  let p ← process
  change fun p => { p with heldTrace := "" }
  discard (writeTo (p.traceDescriptor.getD 2) (p.heldTrace ++ s))

/-- Writes the lines of the trace that wait. -/
def flushTrace : Sh Unit := do
  if (← process).heldTrace ≠ "" then writeTrace ""

/-- Writes a line of the trace with the next one, unless the trace goes to the errors. A copy of the
process that is made in between has the line too, and writes it once more. -/
def holdTrace (s : Octets) : Sh Unit := do
  match (← process).traceDescriptor with
  | none => writeTrace s
  | some _ => change fun p => { p with heldTrace := p.heldTrace ++ s }

/-! ## Paths -/

/-- How a file is opened. -/
inductive OpenMode where
  | reading
  | writing (empties : Bool)
  | appending
  | both
  deriving DecidableEq

/-- The mode lets the process read. -/
def OpenMode.reads (mode : OpenMode) : Bool := mode = .reading || mode = .both

/-- The mode lets the process write. -/
def OpenMode.writes (mode : OpenMode) : Bool := mode ≠ .reading

/-- The descriptor that a path of the device directory names. -/
def namedDescriptor? (path : Octets) : Option Nat :=
  if path = "/dev/stdin" then some 0
  else if path = "/dev/stdout" then some 1
  else if path = "/dev/stderr" then some 2
  else ((Octets.dropHead? "/dev/fd/" path).orElse fun _ => Octets.dropHead? "/proc/self/fd/" path).bind
    Octets.natural?

/-- Opens an end of a pipe with a name, and waits until somebody has opened the other one. -/
def openPipe (n : Nat) (mode : OpenMode) : Sh Nat := do
  let p := (← world).pipe n
  let i ← addFile { channel := .pipe n, readable := mode.reads, writable := mode.writes }
  changeWorld (·.changePipe n fun p => { p with
    openedForReading := if mode.reads then p.openedForReading + 1 else p.openedForReading
    openedForWriting := if mode.writes then p.openedForWriting + 1 else p.openedForWriting })
  if mode.reads && !mode.writes && p.writers = 0 then
    pause (.openedForWriting n p.openedForWriting) none false
  else if mode.writes && !mode.reads && p.readers = 0 then
    pause (.openedForReading n p.openedForReading) none false
  return i

/-- The new mode of a file that the process makes. -/
def newMode (full : Nat) : Sh Nat := return full - (full &&& (← process).maskedMode)

/-- Opens the node at a place. -/
def openNode (place : List Name) (x : Node) (mode : OpenMode) : Sh (Except Errno Nat) := do
  let f : OpenFile :=
    { channel := .null, readable := mode.reads, writable := mode.writes, appends := mode = .appending }
  match x with
  | .directory _ _ =>
    if mode.writes then return .error .isDirectory
    return .ok (← addFile { f with channel := .directory })
  | .link _ => return .error .tooManyLinks
  | .device =>
    if place.getLast? = some (Octets.toBytes "zero") then
      return .ok (← addFile { f with channel := .zeros })
    return .ok (← addFile f)
  | .fifo n => return .ok (← openPipe n mode)
  | .file m _ =>
    if (mode.reads && !x.isReadable) || (mode.writes && !x.isWritable) then return .error .accessDenied
    if mode = .writing true then
      changeWorld (·.setNode place (.file m []))
      noteChange place
    return .ok (← addFile { f with channel := .file place })

/-- Opens the file at a path. -/
def openFile (path : Octets) (mode : OpenMode) : Sh (Except Errno Nat) := do
  match namedDescriptor? path with
  | some fd =>
    match ← openFile? fd with
    | none => return .error .noEntry
    | some (i, f) =>
      match f.channel with
      | .file place =>
        match (← world).node? place with
        | some x => openNode place x mode
        | none => return .error .noEntry
      | .pipe n =>
        return .ok (← addFile { channel := .pipe n, readable := mode.reads, writable := mode.writes })
      | _ =>
        changeWorld (·.retain i)
        return .ok i
  | none =>
    let fs ← fileSystem
    let bs := Octets.toBytes path
    if mode.writes then
      match fs.target bs with
      | .error e => return .error e
      | .ok (place, x?) =>
        if !fs.tree.isReachable place then return .error .accessDenied
        if let some x := x? then return ← openNode place x mode
        if path.toList.getLast? = some '/' then return .error .isDirectory
        if FileSystem.isRemoved place.dropLast then return .error .noEntry
        if !((fs.tree.at? place.dropLast).any Node.isWritable) then return .error .accessDenied
        let made ← newMode 0o666
        setTree (fs.adjust place fun _ => some (.file made []))
        noteChange place
        return .ok (← addFile { channel := .file place, readable := mode.reads, appends := mode = .appending })
    else
      match fs.find true bs with
      | .error e => return .error e
      | .ok (place, x) => if fs.tree.isReachable place then openNode place x mode else return .error .accessDenied

/-- Opens the file at a path for reading, runs an action on the open file, and closes it. -/
def withFile {α : Type} (path : Octets) (act : Nat → Sh α) : Sh (Except Errno α) := do
  match ← openFile path .reading with
  | .error e => return .error e
  | .ok i =>
    let r ← attempt (act i)
    release i
    return .ok (← conclude r)

/-- The node at a path. -/
def node? (follow : Bool) (path : Octets) : Sh (Except Errno (List Name × Node)) := do
  match if follow then namedDescriptor? path else none with
  | some fd =>
    match ← openFile? fd with
    | none => return .error .noEntry
    | some (_, f) =>
      match f.channel with
      | .file place =>
        match (← world).node? place with
        | some x => return .ok (place, x)
        | none => return .error .noEntry
      | .pipe n => return .ok ([], .fifo n)
      | _ => return .ok ([], .device)
  | none =>
    let fs ← fileSystem
    match fs.find follow (Octets.toBytes path) with
    | .ok (place, x) => return if fs.tree.isReachable place then .ok (place, x) else .error .accessDenied
    | .error e => return .error e

/-- The text of a place. -/
def placeText (place : List Name) : Octets := "/" ++ Octets.join "/" (place.map Octets.ofBytes)

/-! ## Messages -/

/-- The name that messages begin with. -/
def messageName : Sh Octets := do
  let p ← process
  return if p.currentSource ≠ "" && p.dialect = .full then p.currentSource else p.name

/-- Writes a message of the shell about a line, with its name. The plain shell names the command of its own that is
running, too. -/
def reportAt (line : Nat) (message : Octets) : Sh Unit := do
  let p ← process
  let name ← messageName
  match p.dialect with
  | .full => complain (name ++ ": line " ++ Octets.ofNat line ++ ": " ++ message ++ "\n")
  | .plain =>
    let command := if p.command = "" then "" else p.command ++ ": "
    complain (name ++ ": " ++ Octets.ofNat line ++ ": " ++ command ++ message ++ "\n")

/-- Writes a message of the shell, with its name and the line. -/
def report (message : Octets) : Sh Unit := do reportAt (← process).line message

/-- Reports an error of the plain shell, which ends the command of the shell that is running, and the shell itself if
that is a special command or if there is none. -/
def fault {α : Type} (message : Octets) : Sh α := do
  report message
  throw (.refused 2)

end Sh

end ShellCoverage.Shell
