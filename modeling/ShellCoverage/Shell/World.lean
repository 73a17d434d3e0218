import ShellCoverage.FileSystem.Update
import ShellCoverage.Shell.Octets
import ShellCoverage.Table

/-!
# What processes share

Processes share a file tree, open files, pipes and a clock, and they send each other signals. An open file
counts the descriptors that mean it; a pipe counts its open ends, so that a reader knows when no more can
come and a writer when nobody reads.

* `Ending` : how a process ends;
* `OpenFile`, `Pipe` : what descriptors mean;
* `Wait` : what a process waits for; `World.isOver` : it has come;
* `World` : all that is shared;
* `World.send` : sends a signal.
-/

namespace ShellCoverage.Shell

/-- How a process ends. -/
inductive Ending where
  | exited (status : Nat)
  | killed (signal : Nat)
  deriving DecidableEq, Repr, Inhabited

/-- The status by which the shell knows an ending. -/
def Ending.status : Ending → Nat
  | .exited n => n % 256
  | .killed n => 128 + n

/-- What an open file gives access to. -/
inductive Channel where
  /-- Nothing. -/
  | null
  /-- Zeros without end. -/
  | zeros
  /-- A directory, which cannot be read as a file can. -/
  | directory
  /-- The file at a place of the tree. -/
  | file (place : List Name)
  /-- A text that can be read. -/
  | text (content : Octets)
  /-- An end of the pipe with a number. -/
  | pipe (number : Nat)
  deriving Inhabited

/-- An open file. -/
structure OpenFile where
  channel : Channel
  /-- The number of bytes that were read, or passed by. -/
  position : Nat := 0
  appends : Bool := false
  readable : Bool := true
  writable : Bool := true
  /-- The number of descriptors that mean it, of all processes. -/
  references : Nat := 0
  deriving Inhabited

/-- A pipe. -/
structure Pipe where
  /-- The characters that wait to be read. -/
  unread : List Char := []
  /-- What was written after them, the latest first. -/
  written : List Octets := []
  /-- The number of characters that wait. -/
  size : Nat := 0
  /-- The number of characters that may wait, if there is a limit. -/
  capacity : Option Nat := some 65536
  readers : Nat := 0
  writers : Nat := 0
  /-- The number of times that it was opened for reading. -/
  openedForReading : Nat := 0
  /-- The number of times that it was opened for writing. -/
  openedForWriting : Nat := 0
  deriving Inhabited

namespace Pipe

/-- All that waits to be read. -/
def content (p : Pipe) : List Char :=
  if p.written.isEmpty then p.unread else p.unread ++ (String.join p.written.reverse).toList

/-- The pipe with a text written into it. -/
def push (s : Octets) (p : Pipe) : Pipe :=
  { p with written := s :: p.written, size := p.size + s.length }

/-- The pipe in which some characters wait. -/
def withContent (cs : List Char) (size : Nat) (p : Pipe) : Pipe :=
  { p with unread := cs, written := [], size }

/-- The number of characters that can be written, of those wanted. -/
def room (p : Pipe) (wanted : Nat) : Nat :=
  match p.capacity with
  | none => wanted
  | some n => min wanted (n - p.size)

end Pipe

/-! ## Waiting -/

/-- What a process may wait for. -/
inductive Event where
  /-- Nothing but the time. -/
  | time
  /-- Some processes have all ended. -/
  | allEnded (pids : List Nat)
  /-- One of some processes has ended. -/
  | anyEnded (pids : List Nat)
  /-- More than so many characters wait in a pipe, or nobody writes into it. -/
  | more (pipe size : Nat)
  /-- There is room in a pipe, or nobody reads from it. -/
  | room (pipe : Nat)
  /-- A pipe was opened for reading more often than so many times. -/
  | openedForReading (pipe times : Nat)
  /-- A pipe was opened for writing more often than so many times. -/
  | openedForWriting (pipe times : Nat)
  deriving Repr, Inhabited

/-- A process waits for an event, perhaps up to a moment. -/
structure Wait where
  pid : Nat
  event : Event
  deadline : Option Nat := none
  /-- A signal that the process takes care of ends the wait. -/
  interruptible : Bool := false
  deriving Repr, Inhabited

/-! ## Processes as others know them -/

/-- What others know of a process. -/
structure Entry where
  parent : Nat
  ended : Option Ending := none
  /-- The signals that it does not notice. -/
  ignored : List Nat := []
  /-- The signals for which it has commands. -/
  trapped : List Nat := []
  /-- It has commands for its end, which a signal to end does not prevent. -/
  isGuarded : Bool := false
  deriving Inhabited

/-- What there is to see for someone who looks at a pipe. -/
structure Look where
  /-- The number of characters that have come. -/
  size : Nat
  tree : Node
  /-- The number of directories that were moved. -/
  moves : Nat

/-- Someone outside who reads a pipe. When time passes he looks at what has come; once it is enough he
sends a process the signal to end. -/
structure Observer where
  pid : Nat
  pipe : Nat
  enough : Octets → Bool
  /-- Nothing more is done. -/
  hasActed : Bool := false
  /-- What there was to see at each look, the latest first. -/
  looks : List Look := []

/-- What all processes share. -/
structure World where
  tree : Node
  files : Array OpenFile := #[]
  pipes : Array Pipe := #[]
  /-- The texts of redirections, by number. -/
  bodies : Array Octets := #[]
  nextPid : Nat
  processes : Table Nat Entry := []
  /-- The time in microseconds. -/
  clock : Nat := 0
  /-- What the processes wait for that wait. -/
  waits : List Wait := []
  /-- The state of the generator of random numbers. -/
  seed : Nat := 1
  /-- Signals that were sent and not yet taken care of: the number of the process and that of the
  signal. -/
  signalled : List (Nat × Nat) := []
  observer : Option Observer := none
  /-- The places that directories had and have, in the order in which they were moved. -/
  moves : List (List Name × List Name) := []
  /-- Files that were removed while they were open. -/
  lost : Array Node := #[]
  /-- The places that name the same file, for files with more than one. -/
  linked : List (List (List Name)) := []
  /-- The times at which files were changed, in microseconds like the clock, for those that were. -/
  times : Table (List Name) Int := []
  /-- Why the first program could not be started. -/
  refusal : Option Errno := none

namespace World

/-! ## Open files -/

/-- Changes a pipe. -/
def changePipe (n : Nat) (f : Pipe → Pipe) (w : World) : World := { w with pipes := w.pipes.modify n f }

/-- A pipe. -/
def pipe (w : World) (n : Nat) : Pipe := w.pipes[n]?.getD {}

/-- Counts an end of the pipe as open or closed. -/
def countEnds (f : OpenFile) (count : Nat → Nat) (w : World) : World :=
  match f.channel with
  | .pipe n => w.changePipe n fun p => { p with
      readers := if f.readable then count p.readers else p.readers
      writers := if f.writable then count p.writers else p.writers }
  | _ => w

/-- One more descriptor means an open file. -/
def retain (i : Nat) (w : World) : World :=
  match w.files[i]? with
  | none => w
  | some f =>
    let w := if f.references = 0 then w.countEnds f (· + 1) else w
    { w with files := w.files.modify i fun f => { f with references := f.references + 1 } }

/-- One descriptor less means an open file. -/
def release (i : Nat) (w : World) : World :=
  match w.files[i]? with
  | none => w
  | some f =>
    let w := if f.references = 1 then w.countEnds f (· - 1) else w
    { w with files := w.files.modify i fun f => { f with references := f.references - 1 } }

/-- The text of a redirection. -/
def body (w : World) (n : Nat) : Octets := (w.bodies[n]?).getD ""

/-! ## Files and their names -/

/-- The number of a removed file, by its place. -/
def lostNumber? (place : List Name) : Option Nat :=
  if FileSystem.isRemoved place then (place.getLast?.map (·.tail)).bind fun n => Octets.natural? (Octets.ofBytes n)
  else none

/-- The node at a place, be it removed. -/
def node? (w : World) (place : List Name) : Option Node :=
  match lostNumber? place with
  | some n => w.lost[n]?
  | none => w.tree.at? place

/-- The places that name the same file as a place. -/
def namesOf (w : World) (place : List Name) : List (List Name) :=
  (w.linked.find? (·.elem place)).getD [place]

/-- Changes the node at a place, whatever its names. -/
def setNode (place : List Name) (x : Node) (w : World) : World :=
  match lostNumber? place with
  | some n => { w with lost := w.lost.set! n x }
  | none => { w with tree := (w.namesOf place).foldl (fun t p => t.adjust (fun _ => some x) p) w.tree }

/-- A place is one more name of the file at another one. -/
def addName (old new : List Name) (w : World) : World :=
  let names := w.namesOf old
  { w with linked := (names ++ [new]) :: w.linked.filter (· ≠ names) }

/-- Changes the places that open files mean. -/
def mapOpen (f : List Name → List Name) (w : World) : World :=
  { w with files := w.files.map fun x =>
      match x.channel with
      | .file place => { x with channel := .file (f place) }
      | _ => x }

/-- Some open file means a place. -/
def isOpen (place : List Name) (w : World) : Bool :=
  w.files.any fun f => f.references ≠ 0 && match f.channel with | .file p => p = place | _ => false

/-- Takes a place from the names of its file. Who has the file open keeps it, if it is the last name. -/
def dropName (place : List Name) (w : World) : World :=
  let others := (w.namesOf place).erase place
  let linked := (w.linked.map (·.erase place)).filter fun ps => 1 < ps.length
  let w := { w with linked }
  if !w.isOpen place then w
  else
    let redirect (other : List Name) : World := w.mapOpen fun p => if p = place then other else p
    match others, w.tree.at? place with
    | other :: _, _ => redirect other
    | [], some x =>
      { redirect (place.dropLast ++ [FileSystem.removedName w.lost.size]) with lost := w.lost.push x }
    | [], none => w

/-- What is at a place, with all below it, goes to another one. -/
def moveNames (old new : List Name) (w : World) : World :=
  let moved (p : List Name) : List Name := if old.isPrefixOf p then new ++ p.drop old.length else p
  { w.mapOpen moved with linked := w.linked.map (·.map moved) }

/-! ## Directories -/

/-- Where a directory is after others, or it, were moved. -/
def follow (place : List Name) (moves : List (List Name × List Name)) : List Name :=
  moves.foldl (fun place move =>
    if move.1.isPrefixOf place then move.2 ++ place.drop move.1.length else place) place

/-! ## Processes -/

/-- What others know of a process. -/
def entry? (w : World) (pid : Nat) : Option Entry := Table.get? pid w.processes

/-- Changes what others know of a process. -/
def changeEntry (pid : Nat) (f : Entry → Entry) (w : World) : World :=
  match w.entry? pid with
  | some x => { w with processes := Table.insert pid (f x) w.processes }
  | none => w

/-- The end of a process, if it has ended. -/
def endOf? (w : World) (pid : Nat) : Option Ending := (w.entry? pid).bind (·.ended)

/-- The process is there. -/
def isAlive (w : World) (pid : Nat) : Bool := (w.entry? pid).any (·.ended.isNone)

/-- A process with descriptors begins. -/
def begin (pid : Nat) (e : Entry) (descriptors : Table Nat Nat) (w : World) : World :=
  descriptors.foldl (fun w d => w.retain d.2) { w with processes := Table.insert pid e w.processes }

/-- Forgets a process that has ended. -/
def forget (pid : Nat) (w : World) : World := { w with processes := Table.erase pid w.processes }

/-- The processes that a process has started, and those that they have started, for so many
generations. -/
def descendants (w : World) : Nat → Nat → List Nat
  | 0, _ => []
  | n + 1, pid =>
    let children := (w.processes.filter fun e => e.2.parent = pid).map (·.1)
    children ++ children.flatMap (descendants w n)

/-! ## Signals -/

/-- The signals that do not end a process. -/
def harmlessSignals : List Nat := [0, 17, 18, 19, 20, 21, 22, 23, 28]

/-- The signals that end a process at once, whatever commands it has for its end. -/
def abruptSignals : List Nat := [3, 9, 16, 29, 30]

/-- The signal that a process can neither ignore nor take care of. -/
def surestSignal : Nat := 9

/-- Sends a signal to a process: one that takes care of it will; one that ignores it goes on; any other
one ends. -/
def send (signal pid : Nat) (w : World) : World :=
  match w.entry? pid with
  | none => w
  | some x =>
    let waits : World := { w with signalled := w.signalled ++ [(pid, signal)] }
    if x.ended.isSome || signal = 0 then w
    else if signal ≠ surestSignal && x.trapped.elem signal then waits
    else if signal ≠ surestSignal && (x.ignored.elem signal || harmlessSignals.elem signal) then w
    else if x.isGuarded && !abruptSignals.elem signal then waits
    else w.changeEntry pid fun x => { x with ended := some (.killed signal) }

/-- The signal that tells a process of the end of another one that it has started. -/
def childSignal : Nat := 17

/-- A process ends, in some way unless it was killed before. -/
def finish (pid : Nat) (e : Ending) (descriptors : Table Nat Nat) (w : World) : World :=
  let w := descriptors.foldl (fun w d => w.release d.2) w
  let w := w.changeEntry pid fun x => { x with ended := x.ended <|> some e }
  match w.entry? pid with
  | some x => w.send childSignal x.parent
  | none => w

/-- The signal that ends a process although it has commands for its end. -/
def fatal? (w : World) (pid : Nat) : Option Nat :=
  match w.entry? pid with
  | none => none
  | some x =>
    match x.ended with
    | some (.killed n) => some n
    | _ => (w.signalled.find? fun s => s.1 = pid && !x.trapped.elem s.2).map (·.2)

/-! ## Waits -/

/-- An event has come. -/
def hasHappened (w : World) : Event → Bool
  | .time => false
  | .allEnded pids => pids.all fun n => !w.isAlive n
  | .anyEnded pids => pids.any fun n => !w.isAlive n
  | .more n size => size < (w.pipe n).size || (w.pipe n).writers = 0
  | .room n => 0 < (w.pipe n).room 1 || (w.pipe n).readers = 0
  | .openedForReading n times => times < (w.pipe n).openedForReading
  | .openedForWriting n times => times < (w.pipe n).openedForWriting

/-- A wait is over at a moment. -/
def isOverAt (w : World) (now : Nat) (x : Wait) : Bool :=
  x.deadline.any (· ≤ now) || w.hasHappened x.event || (w.fatal? x.pid).isSome ||
    (x.interruptible && w.signalled.any fun s => s.1 = x.pid)

/-- A wait is over. -/
def isOver (w : World) (x : Wait) : Bool := w.isOverAt w.clock x

/-! ## The observer -/

/-- The signal that asks a process to end. -/
def endSignal : Nat := 15

/-- The observer looks at what has come. Unless `acts` is set he does nothing about it. -/
def look (acts : Bool) (w : World) : World :=
  match w.observer with
  | none => w
  | some o =>
    let p := w.pipe o.pipe
    let isNew : Bool := match o.looks with
      | l :: _ => l.size < p.size
      | [] => true
    let o := if isNew then { o with looks := ⟨p.size, w.tree, w.moves.length⟩ :: o.looks } else o
    if acts && !o.hasActed && o.enough (String.ofList p.content) then
      World.send endSignal o.pid { w with observer := some { o with hasActed := true } }
    else { w with observer := some o }

/-- A pause in which the observer has the time to act. -/
def longPause : Nat := 5000

/-- Time passes up to a moment, if it is to come. -/
def passTo (moment : Nat) (w : World) : World :=
  if moment ≤ w.clock then w
  else if moment < w.clock + longPause then { w with clock := moment }
  else { (w.look true) with clock := moment }

end World

end ShellCoverage.Shell
