import ShellCoverage.Shell.Process
import ShellCoverage.Shell.World

/-!
# The machine

Processes run on a machine, each as if it had a processor of its own. An action of a process leads to an
outcome at once, or waits for the others, or starts another process and goes on.

Processes that wait are kept in the order in which they began to wait. The first one whose wait is over goes
on; if there is none, time passes up to the earliest deadline. A process that was just started waits until
its birth.

* `Machine` : what processes share, and the process that is running;
* `Jump` : why an action ends early;
* `Outcome`, `Thread` : what an action, and what a process, leads to;
* `Sh` : actions; `Sh.attempt`, `Sh.ensuring` : actions that may end early;
* `Sh.pause`, `Sh.spend`, `Sh.spawn` : waiting, taking time, starting a process;
* `Suspended` : a process that waits;
* `Schedule.pick?` : the first one that may go on;
* `Schedule.run` : the world when no process can go on any more.
-/

namespace ShellCoverage.Shell

/-- What processes share, and the process that is running. -/
structure Machine where
  world : World
  process : Process

/-- Why an action ends early. -/
inductive Jump where
  | breakLoop (levels : Nat)
  | continueLoop (levels : Nat)
  | returned (status : Nat)
  | exited (status : Nat)
  | killed (signal : Nat)
  /-- The shell goes on with its next line; the lines are counted from the one that is given, or else from
  that of the command. -/
  | discarded (status : Nat) (line : Option Nat := none)
  /-- A command of the shell fails in a way that ends a shell which keeps to the standard, if the standard
  counts the command as a special one. -/
  | refused (status : Nat)
  /-- The shell reads nothing more. -/
  | finished
  /-- The machine stops, because the work is without end. -/
  | stopped
  deriving DecidableEq, Repr, Inhabited

/-- What a process leads to: its end, or a wait, or the start of another process. -/
inductive Thread where
  | ended (w : World)
  /-- The work is without end. -/
  | stopped (w : World)
  | paused (x : Wait) (w : World) (resume : World → Thread)
  | forked (child : World → Thread) (w : World) (resume : World → Thread)

/-- What an action leads to. -/
inductive Outcome (α : Type) where
  | ok (a : α) (m : Machine)
  | error (j : Jump) (m : Machine)
  | paused (x : Wait) (m : Machine) (resume : World → Outcome α)
  | forked (child : World → Thread) (m : Machine) (resume : World → Outcome α)

namespace Outcome

variable {α β : Type}

/-- Goes on with what an action has led to in the end. -/
def andThen (f : Except Jump α → Machine → Outcome β) : Outcome α → Outcome β
  | .ok a m => f (.ok a) m
  | .error j m => f (.error j) m
  | .paused x m r => .paused x m fun w => (r w).andThen f
  | .forked c m r => .forked c m fun w => (r w).andThen f

end Outcome

/-- An action of a process. -/
def Sh (α : Type) : Type := Machine → Outcome α

/-- The way in which a command is run; the parts of the interpreter get it as an argument. -/
abbrev Runs := Command → Sh Unit

namespace Sh

variable {α β : Type}

/-- What an action leads to on a machine. -/
def outcome (x : Sh α) (m : Machine) : Outcome α := x m

/-- An action that leads to a value, followed by another one that depends on it. -/
def bind (x : Sh α) (f : α → Sh β) : Sh β := fun m =>
  match x m with
  | .ok a m => f a m
  | .error j m => .error j m
  | o => o.andThen fun r m =>
    match r with
    | .ok a => f a m
    | .error j => .error j m

instance : Monad Sh where
  pure a := fun m => .ok a m
  bind := bind

instance {α : Type} : Inhabited (Sh α) := ⟨fun m => .error .stopped m⟩

instance : MonadStateOf Machine Sh where
  get := fun m => .ok m m
  set m := fun _ => .ok () m
  modifyGet f := fun m => let (a, m) := f m; .ok a m

/-- Runs an action and tells how it ends. -/
def attempt (x : Sh α) : Sh (Except Jump α) := fun m =>
  match x m with
  | .ok a m => .ok (.ok a) m
  | .error j m => .ok (.error j) m
  | o => o.andThen fun r m => .ok r m

instance : MonadExceptOf Jump Sh where
  throw j := fun m => .error j m
  tryCatch x f := do
    match ← attempt x with
    | .ok a => pure a
    | .error j => f j

/-- Ends as an attempt has ended. -/
def conclude : Except Jump α → Sh α
  | .ok a => pure a
  | .error j => throw j

/-- Runs an action whatever way another one ends. -/
def ensuring (body : Sh α) (last : Sh Unit) : Sh α := do
  let r ← attempt body
  last
  conclude r

/-- The process that is running. -/
def process : Sh Process := return (← get).process

/-- The shared state. -/
def world : Sh World := return (← get).world

/-- Changes the process that is running. -/
def change (f : Process → Process) : Sh Unit := modify fun m => { m with process := f m.process }

/-- Changes the shared state. -/
def changeWorld (f : World → World) : Sh Unit := modify fun m => { m with world := f m.world }

/-- The file system as the process sees it. -/
def fileSystem : Sh FileSystem := do
  let m ← get
  return ⟨m.world.tree, m.process.cwd⟩

/-- Changes the file tree. -/
def setTree (fs : FileSystem) : Sh Unit := changeWorld fun w => { w with tree := fs.tree }

/-- Sets the status of the last command. -/
def setStatus (n : Nat) : Sh Unit := change fun p => { p with status := n }

/-- An option is set. -/
def hasOption (name : Octets) : Sh Bool := return (← process).options.elem name

/-- The character set of the locale. -/
def charset : Sh Charset := return (← process).charset

/-- The shell keeps to the standard, as the plain one always does. -/
def isStrict : Sh Bool := do
  let p ← process
  return p.dialect = .plain || p.options.elem "posix"

/-- The full shell keeps to the standard, because it is asked to. -/
def isStandard : Sh Bool := do
  let p ← process
  return p.dialect = .full && p.options.elem "posix"

/-- A further option is set. -/
def hasFeature (name : Octets) : Sh Bool := return (← process).features.elem name

/-! ## Waiting -/

/-- The process stays in its directory when this is moved. -/
def followMoves (p : Process) (w : World) : Process :=
  if p.movesSeen = w.moves.length then p
  else { p with cwd := World.follow p.cwd (w.moves.drop p.movesSeen), movesSeen := w.moves.length }

/-- Takes note of what the others have done: a signal may have ended the process, and its directory may
have been moved. -/
def notice : Sh Unit := fun m =>
  match m.world.fatal? m.process.pid with
  | some n =>
    let isMine (s : Nat × Nat) : Bool := s = (m.process.pid, n)
    let world := { m.world with signalled := m.world.signalled.filter fun s => !isMine s }
    .error (.killed n) { m with world }
  | none => .ok () { m with process := followMoves m.process m.world }

/-- Lets the others run until a wait is over. -/
def yield (x : Wait) : Sh Unit := fun m =>
  let p := m.process
  .paused x m fun w => notice { world := w, process := p }

/-- Waits for an event. -/
def pause (event : Event) (deadline : Option Nat) (interruptible : Bool) : Sh Unit := do
  let x : Wait := ⟨(← process).pid, event, deadline, interruptible⟩
  if (← world).isOver x then notice else yield x

/-- Takes some time, in microseconds. -/
def spend (time : Nat) : Sh Unit := do
  let w ← world
  let now := w.clock + time
  if w.waits.any (w.isOverAt now) then
    yield { pid := (← process).pid, event := .time, deadline := some now }
  else
    changeWorld (·.passTo now)
    notice

/-- The time that an ordinary step of a shell takes. -/
def stepTime : Nat := 20

/-- The time that it takes to start a process, for the process that does so. -/
def forkTime : Nat := 150

/-- The time until a process that was started takes its first step. -/
def birthTime : Nat := 400

/-- The time that it takes to become a program. -/
def programTime : Nat := 800

/-! ## Processes -/

/-- A number for a new process. -/
def newPid : Sh Nat := do
  let pid := (← world).nextPid
  changeWorld fun w => { w with nextPid := pid + 1 }
  return pid

/-- The process that an action runs in, up to its end. -/
def thread : Outcome Ending → Thread
  | .ok e m => .ended (m.world.finish m.process.pid e m.process.descriptors)
  | .error .stopped m => .stopped m.world
  | .error (.killed n) m => .ended (m.world.finish m.process.pid (.killed n) m.process.descriptors)
  | .error _ m => .ended (m.world.finish m.process.pid (.exited m.process.status) m.process.descriptors)
  | .paused x m r => .paused x m.world fun w => thread (r w)
  | .forked c m r => .forked c m.world fun w => thread (r w)

/-- Starts a process, which runs an action. -/
def spawn (p : Process) (e : Entry) (body : Sh Ending) : Sh Unit := do
  changeWorld (·.begin p.pid e p.descriptors)
  fun m =>
    let q := m.process
    .forked (fun w => thread ((notice.bind fun _ => body) { world := w, process := followMoves p w })) m
      fun w => .ok () { world := w, process := q }
  spend forkTime

/-- Waits until a process has ended, and forgets it. -/
def awaitEnd (pid : Nat) : Sh Ending := do
  pause (.allEnded [pid]) none false
  let e := ((← world).endOf? pid).getD (.exited 0)
  changeWorld (·.forget pid)
  return e

end Sh

/-! ## The order in which processes run -/

/-- A process that waits, and how it goes on. -/
structure Suspended where
  wait : Wait
  resume : World → Thread

namespace Schedule

/-- The first of some processes whose wait is over, and the other ones in order. -/
def pick? (w : World) : List Suspended → Option (Suspended × List Suspended)
  | [] => none
  | s :: ss =>
    if w.isOver s.wait then some (s, ss)
    else (pick? w ss).map fun p => (p.1, s :: p.2)

/-- The earliest deadline of some processes. -/
def nextDeadline? (ss : List Suspended) : Option Nat := (ss.filterMap (·.wait.deadline)).min?

/-- The world in which some processes wait. -/
def withWaits (ss : List Suspended) (w : World) : World := { w with waits := ss.map (·.wait) }

/-- The next process to go on, and the other ones; time passes if all of them wait. -/
def next? (w : World) (ss : List Suspended) : Option (Thread × List Suspended) :=
  let resumed (w : World) (p : Suspended × List Suspended) : Thread × List Suspended :=
    (p.1.resume (withWaits p.2 w), p.2)
  match pick? w ss with
  | some p => some (resumed w p)
  | none =>
    (nextDeadline? ss).bind fun moment =>
      let w := w.passTo moment
      (pick? w ss).map (resumed w)

/-- The world when no process can go on any more, and whether that was reached in so many steps. -/
def run : Nat → Thread → List Suspended → World × Bool
  | 0, .ended w, _ => (w, false)
  | 0, .stopped w, _ => (w, false)
  | 0, .paused _ w _, _ => (w, false)
  | 0, .forked _ w _, _ => (w, false)
  | n + 1, t, ss =>
    let go (w : World) (ss : List Suspended) : World × Bool :=
      match next? w ss with
      | some (t, ss) => run n t ss
      | none => (w, true)
    match t with
    | .stopped w => (w, false)
    | .ended w => go w ss
    | .paused x w r => go w (ss ++ [⟨x, r⟩])
    | .forked child w r =>
      let birth : Wait := { pid := 0, event := .time, deadline := some (w.clock + Sh.birthTime) }
      let ss := ss ++ [⟨birth, child⟩]
      run n (r (withWaits ss w)) ss

/-- The number of steps that are made at most. -/
def maxSteps : Nat := 20000000

end Schedule

end ShellCoverage.Shell
