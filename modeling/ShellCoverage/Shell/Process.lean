import ShellCoverage.FileSystem.Node
import ShellCoverage.Shell.Command
import ShellCoverage.Shell.Completion
import ShellCoverage.Shell.Reader
import ShellCoverage.Shell.Variables

/-!
# Processes

* `Process` : a process, which is a shell or a program that a shell runs;
* `Function`, `Frame` : the functions of a shell, and the calls that have not ended;
* `Job` : what a shell runs beside itself.
-/

namespace ShellCoverage.Shell

/-- A function of the shell. -/
structure Function where
  body : Command
  /-- The file that defined it. -/
  source : Octets
  /-- The line in which the body begins. -/
  line : Nat := 0
  exported : Bool := false
  readonly : Bool := false
  /-- It has the traps of its caller. -/
  traced : Bool := false
  deriving Inhabited

/-- A function call, or a file that is read, that has not ended. -/
structure Frame where
  name : Octets
  source : Octets
  /-- The line of the call. -/
  line : Nat
  /-- The parameters of the caller. -/
  parameters : List Octets
  /-- The frame belongs to a file that is read. -/
  reads : Bool := false
  /-- The parameters of the call. -/
  arguments : List Octets := []
  /-- The options that are set again at the end of the call. -/
  options : Option (List Octets) := none
  deriving Inhabited

/-- Processes that a shell has started to run beside itself. -/
structure Job where
  /-- The number by which commands name it. -/
  number : Nat
  /-- Its processes; the last one gives the status. -/
  pids : List Nat
  text : Octets := ""
  /-- The shell knows that it has ended. -/
  isNoted : Bool := false
  deriving Inhabited

/-- The process that gives a job its status. -/
def Job.lastPid (j : Job) : Nat := j.pids.getLastD 0

/-- A process with pipes to and from the shell that started it. -/
structure Coprocess where
  name : Octets
  pid : Nat
  deriving Inhabited

/-- A process. -/
structure Process where
  pid : Nat
  /-- The number of the shell that subshells belong to. -/
  shellPid : Nat := pid
  parent : Nat := 1
  /-- The name that messages and `$0` give. -/
  name : Octets
  /-- The kind of input that errors of the reader name, if it is no file. -/
  input : Octets := ""
  dialect : Dialect := .full
  /-- The character set of the locale. -/
  charset : Charset := .bytes
  /-- The assignments of locales that are not known. -/
  failedLocales : List Octets := []
  cwd : List Name
  /-- The number of moves of directories that the current directory has followed. -/
  movesSeen : Nat := 0
  /-- The path by which the current directory was reached; empty if it is not known, because the directory
  was removed. -/
  cwdPath : Octets := ""
  /-- The open files by descriptor. -/
  descriptors : Table Nat Nat := []
  vars : Variables := []
  parameters : List Octets := []
  functions : Table Octets Function := []
  aliases : Table Octets Octets := []
  /-- The options that are set. -/
  options : List Octets := []
  /-- The further options that are set. -/
  features : List Octets := []
  frames : List Frame := []
  /-- The file of the commands outside functions. -/
  source : Octets := ""
  line : Nat := 0
  /-- The line of the last command that might fail. -/
  errorLine : Nat := 0
  status : Nat := 0
  /-- The statuses of the commands of the last pipeline. -/
  pipeline : List Nat := []
  /-- The last argument of the command before. -/
  lastArgument : Octets := ""
  /-- The letters for the kind of input that `$-` shows after the options. -/
  inputFlags : Octets := ""
  /-- The process that was last started to run beside the shell. -/
  lastJob : Option Nat := none
  jobs : List Job := []
  /-- The number of the job that commands mean by default, and that of the one before it. -/
  currentJob : Option Nat := none
  previousJob : Option Nat := none
  /-- The reader of the shell is still inside an expression of `[[ … ]]` that it gave up. -/
  insideTest : Bool := false
  /-- The number of processes that were started. -/
  starts : Nat := 0
  /-- All processes that were started to run beside the shell. -/
  children : List Nat := []
  coprocess : Option Coprocess := none
  traps : Table Octets Octets := []
  /-- The traps of the shell around, which are listed until a trap is set. -/
  formerTraps : Table Octets Octets := []
  /-- The directories below the current one. -/
  directories : List Octets := []
  /-- The level of indirection that traces show. -/
  depth : Nat := 1
  loops : Nat := 0
  /-- Failures of commands do not end the shell here. -/
  forgiving : Bool := false
  /-- The status of the command that runs is turned around, so that its own failure is none. -/
  negated : Bool := false
  /-- The descriptor that traces are written to. -/
  traceDescriptor : Option Nat := none
  /-- Lines of the trace that wait for the next one to be written. -/
  heldTrace : Octets := ""
  /-- The number of subshells around. -/
  subshells : Nat := 0
  /-- The shell runs the commands of a command substitution. -/
  isCaptured : Bool := false
  /-- The status of the last command substitution of a command. -/
  substituted : Option Nat := none
  /-- The conditions whose traps are running. -/
  runningTraps : List Octets := []
  /-- The seconds that had passed when the shell began to count them. -/
  started : Int := 0
  /-- Where `getopts` stands inside an argument. -/
  optionIndex : Nat := 0
  /-- The number of the argument at which `getopts` of the plain shell looks next. -/
  optionWord : Nat := 1
  /-- The line that is read next, to which the plain shell attributes some errors. -/
  readLine : Nat := 1
  maskedMode : Nat := 0o022
  /-- The limits that were changed, the soft and the hard one, by the letters of the resources. -/
  limits : Table Char (Option Nat × Option Nat) := []
  /-- The command that is running, or that ran before a trap. -/
  current : Option Command := none
  /-- The command of the shell that is running, which messages about expressions name. -/
  command : Octets := ""
  /-- Descriptors that are closed when the current command has ended. -/
  substitutes : List Nat := []
  /-- The programs that were found, with the number of times that they were run. -/
  hashed : Table Octets (Octets × Nat) := []
  /-- The commands of the shell that are switched off. -/
  disabled : List Octets := []
  /-- How the arguments of commands are completed. -/
  completions : Table Octets Completion := []
  /-- The computed variables that were made ordinary ones. -/
  plainNames : List Octets := []
  /-- The computed variables that were asked for. -/
  askedNames : List Octets := []
  /-- The name that `$0` gives, if it is another one than that in messages. -/
  ownName : Option Octets := none
  /-- The arguments of the shell, and of files and functions that are running and keep them, the innermost
  first. -/
  arguments : List (List Octets) := []
  deriving Inhabited

/-- The file of the command that is running. -/
def Process.currentSource (p : Process) : Octets := (p.frames.head?.map (·.source)).getD p.source

end ShellCoverage.Shell
