import ShellCoverage.Shell.Builtin.Jobs
import ShellCoverage.Shell.Printing
import ShellCoverage.Shell.Program.Input
import ShellCoverage.Shell.Testing

/-!
# Programs that start others

`env`, `xargs`, `timeout` and those that run a command in some other way: `nohup`, `nice`, `setsid`, `stdbuf`,
`flock`; and `which`.

* `Launch` : the way in which a process becomes another program;
* `Program.pathOf?` : the executable file of some name;
* `Program.runCommand` : becomes the program of a command;
* `Program.inChild`, `Program.capture` : runs a command in a process of its own.
-/

namespace ShellCoverage.Shell

/-- The way in which a process becomes the program at a path, with arguments (its own name first) and an
environment. The process is as before if there is no such program. -/
abbrev Launch := Octets → List Octets → Table Octets Octets → Sh (Except Errno Ending)

namespace Program

/-! ## Finding programs -/

/-- The path of a name in a directory of the search path. -/
def inDirectory (dir name : Octets) : Octets := (if dir = "" then "." else dir) ++ "/" ++ name

/-- The path names an executable file. -/
def isProgram (path : Octets) : Sh Bool :=
  Testing.onNode true path fun x => !x.isDirectory && x.isExecutable

/-- The executable file of some name in a search path; if there is none, a file that is not
executable. -/
def pathOf? (search : Octets) (name : Octets) : Sh (Option Octets) := do
  let paths := (Octets.pieces ':' search).map fun dir => inDirectory dir name
  for p in paths do
    if ← isProgram p then return some p
  for p in paths do
    if ← Testing.onNode true p fun x => !x.isDirectory then return some p
  return none

/-- `which` -/
def which : Program := fun args => do
  let search := (Table.get? "PATH" (← environment)).getD ""
  let all := args.head? = some "-a"
  let mut good := true
  for name in if all then args.tail else args do
    let paths := if Octets.has '/' name then [name]
      else (Octets.pieces ':' search).map fun dir => inDirectory dir name
    let mut found := false
    for p in paths do
      if !found || all then
        if ← isProgram p then
          Sh.write (p ++ "\n")
          found := true
    if !found then good := false
  return status good

/-! ## Starting programs -/

variable (launch : Launch)

/-- The status of a program that another one has become. -/
def become (e : Ending) : Sh Nat := do
  match e with
  | .exited n => return n
  | .killed n => throw (.killed n)

/-- Becomes the program that a command names; if there is none, an action gets the reason. -/
def runCommandOr (argv : List Octets) (env : Table Octets Octets) (refused : Errno → Sh Unit) : Sh Nat := do
  let command := argv.headD ""
  let search := (Table.get? "PATH" env).getD "/bin:/usr/bin"
  let path? ← if Octets.has '/' command then pure (some command) else pathOf? search command
  match path? with
  | none =>
    refused .noEntry
    return 127
  | some path =>
    match ← launch path argv env with
    | .ok e => become e
    | .error .notExecutable =>
      match ← launch "/bin/sh" ("/bin/sh" :: path :: argv.tail) env with
      | .ok e => become e
      | .error _ => return 126
    | .error e =>
      refused e
      return if e = .noEntry then 127 else 126

/-- Becomes the program that a command names, or complains that it failed to run. -/
def runCommand (argv : List Octets) (env : Table Octets Octets) : Sh Nat :=
  runCommandOr launch argv env fun e =>
    complain ("failed to run command " ++ cited (argv.headD "") ++ ": " ++ e.description)

/-- Starts an action in a process of its own, which has some descriptors besides those of this one, and gives
the number of that. -/
def startWith (descriptors : List (Nat × Nat)) (body : Sh Nat) : Sh Nat := do
  let p ← Sh.process
  let child := descriptors.foldl (fun p d => Sh.withDescriptor d.1 d.2 p)
    { p with pid := ← Sh.newPid, parent := p.pid }
  Sh.spawn child (Sh.entryOf child) do
    match ← Sh.untilJump (body >>= Sh.setStatus) with
    | none => return .exited (← Sh.process).status
    | some j => return Sh.endingOf j 0
  return child.pid

/-- Runs the commands in a text by a shell that reads `input`, and gives what they write and how it ends. -/
def capture (text : Octets) : Sh (Octets × Ending) := do
  let env ← environment
  let (reader, writer) ← Sh.addPipe (some Sh.pipeCapacity)
  let pid ← startWith [(1, writer)] (runCommand launch ["sh", "-c", text] env)
  Sh.release writer
  let fd ← Sh.freeDescriptor 10
  Sh.moveToDescriptor fd reader
  let out ← Sh.readAll fd
  Sh.closeDescriptor fd
  return (out.getD "", ← Sh.awaitEnd pid)

/-- Runs the commands in a text by a shell. -/
def runText (text : Octets) : Sh Ending := do
  let env ← environment
  Sh.awaitEnd (← startWith [] (runCommand launch ["sh", "-c", text] env))

/-! ## `env` -/

/-- The words of a text that `env` takes apart. -/
def splitWords : List Char → Option Char → Bool → List Char → List Octets
  | [], _, started, acc => if started then [String.ofList acc.reverse] else []
  | '\\' :: c :: r, quote, _, acc =>
    let shown := match c with
      | 'n' => '\n' | 't' => '\t' | 'f' => '\x0c' | 'r' => '\x0d' | 'v' => '\x0b' | '_' => ' ' | c => c
    if quote = some '\x27' then splitWords r quote true (c :: '\\' :: acc)
    else if quote.isNone && c = '_' then String.ofList acc.reverse :: splitWords r none false []
    else splitWords r quote true (shown :: acc)
  | c :: r, quote, started, acc =>
    match quote with
    | some q => if c = q then splitWords r none true acc else splitWords r quote true (c :: acc)
    | none =>
      if c = '\x27' || c = '"' then splitWords r (some c) true acc
      else if Octets.isSpace c then
        if started then String.ofList acc.reverse :: splitWords r none false []
        else splitWords r none false []
      else splitWords r none true (c :: acc)

/-- `env` -/
def env : Program := fun args =>
  let u : Usage :=
    { letters := "iu:C:S:0v"
      leading := true
      failure := 125
      words := [("ignore-environment", "i"), ("unset", "u"), ("chdir", "C"), ("split-string", "S"),
        ("null", "0"), ("debug", "v")] }
  let args := match args with
    | "-S" :: s :: r => splitWords s.toList none false [] ++ r
    | a :: r => match Octets.dropHead? "-S" a with
      | some s => splitWords s.toList none false [] ++ r
      | none => match Octets.dropHead? "-vS" a with
        | some s => "-v" :: splitWords s.toList none false [] ++ r
        | none => args
    | [] => []
  u.run args fun os operands => do
    let (clears, operands) : Bool × List Octets := match operands with
      | "-" :: r => (true, r)
      | r => (os.has "i", r)
    let start ← if clears then pure [] else environment
    let start := (os.values "u").foldl (fun env n => Table.erase n env) start
    let assignments := operands.takeWhile (Octets.has '=')
    let env := assignments.foldl (fun env a =>
      let name := String.ofList (a.toList.takeWhile (· ≠ '='))
      Table.insert name (String.ofList (a.toList.drop (name.length + 1))) env) start
    let command := operands.drop assignments.length
    if let some dir := os.value? "C" then
      if command = [] then return ← misuse "must specify command with --chdir (-C)" 125
      match ← Sh.node? true dir with
      | .ok (place, _) => Sh.change fun p => { p with cwd := place }
      | .error e =>
        complain ("cannot change directory to " ++ cited dir ++ ": " ++ e.description)
        return 125
    if command = [] then
      for e in env do
        Sh.write (e.1 ++ "=" ++ e.2 ++ (if os.has "0" then "\x00" else "\n"))
      return 0
    else
      runCommandOr launch command env fun e => do
        complain (cited (command.headD "") ++ ": " ++ e.description)
        if Octets.has ' ' (command.headD "") then
          complain "use -[v]S to pass options in shebang lines"

/-! ## `xargs` -/

/-- The items of the input of `xargs`, and nothing where a line ends that does not go on in the next one. With
`byLine`, an item is a line. Quotes must be closed in the same line. -/
def inputItems (byLine : Bool) :
    List Char → Option Char → Bool → List Char → Bool → Except Char (List (Option Octets))
  | [], some q, _, _, _ => .error q
  | [], none, started, acc, _ => .ok (if started then [some (String.ofList acc.reverse)] else [])
  | '\\' :: c :: r, none, _, acc, _ => inputItems byLine r none true (c :: acc) false
  | c :: r, some q, _, acc, _ =>
    if c = '\n' then .error q
    else if c = q then inputItems byLine r none true acc false
    else inputItems byLine r (some q) true (c :: acc) false
  | c :: r, none, started, acc, blank =>
    let word : List (Option Octets) := if started then [some (String.ofList acc.reverse)] else []
    if c = '\x27' || c = '"' then inputItems byLine r (some c) true acc false
    else if c = '\n' then
      return word ++ (if blank then [] else [none]) ++ (← inputItems byLine r none false [] false)
    else if byLine && started then inputItems byLine r none true (c :: acc) false
    else if Octets.isSpace c then return word ++ (← inputItems byLine r none false [] true)
    else inputItems byLine r none true (c :: acc) false

/-- The items of each line. -/
def itemLines : List (Option Octets) → List (List Octets)
  | [] => []
  | none :: r => [] :: itemLines r
  | some w :: r =>
    match itemLines r with
    | [] => [[w]]
    | l :: ls => (w :: l) :: ls

/-- A text in which others stand for a mark; the number bounds how many. -/
def substitute (mark new : List Char) : Nat → List Char → List Char
  | 0, cs => cs
  | _, [] => []
  | n + 1, c :: r =>
    if mark ≠ [] && mark.isPrefixOf (c :: r) then new ++ substitute mark new n ((c :: r).drop mark.length)
    else c :: substitute mark new n r

/-- A delimiter that an argument denotes. -/
def delimiterOf (s : Octets) : Char :=
  match s.toList with
  | '\\' :: 'x' :: r => ((Quoting.escapeAt .bytes .format ('x' :: r)).bind fun p => p.1.head?).getD 'x'
  | '\\' :: r => ((Quoting.escapeAt .bytes .format r).bind fun p => p.1.head?).getD '\\'
  | c :: _ => c
  | [] => '\x00'

/-- Why `xargs` goes on no more after a command, and the status with which it ends. -/
def afterCommand? (command : Octets) (e : Ending) : Option (Octets × Nat) :=
  match e with
  | .exited 255 => some (command ++ ": exited with status 255; aborting", 124)
  | .exited 127 => some ("", 127)
  | .exited 126 => some ("", 126)
  | .exited _ => none
  | .killed n => some (command ++ ": terminated by signal " ++ Octets.ofNat n, 125)

/-- `xargs` -/
def xargs : Program := fun args =>
  let u : Usage :=
    { letters := "0a:d:E:e::I:i::L:l::n:P:prs:tx"
      leading := true
      package := "GNU findutils"
      release := "4.9.0"
      words := [("null", "0"), ("arg-file", "a"), ("delimiter", "d"), ("eof", "e"), ("replace", "i"),
        ("max-lines", "l"), ("max-args", "n"), ("max-procs", "P"), ("interactive", "p"),
        ("no-run-if-empty", "r"), ("max-chars", "s"), ("verbose", "t"), ("exit", "x"),
        ("show-limits", "show-limits"), ("process-slot-var", "process-slot-var:")] }
  u.run args fun os operands => do
    let command := if operands = [] then ["echo"] else operands
    let name := command.headD ""
    let mark := match os.last? ["I", "i", "L", "l", "n"] with
      | some "I" => os.value? "I"
      | some "i" => some (match os.value? "i" with | some "" | none => "\x7b\x7d" | some s => s)
      | _ => none
    let lineCount := match os.last? ["I", "i", "L", "l", "n"] with
      | some "L" => (os.value? "L").bind Octets.natural?
      | some "l" => some (((os.value? "l").bind Octets.natural?).getD 1)
      | _ => none
    match os.value? "n" with
    | some v =>
      if ((Octets.natural? v).getD 0) = 0 then
        complain ((if (Octets.natural? v).isSome then "value " ++ v ++ " for -n option should be >= 1"
          else "invalid number \"" ++ v ++ "\" for -n option"))
        if (Octets.natural? v).isNone then referToHelp
        return 1
    | none => pure ()
    let text ← match os.value? "a" with
      | none => pure (.ok ((← Sh.readAll 0).getD ""))
      | some path => input path
    match text with
    | .error e =>
      complain ("Cannot open input file " ++ cited ((os.value? "a").getD "") ++ ": " ++ e.description)
      return 1
    | .ok text =>
      let items : Except Char (List (Option Octets)) :=
        if os.has "0" then .ok ((records '\x00' text).map some)
        else
          match os.value? "d" with
          | some d => .ok ((records (delimiterOf d) text).map some)
          | none => inputItems mark.isSome text.toList none false [] false
      match items with
      | .error q =>
        complain ("unmatched " ++ (if q = '"' then "double" else "single") ++
          " quote; by default quotes are special to xargs unless you use the -0 option")
        return 1
      | .ok items =>
        let items := match os.value? "E" with
          | some stop => items.takeWhile (· ≠ some stop)
          | none => items
        let words := items.filterMap fun i => i
        let batches : List (List Octets) :=
          match mark with
          | some m => words.map fun w => command.map fun a =>
            String.ofList (substitute m.toList w.toList (a.length + 1) a.toList)
          | none =>
            if words = [] then (if os.has "r" then [] else [command])
            else
              match lineCount with
              | some n =>
                let lines := (itemLines items).filter (· ≠ [])
                (inParts n lines).map fun ls => command ++ ls.flatten
              | none =>
                let size := ((os.value? "n").bind Octets.natural?).getD words.length
                (inParts size words).map fun ws => command ++ ws
        let mut status := 0
        for b in batches do
          if os.has "t" then Sh.complain (Octets.join " " (b.map (quotedAs false false)) ++ "\n")
          let env ← environment
          let e ← Sh.awaitEnd (← startWith [] do
            match ← Sh.openFile "/dev/null" .reading with
            | .ok i => Sh.moveToDescriptor 0 i
            | .error _ => pure ()
            runCommandOr launch b env fun e => complain (name ++ ": " ++ e.description))
          match afterCommand? name e with
          | some (message, n) =>
            if message ≠ "" then complain message
            return n
          | none => if e ≠ .exited 0 then status := 123
        if (os.value? "a").isNone then
          if let some e ← refusal? 0 then
            complain ("error closing file" ++ if e = .badDescriptor then ": " ++ e.description else "")
            return 1
        return status

/-! ## `timeout` -/

/-- The microseconds of a duration such as `2`, `0.5` or `1m`. -/
def duration? (s : Octets) : Option Nat :=
  let (digits, scale) : List Char × Nat :=
    match s.toList.getLast? with
    | some 's' => (s.toList.dropLast, 1)
    | some 'm' => (s.toList.dropLast, 60)
    | some 'h' => (s.toList.dropLast, 3600)
    | some 'd' => (s.toList.dropLast, 86400)
    | _ => (s.toList, 1)
  (Printing.microseconds? (String.ofList digits)).map (· * scale)

/-- Generations of processes are at most so many. -/
def maxGenerations : Nat := 50

/-- Sends a signal to a process and to all that it has started. -/
def sendAll (signal pid : Nat) : Sh Unit := do
  let w ← Sh.world
  for n in pid :: w.descendants maxGenerations pid do
    Sh.changeWorld (·.send signal n)

/-- `timeout` -/
def timeout : Program := fun args =>
  let u : Usage :=
    { letters := "k:s:v"
      leading := true
      failure := 125
      words := [("kill-after", "k"), ("signal", "s"), ("verbose", "v"), ("preserve-status", "preserve-status"),
        ("foreground", "foreground")] }
  u.run args fun os operands => do
    let signal := (os.value? "s").bind signalNumber?
    if os.has "s" && signal.isNone then
      return ← misuse ("" ++ cited ((os.value? "s").getD "") ++ ": invalid signal") 125
    let signal := signal.getD World.endSignal
    match operands with
    | limit :: name :: rest =>
      match (limit :: (os.values "k")).find? fun d => (duration? d).isNone with
      | some bad => misuse ("invalid time interval " ++ cited bad) 125
      | none =>
        let limit := (duration? limit).getD 0
        let command := name :: rest
        let say (n : Nat) : Sh Unit :=
          if os.has "v" then
            complain ("sending signal " ++ (signalName? n).getD (Octets.ofNat n) ++ " to command " ++ cited name)
          else pure ()
        -- the surest signal goes to the whole group, of which the program is a part
        let endWith (n : Nat) : Sh Unit :=
          if n = World.surestSignal && !os.has "foreground" then throw (.killed n) else pure ()
        let env ← environment
        let pid ← startWith [] (runCommand launch command env)
        let stop := (← Sh.world).clock + limit
        Sh.pause (.allEnded [pid]) (if limit = 0 then none else some stop) false
        let isLate := (← Sh.world).isAlive pid
        if isLate then
          say signal
          sendAll signal pid
          match (os.value? "k").bind duration? with
          | some n =>
            let stop := (← Sh.world).clock + n
            Sh.pause (.allEnded [pid]) (some stop) false
            if (← Sh.world).isAlive pid then
              say World.surestSignal
              sendAll World.surestSignal pid
              discard (Sh.awaitEnd pid)
              endWith World.surestSignal
              return 128 + World.surestSignal
          | none => pure ()
        if isLate then endWith signal
        let e ← Sh.awaitEnd pid
        if isLate && !os.has "preserve-status" then
          return if e = .killed World.surestSignal then e.status else 124
        return e.status
    | _ => missingOperand 125

/-! ## Other ways -/

/-- Programs that run a command in a way that makes no difference here. -/
def wrapper (u : Usage) (missing : Sh Nat) (refused : Octets → Errno → Octets) : Program := fun args =>
  u.run args fun _ command => do
    if command = [] then return ← missing
    runCommandOr launch command (← environment) fun e =>
      complain (refused (command.headD "") e)

/-- What most programs say of a command that cannot be run. -/
def failedToRun (command : Octets) (e : Errno) : Octets :=
  "failed to run command " ++ cited command ++ ": " ++ e.description

/-- `nohup` -/
def nohup : Program :=
  wrapper launch { leading := true, failure := 125 } (missingOperand 125) failedToRun

/-- `nice` -/
def nice : Program := fun args =>
  let args := match args with
    | a :: r => match a.toList with
      | '-' :: c :: _ => if c.isDigit || c = '-' && (a.toList.drop 2).all Char.isDigit && a.length > 2 then r
        else args
      | _ => args
    | [] => []
  wrapper launch { letters := "n:", words := [("adjustment", "n")], leading := true, failure := 125 }
    (do Sh.write "0\n"; return 0) (fun command e => cited command ++ ": " ++ e.description) args

/-- `setsid` -/
def setsid : Program :=
  wrapper launch
    { letters := "cfw", words := [("ctty", "c"), ("fork", "f"), ("wait", "w")], leading := true,
      package := "util-linux", release := "2.38.1" }
    (misuse "no command specified")
    fun command e => "failed to execute " ++ command ++ ": " ++ e.description

/-- `stdbuf` -/
def stdbuf : Program :=
  wrapper launch
    { letters := "i:o:e:", words := [("input", "i"), ("output", "o"), ("error", "e")], leading := true,
      failure := 125 }
    (missingOperand 125) failedToRun

/-- `flock` -/
def flock : Program := fun args =>
  let u : Usage :=
    { letters := "c:enosuw:xE:Fv"
      leading := true
      failure := 64
      package := "util-linux"
      release := "2.38.1"
      words := [("command", "c"), ("nonblock", "n"), ("unlock", "u"), ("shared", "s"), ("exclusive", "x"),
        ("wait", "w"), ("timeout", "w"), ("conflict-exit-code", "E"), ("close", "o"), ("no-fork", "F")] }
  u.run args fun _ operands => do
    match operands with
    | [] => misuse "not enough arguments" 64
    | [_] => return 0
    | path :: command =>
      if (Octets.natural? path).isNone then
        match ← Sh.openFile path .appending with
        | .ok i => Sh.release i
        | .error e =>
          complain ("cannot open lock file " ++ path ++ ": " ++ e.description)
          return 66
      match command with
      | "-c" :: text :: _ => return (← runText launch text).status
      | _ =>
        let env ← environment
        let e ← Sh.awaitEnd (← startWith [] (runCommandOr launch command env fun e =>
          complain ("failed to execute " ++ command.headD "" ++ ": " ++ e.description)))
        return e.status

end Program

end ShellCoverage.Shell
