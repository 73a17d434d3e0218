import ShellCoverage.Shell.Builtin.Input
import ShellCoverage.Shell.Builtin.Limits
import ShellCoverage.Shell.Builtin.Settings

/-!
# Commands of the plain shell

The plain shell has fewer commands than the full one, with fewer options. An error ends the command, and the shell
itself if the command is a special one.

* `Plain.number` : an argument that counts something;
* `Plain.quoted` : a string between quotes, as lists show it;
* `Plain.leave`, `Plain.returning`, `Plain.exiting`, `Plain.shift` : the flow;
* `Plain.mark`, `Plain.declareLocal`, `Plain.unset` : variables;
* `Plain.aliasCommand`, `Plain.set`, `Plain.umask`, `Plain.times` : the state of the shell;
* `Plain.limitTable`, `Plain.ulimit` : the resources of the plain shell, and their limits.
-/

namespace ShellCoverage.Shell.Builtin.Plain

/-- Refuses an argument that should be a number. -/
def refuseNumber {α : Type} (s : Octets) : Sh α := Sh.fault ("Illegal number: " ++ s)

/-- The number that an argument stands for. -/
def number (s : Octets) : Sh Nat := do
  match Octets.machineInteger? s with
  | some (.ofNat n) => if n < 2 ^ 31 then return n else refuseNumber s
  | _ => refuseNumber s

/-- A string between quotes: single quotes stand between double ones. -/
def quoted (s : Octets) : Octets :=
  String.ofList ('\x27' :: go s.toList)
where
  /-- What follows an opening single quote. -/
  go : List Char → List Char
    | [] => ['\x27']
    | '\x27' :: r => '\x27' :: '"' :: '\x27' :: inside r
    | c :: r => c :: go r
  /-- What follows a single quote between double ones. -/
  inside : List Char → List Char
    | [] => ['"']
    | '\x27' :: r => '\x27' :: inside r
    | c :: r => '"' :: '\x27' :: c :: go r

/-! ## The flow -/

/-- `break` and `continue`. Outside loops they do nothing. -/
def leave (jump : Nat → Jump) : Builtin := fun args => do
  let n ← match args with
    | [] => pure 1
    | a :: _ => do
      let n ← number a
      if n = 0 then refuseNumber a else pure n
  let loops := (← Sh.process).loops
  if loops = 0 then return 0
  Sh.setStatus 0
  throw (jump (min n loops))

/-- The status that the first argument gives, or the last one. -/
def givenStatus (args : List Octets) : Sh Nat := do
  match args with
  | [] => return (← Sh.process).status
  | a :: _ => number a

/-- `return`, which ends the shell outside functions. -/
def returning : Builtin := fun args => do
  let status ← givenStatus args
  throw (if (← Sh.process).frames.isEmpty then .exited (status % 256) else .returned status)

/-- `exit` -/
def exiting : Builtin := fun args => do throw (.exited ((← givenStatus args) % 256))

/-- `shift` -/
def shift : Builtin := fun args => do
  let n ← match args with
    | [] => pure 1
    | a :: _ => number a
  if (← Sh.parameters).length < n then Sh.fault "can't shift that many"
  Sh.change fun p => { p with parameters := p.parameters.drop n, optionWord := 1, optionIndex := 0 }
  return 0

/-! ## Variables -/

/-- Refuses a word that is no name. -/
def refuseName {α : Type} (name : Octets) : Sh α := Sh.fault (name ++ ": bad variable name")

/-- The name in an argument, and the value if there is one. -/
def cutArgument (s : Octets) : Octets × Option Octets :=
  let name := s.toList.takeWhile (· ≠ '=')
  (String.ofList name, if name.length < s.length then some (String.ofList (s.toList.drop (name.length + 1))) else none)

/-- Gives a variable a value. -/
def assign (name value : Octets) : Sh Unit := do
  if !Octets.isName name then refuseName name
  if ← Sh.isReadonly name then Sh.reportReadonly name
  Sh.store name value

/-- A variable with its value, as lists show it. -/
def listed (name : Octets) (v : Variable) : Octets :=
  name ++ (match v.value.bind Value.toScalar? with | some s => "=" ++ quoted s | none => "") ++ "\n"

/-- Writes the variables that satisfy a condition, each after a heading. -/
def list (heading : Octets) (p : Variable → Bool) : Sh Unit := do
  for v in ← allVariables do
    if p v.2 then Sh.write (heading ++ listed v.1 v.2)

/-- `export` and `readonly`: gives variables an attribute, which a condition tells of. -/
def mark (command : Octets) (isMarked : Variable → Bool) (marked : Variable → Variable) : Builtin := fun args => do
  let (os, words) ← plainOptions "p" "" args
  if words = [] || has os 'p' then list (command ++ " ") isMarked
  else
    for w in words do
      let (name, value?) := cutArgument w
      match value? with
      | some s => assign name s
      | none => if !Octets.isName name then refuseName name
      Sh.change fun p => { p with vars := Variables.update name marked p.vars }
  return 0

/-- `local`: a variable keeps the value that it has outside until it gets another one. -/
def declareLocal : Builtin := fun args => do
  if !(← inFunction) then Sh.fault "not in a function"
  for w in args do
    if w = "-" then keepOptions
    else
      let (name, value?) := cutArgument w
      let vs := (← Sh.process).vars
      if Octets.isName name then
        if (Variables.local? name vs).isNone then
          let outer := (Variables.find? name vs).getD {}
          Sh.change fun p => { p with vars := Variables.declareLocal name outer p.vars }
        if let some s := value? then assign name s
      else if value?.isNone then refuseName name
  return 0

/-- Takes a variable away. -/
def unsetVariable (name : Octets) : Sh Unit := do
  if !Octets.isName name then refuseName name
  if ← Sh.isReadonly name then Sh.reportReadonly name
  let inCall ← inFunction
  Sh.change fun p => { p with
    vars := Variables.remove name inCall p.vars
    hashed := if name = "PATH" then [] else p.hashed }

/-- `unset` -/
def unset : Builtin := fun args => do
  let (os, names) ← plainOptions "vf" "" args
  for n in names do
    if os.getLast?.any (·.1 = 'f') then
      Sh.change fun p => { p with functions := Table.erase n p.functions }
    else unsetVariable n
  return 0

/-! ## Aliases -/

/-- The aliases in the order in which they are listed. -/
def aliasOrder (as : Table Octets Octets) : Table Octets Octets :=
  let bucket (a : Octets × Octets) : Nat := Sh.plainBucketSum a.1 % Sh.plainVariableBuckets
  as.mergeSort fun a b => decide (bucket a ≤ bucket b)

/-- Writes an alias. -/
def showAlias (a : Octets × Octets) : Sh Unit := Sh.write (a.1 ++ "=" ++ quoted a.2 ++ "\n")

/-- Says that there is no such alias. -/
def refuseAlias (command name : Octets) : Sh Bool := do
  Sh.complain (command ++ ": " ++ name ++ " not found\n")
  return false

/-- `alias` -/
def aliasCommand : Builtin := fun args => do
  if args = [] then
    for a in aliasOrder (← Sh.process).aliases do
      showAlias a
  onEach args fun a => do
    match cutArgument ((String.ofList (a.toList.drop 1))) with
    | (rest, some text) =>
      let name := String.ofList (a.toList.take 1) ++ rest
      Sh.change fun p => { p with aliases := Table.insert name text p.aliases }
      return true
    | (_, none) =>
      match Table.get? a (← Sh.process).aliases with
      | some text =>
        showAlias (a, text)
        return true
      | none => refuseAlias "alias" a

/-- `unalias` -/
def unaliasCommand : Builtin := fun args => do
  let (os, names) ← plainOptions "a" "" args
  if has os 'a' then
    Sh.change fun p => { p with aliases := [] }
    return 0
  onEach names fun n => do
    if !Table.has n (← Sh.process).aliases then return ← refuseAlias "unalias" n
    Sh.change fun p => { p with aliases := Table.erase n p.aliases }
    return true

/-! ## Settings -/

/-- Sets or unsets the option of a letter. Jobs are controlled only at a terminal. -/
def setLetter (on : Bool) (c : Char) : Sh Unit := do
  match plainOptionTable.find? fun o => o.2 = some c with
  | some ("monitor", _) => if on then Sh.report "can't access tty; job control turned off"
  | some (name, _) => setOption name on
  | none => Sh.fault ("Illegal option -" ++ c.toString)

/-- Writes the options, as a table or as commands. -/
def listOptions (asCommands : Bool) : Sh Unit := do
  let options := (← Sh.process).options
  if !asCommands then Sh.write "Current option settings\n"
  for o in plainOptionTable do
    let on := options.elem o.1
    Sh.write (if asCommands then "set " ++ (if on then "-o " else "+o ") ++ o.1 ++ "\n"
      else Octets.padRight 16 o.1 ++ (if on then "on" else "off") ++ "\n")

/-- Sets or unsets the options that letters name; `o` takes the name of one from the arguments. The result has the
arguments left. -/
def setLetters (on : Bool) : List Char → List Octets → Sh (List Octets)
  | [], args => return args
  | 'o' :: cs, [] => do
    listOptions (!on)
    setLetters on cs []
  | 'o' :: cs, name :: args => do
    if !plainOptionTable.any (·.1 = name) then Sh.fault ("Illegal option -o " ++ name)
    setOption name on
    setLetters on cs args
  | c :: cs, args => do
    setLetter on c
    setLetters on cs args

/-- Handles the options at the head of the arguments of `set`; the result has the parameters to set, if there are
any. -/
def setArguments : Nat → List Octets → Sh (Option (List Octets))
  | 0, _ => return none
  | _, [] => return none
  | n + 1, a :: r => do
    match a.toList with
    | ['-', '-'] => return some r
    | ['-'] =>
      setOption "xtrace" false
      setOption "verbose" false
      return if r = [] then none else some r
    | '-' :: cs => setArguments n (← setLetters true cs r)
    | '+' :: cs => setArguments n (← setLetters false cs r)
    | _ => return some (a :: r)

/-- `set` -/
def set : Builtin := fun args => do
  if args = [] then list "" fun v => v.value.isSome
  else if let some ps ← setArguments (args.length + 1) args then
    Sh.change fun p => { p with parameters := ps, optionWord := 1, optionIndex := 0 }
  return 0

/-- `umask` -/
def umask : Builtin := fun args => do
  let (os, args) ← plainOptions "S" "" args
  let mask := (← Sh.process).maskedMode
  match args with
  | [] =>
    Sh.write ((if has os 'S' then maskLetters mask else octalMode mask) ++ "\n")
    return 0
  | a :: _ =>
    match readMask mask a with
    | .ok mask =>
      Sh.change fun p => { p with maskedMode := mask &&& 0o777 }
      return 0
    | .error _ =>
      if a.toList.head?.any Char.isDigit then refuseNumber a else Sh.fault ("Illegal mode: " ++ a)

/-- `times` -/
def times : Builtin := fun _ => do
  Sh.write "0m0.000000s 0m0.000000s\n0m0.000000s 0m0.000000s\n"
  return 0

/-! ## Input and output -/

/-- Gives variables values, one after the other. -/
def assignAll (pairs : List (Octets × Octets)) : Sh Unit := do
  for p in pairs do
    assign p.1 p.2

/-- `read` -/
def read : Builtin := fun args => do
  let (os, names) ← plainOptions "r" "p" args
  if names = [] then Sh.fault "arg count"
  let raw := has os 'r'
  let span : ReadSpan := { charset := .bytes, delimiter := '\n', raw, exactly := none, atMost := none }
  let isDirectory ← Sh.isDirectoryAt 0
  let read? ← if isDirectory then pure none else Sh.takeFrom 0 false none span.take
  let (cs, complete) := read?.getD ([], false)
  let cs := cs.filter fun c => c.toNat ≠ 0
  let separators ← Sh.separators
  let qs := (if raw then cs.map fun c => (c, false) else unescaped cs).dropWhile (isBlankSeparator separators)
  assignAll (names.zip (shares separators (names.length - 1) qs))
  return statusOf complete

/-- What follows an option letter among those that a script knows: a colon if it takes a value. -/
def afterLetter? (c : Char) : List Char → Option (List Char)
  | [] => none
  | x :: ':' :: r => if x = c then some (':' :: r) else afterLetter? c r
  | x :: r => if x = c then some r else afterLetter? c r

/-- The letters of options that are left in the argument at which `getopts` stands, and the number of the next
argument; or that number where there are no more options. -/
def optionLetters (args : List Octets) (word offset : Nat) : Except Nat (List Char × Nat) :=
  let left := if word ≤ 1 || offset = 0 then [] else ((args[word - 2]?).getD "").toList.drop offset
  if left ≠ [] then .ok (left, word)
  else
    match ((args[word - 1]?).getD "").toList with
    | ['-', '-'] => .error (word + 1)
    | '-' :: c :: cs => .ok (c :: cs, word + 1)
    | _ => .error word

/-- What `getopts` has found. -/
structure FoundOption where
  /-- The value of the variable that it is asked to set. -/
  letter : Octets
  /-- The value of `OPTARG`, or its end. -/
  value : Option Octets
  /-- The number of the next argument. -/
  word : Nat
  /-- How much of the argument before was read; 0 if nothing is left of it. -/
  offset : Nat
  /-- The complaint about the option. -/
  complaint : Octets := ""

/-- The option with some letters at its head, the first of which is meant. -/
def findOption (silent : Bool) (spec : List Char) (args : List Octets) (c : Char) (cs : List Char) (word : Nat) :
    FoundOption :=
  let offset := if cs = [] then 0 else ((args[word - 2]?).getD "").length - cs.length
  match afterLetter? c spec with
  | none =>
    if silent then { letter := "?", value := some c.toString, word, offset }
    else { letter := "?", value := none, word, offset, complaint := "Illegal option -" ++ c.toString ++ "\n" }
  | some (':' :: _) =>
    if cs ≠ [] then { letter := c.toString, value := some (String.ofList cs), word, offset := 0 }
    else
      match args[word - 1]? with
      | some v => { letter := c.toString, value := some v, word := word + 1, offset := 0 }
      | none =>
        if silent then { letter := ":", value := some c.toString, word, offset := 0 }
        else { letter := "?", value := none, word, offset := 0, complaint := "No arg for -" ++ c.toString ++ " option\n" }
  | some _ => { letter := c.toString, value := some "", word, offset }

/-- Keeps where `getopts` stands. -/
def keepPlace (word offset : Nat) : Sh Unit :=
  Sh.change fun p => { p with optionWord := word, optionIndex := offset }

/-- `getopts` -/
def getopts : Builtin := fun args => do
  let (_, args) ← plainOptions "" "" args
  match args with
  | spec :: name :: rest =>
    let p ← Sh.process
    let args := if rest = [] then p.parameters else rest
    let (word, offset) := if args.length + 1 < p.optionWord then (1, 0) else (p.optionWord, p.optionIndex)
    match optionLetters args word offset with
    | .ok (c :: cs, word) =>
      let o := findOption (Octets.startsWith ":" spec) spec.toList args c cs word
      if o.complaint ≠ "" then Sh.complain o.complaint
      match o.value with
      | some v => Sh.store "OPTARG" v
      | none => unsetVariable "OPTARG"
      Sh.store "OPTIND" (Octets.ofNat o.word)
      assign name o.letter
      keepPlace o.word o.offset
      return 0
    | .ok ([], word) | .error word =>
      Sh.store "OPTIND" (Octets.ofNat word)
      assign name "?"
      keepPlace word 0
      return 1
  | _ => Sh.fault "Usage: getopts optstring var [arg...]"

/-- `printf` -/
def printf : Builtin := fun args => do
  let (_, args) ← plainOptions "" "" args
  match args with
  | [] => Sh.fault "usage: printf format [arg ...]"
  | f :: args =>
    let o := Printing.format { printer := .plain } f args
    let status ← writeOr "printf" (String.ofList o.text)
    for c in o.complaints do
      Sh.report c.text
    if o.complaints.any (·.ends) then throw (.refused 2)
    return if o.isGood then status else 1

/-! ## Limits -/

/-- The resources in the order of lists: the letter, the heading, and the letter of the full shell. -/
def limitTable : List (Char × Octets × Char) :=
  [('t', "time(seconds)", 't'), ('f', "file(blocks)", 'f'), ('d', "data(kbytes)", 'd'), ('s', "stack(kbytes)", 's'),
    ('c', "coredump(blocks)", 'c'), ('m', "memory(kbytes)", 'm'), ('l', "locked memory(kbytes)", 'l'),
    ('p', "process", 'u'), ('n', "nofiles", 'n'), ('v', "vmemory(kbytes)", 'v'), ('w', "locks", 'x'),
    ('r', "rtprio", 'r')]

/-- The letters of the resources. -/
def limitLetters : Octets := String.ofList (limitTable.map (·.1))

/-- The resource of a letter. -/
def resource (c : Char) : Resource :=
  ((limitTable.lookup c).bind fun r => Resource.ofLetter? r.2).getD default

/-- The limit that a word stands for. -/
def limitValue (s : Octets) : Sh (Option Nat) := do
  if s = "unlimited" then return none
  if !s.toList.all Char.isDigit then Sh.fault "bad number"
  return some (Octets.ofDigits s.toList)

/-- `ulimit`: the last letter names the resource. -/
def ulimit : Builtin := fun args => do
  let (os, args) ← plainOptions ("HSa" ++ limitLetters) "" args
  let r := resource (((os.filter fun o => Octets.has o.1 limitLetters).getLast?.map (·.1)).getD 'f')
  let isHard := has os 'H' && !has os 'S'
  match args with
  | [] =>
    if has os 'a' then
      for l in limitTable do
        let (soft, hard) := (resource l.1).limits (← Sh.process)
        Sh.write (Octets.padRight 20 l.2.1 ++ " " ++ limitText (if isHard then hard else soft) ++ "\n")
    else showLimit isHard false r
    return 0
  | s :: more =>
    if more ≠ [] || has os 'a' then Sh.fault "too many arguments"
    let n ← limitValue s
    let (soft, hard) := r.limits (← Sh.process)
    let most := if has os 'H' || !has os 'S' then n else hard
    let soft := if has os 'S' || !has os 'H' then n else soft
    if isAbove soft most then Sh.fault "error setting limit (Invalid argument)"
    if isAbove most hard then Sh.fault "error setting limit (Operation not permitted)"
    Sh.change fun p => { p with limits := Table.insert r.letter (soft, most) p.limits }
    return 0

end ShellCoverage.Shell.Builtin.Plain
