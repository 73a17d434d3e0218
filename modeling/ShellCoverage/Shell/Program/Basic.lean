import ShellCoverage.Shell.Quoting
import ShellCoverage.Shell.Running

/-!
# Programs

The programs that shells run. A program gets its arguments and gives its status; it reads and writes the
descriptors of its process, and its messages begin with the name under which it was started.

A program may put a node at a place, or take it away, if the directory of the place may be changed. Who has a
file open keeps it when its last name is taken away.

* `Program` : a program;
* `Program.complain` : writes a message; `Program.quoted` : a name in a message;
* `Program.Usage` : the options that a program knows; `Program.Usage.parse` : the options in its arguments;
* `Program.environment` : the variables that it was given;
* `Program.put` : puts a node at a place, or takes it away; `Program.replace` : gives a place another node;
* `Program.noteMove` : lets the processes know that a directory was moved, or removed.
-/

namespace ShellCoverage.Shell

/-- A program: its status for its arguments. -/
abbrev Program := List Octets → Sh Nat

namespace Program

/-- The status for success and failure. -/
def status (good : Bool) : Nat := if good then 0 else 1

/-! ## Messages -/

/-- The name under which the program was started. -/
def ownName : Sh Octets := return (← Sh.process).name

/-- The last name of a path. -/
def lastName (path : Octets) : Octets :=
  match ((Octets.pieces '/' path).filter (· ≠ "")).getLast? with
  | some n => n
  | none => if path = "" then "" else "/"

/-- Writes a message. -/
def complain (message : Octets) : Sh Unit := do
  Sh.complain ((← ownName) ++ ": " ++ message ++ "\n")

/-- Says where there is help. -/
def referToHelp : Sh Unit := do
  Sh.complain ("Try '" ++ (← ownName) ++ " --help' for more information.\n")

/-- Complains about the arguments. -/
def misuse (message : Octets) (status : Nat := 1) : Sh Nat := do
  complain message
  referToHelp
  return status

/-- Complains, as the outcome of an action. -/
def refuse (message : Octets) : Sh Bool := do
  complain message
  return false

/-- A character that makes quotes necessary in a name, at its start or elsewhere. -/
def needsQuotes (colon atStart : Bool) (c : Char) : Bool :=
  if c.isAlphanum || "%+,-./@]_\x7b\x7d".toList.elem c then false
  else if c = ':' then colon
  else if c = '#' || c = '~' then atStart
  else true

/-- A character without a visible form, with a backslash. -/
def escapedControl (c : Char) : List Char :=
  '\\' :: match Quoting.controlLetter? c with
    | some l => [l]
    | none => Quoting.octal c.toNat

/-- What follows an opening quote when the characters of a name are shown: those without a visible form stand
between quotes of their own, in which escapes have a meaning. -/
def quotedStretches (escaping : Bool) : List Char → List Char
  | [] => ['\x27']
  | c :: r =>
    if c = '\x27' then "'\\''".toList ++ quotedStretches false r
    else if Quoting.isVisible c then (if escaping then "''".toList else []) ++ c :: quotedStretches false r
    else (if escaping then [] else "'$'".toList) ++ escapedControl c ++ quotedStretches true r

/-- A name as messages show it: with quotes if it needs them, or always. -/
def quotedAs (always colon : Bool) (s : Octets) : Octets :=
  let cs := s.toList
  let needed := cs = [] || cs = ['\x7b'] || cs = ['\x7d'] ||
    cs.head?.any (needsQuotes colon true) || cs.tail.any (needsQuotes colon false)
  if !always && !needed then s
  else if !cs.all Quoting.isVisible then
    String.ofList ('\x27' :: quotedStretches false cs)
  else if cs.elem '\x27' then
    if cs.any fun c => "$\x60\"\\!&()*;<=>[^|?#~".toList.elem c then
      String.ofList ('\x27' :: quotedStretches false cs)
    else "\"" ++ s ++ "\""
  else "'" ++ s ++ "'"

/-- A text in quotes, with a backslash before quotes and backslashes, and instead of characters without a visible
form. -/
def quoted (s : Octets) : Octets :=
  "'" ++ String.ofList (s.toList.flatMap fun c =>
    if c = '\x27' || c = '\\' then ['\\', c] else if Quoting.isVisible c then [c] else escapedControl c) ++ "'"

/-- A name in quotes. -/
def cited (s : Octets) : Octets := quotedAs true false s

/-- A name that something is said about, in quotes only if it needs them. -/
def named (s : Octets) : Octets := quotedAs false true s

/-- Complains that something failed for a file. -/
def complainOf (path : Octets) (e : Errno) : Sh Unit := complain (named path ++ ": " ++ e.description)

/-! ## Options -/

/-- The options that a program knows. -/
structure Usage where
  /-- The letters of the options; a colon follows one that takes a value, two colons one that may. -/
  letters : Octets := ""
  /-- The long names of options and their keys, which are letters, or the names themselves with colons
  in the same way. -/
  words : List (Octets × Octets) := []
  /-- No options come after the first operand. -/
  leading : Bool := false
  /-- The status if the arguments are wrong. -/
  failure : Nat := 1
  /-- The collection that the program is from. -/
  package : Octets := "GNU coreutils"
  release : Octets := "9.1"

/-- Options with their values, in order: letters, or long names for which there is no letter. -/
abbrev Options := List (Octets × Octets)

/-- An option is given. -/
def Options.has (os : Options) (key : Octets) : Bool := os.any (·.1 = key)

/-- The value of an option that counts: that which came last. -/
def Options.value? (os : Options) (key : Octets) : Option Octets :=
  (os.reverse.find? fun o => o.1 = key).map (·.2)

/-- The values of an option. -/
def Options.values (os : Options) (key : Octets) : List Octets :=
  (os.filter fun o => o.1 = key).map (·.2)

/-- The one of some options that came last. -/
def Options.last? (os : Options) (keys : List Octets) : Option Octets :=
  (os.reverse.find? fun o => keys.elem o.1).map (·.1)

/-- Whether an option takes a value. -/
inductive Arity where
  | none
  | required
  | possible
  deriving DecidableEq

namespace Usage

/-- The arity that colons stand for. -/
def arityOf : List Char → Arity
  | ':' :: ':' :: _ => .possible
  | ':' :: _ => .required
  | _ => .none

/-- Whether the option of a letter takes a value, if there is one. -/
def letterArity? (c : Char) : List Char → Option Arity
  | [] => none
  | d :: r => if d = c && c ≠ ':' then some (arityOf r) else letterArity? c r

/-- The key of a long option, and whether it takes a value. -/
def keyOf (u : Usage) (key : Octets) : Octets × Arity :=
  match key.toList with
  | [c] => (key, (letterArity? c u.letters.toList).getD .none)
  | cs =>
    let name := cs.takeWhile (· ≠ ':')
    (String.ofList name, arityOf (cs.drop name.length))

/-- The long names that a program knows. -/
def allWords (u : Usage) : List (Octets × Octets) :=
  u.words ++ [("help", "help"), ("version", "version")]

/-- The long option that a name, perhaps cut short, means. -/
def word? (u : Usage) (name : Octets) : Except Octets (Octets × Octets) :=
  match u.allWords.find? (·.1 = name) with
  | some w => .ok w
  | none =>
    match u.allWords.filter fun w => Octets.startsWith name w.1 with
    | [] => .error ("unrecognized option '--" ++ name ++ "'")
    | w :: ws =>
      if ws.all fun v => v.2 = w.2 then .ok w
      else .error ("option '--" ++ name ++ "' is ambiguous; possibilities:" ++
        String.join ((w :: ws).map fun v => " '--" ++ v.1 ++ "'"))

/-- A long option, and the arguments left. -/
def long (u : Usage) (a : List Char) (rest : List Octets) :
    Except Octets ((Octets × Octets) × List Octets) := do
  let name := String.ofList (a.takeWhile (· ≠ '='))
  let (full, key) ← u.word? name
  let (key, arity) := u.keyOf key
  match a.drop name.length, arity with
  | _ :: _, .none => .error ("option '--" ++ full ++ "' doesn't allow an argument")
  | _ :: v, _ => return ((key, String.ofList v), rest)
  | [], .required =>
    match rest with
    | v :: rest => return ((key, v), rest)
    | [] => .error ("option '--" ++ full ++ "' requires an argument")
  | [], _ => return ((key, ""), rest)

/-- The options that a cluster of letters means, and the arguments left. -/
def cluster (u : Usage) (rest : List Octets) : List Char → Except Octets (Options × List Octets)
  | [] => .ok ([], rest)
  | c :: cs =>
    match letterArity? c u.letters.toList with
    | none => .error ("invalid option -- '" ++ c.toString ++ "'")
    | some .none => do
      let (os, rest) ← u.cluster rest cs
      return ((c.toString, "") :: os, rest)
    | some .possible => .ok ([(c.toString, String.ofList cs)], rest)
    | some .required =>
      if cs ≠ [] then .ok ([(c.toString, String.ofList cs)], rest)
      else
        match rest with
        | v :: rest => .ok ([(c.toString, v)], rest)
        | [] => .error ("option requires an argument -- '" ++ c.toString ++ "'")

/-- The options and the operands among arguments; the number bounds these. -/
def parseWith (u : Usage) : Nat → List Octets → Except Octets (Options × List Octets)
  | 0, args => .ok ([], args)
  | _, [] => .ok ([], [])
  | n + 1, a :: r =>
    match a.toList with
    | ['-', '-'] => .ok ([], r)
    | '-' :: '-' :: cs => do
      let (o, r) ← u.long cs r
      let (os, rest) ← u.parseWith n r
      return (o :: os, rest)
    | '-' :: c :: cs => do
      let (o, r) ← u.cluster r (c :: cs)
      let (os, rest) ← u.parseWith n r
      return (o ++ os, rest)
    | _ =>
      if u.leading then .ok ([], a :: r)
      else do
        let (os, rest) ← u.parseWith n r
        return (os, a :: rest)

/-- The options and the operands among arguments. -/
def parse (u : Usage) (args : List Octets) : Except Octets (Options × List Octets) :=
  u.parseWith (args.length + 1) args

/-- Runs a program on its options and operands. -/
def run (u : Usage) (args : List Octets) (body : Options → List Octets → Sh Nat) : Sh Nat := do
  match u.parse args with
  | .error e => misuse e u.failure
  | .ok (os, operands) =>
    match os.find? fun o => o.1 = "version" || o.1 = "help" with
    | some ("version", _) =>
      Sh.write (lastName (← ownName) ++ " (" ++ u.package ++ ") " ++ u.release ++ "\n")
      return 0
    | some _ =>
      Sh.write ("Usage: " ++ (← ownName) ++ " [OPTION]...\n")
      return 0
    | none => body os operands

end Usage

/-- Complains that an operand is missing. -/
def missingOperand (status : Nat := 1) : Sh Nat := misuse "missing operand" status

/-- Complains that there is one operand too many. -/
def extraOperand (operand : Octets) (status : Nat := 1) : Sh Nat :=
  misuse ("extra operand " ++ cited operand) status

/-! ## Texts and lists -/

/-- The environment of the program. -/
def environment : Sh (Table Octets Octets) := do
  let entries := ((← Sh.process).vars.head?.map (·.entries)).getD []
  return entries.filterMap fun v => (v.2.value.bind Value.toScalar?).map fun s => (v.1, s)

/-- Runs an action on each of some things; the status says whether all succeeded. -/
def onEach {α : Type} (xs : List α) (act : α → Sh Bool) : Sh Nat := do
  let mut good := true
  for x in xs do
    if !(← act x) then good := false
  return status good

/-- A line without its line feed. -/
def withoutFeed (l : Octets) : Octets :=
  if l.toList.getLast? = some '\n' then String.ofList l.toList.dropLast else l

/-- The lines of a text without their line feeds. -/
def bare (s : Octets) : List Octets := (Octets.lines s).map withoutFeed

/-- A list in parts of some length; the last one may be shorter. -/
def inParts {α : Type} (size : Nat) : List α → List (List α)
  | [] => []
  | x :: xs => (x :: xs.take (size - 1)) :: inParts size (xs.drop (size - 1))
termination_by xs => xs.length
decreasing_by
  simp only [List.length_drop, List.length_cons]
  omega

/-- A number in a base, with zeros before it. -/
def inBase (base width n : Nat) : Octets :=
  let ds := Nat.toDigits base n
  String.ofList (List.replicate (width - ds.length) '0' ++ ds)

/-- The lines with line feeds. -/
def unlines (ls : List Octets) : Octets := String.join (ls.map (· ++ "\n"))

/-- The records of a text that end at some character, without it. -/
def records (delimiter : Char) (s : Octets) : List Octets :=
  match (Octets.splitAt delimiter s.toList).reverse with
  | [] :: r => (r.map String.ofList).reverse
  | r => (r.map String.ofList).reverse

end Program

end ShellCoverage.Shell

namespace ShellCoverage.Shell.Program

/-! ## Nodes and their places -/

/-- Why the directory of a place cannot be changed, if it cannot. -/
def obstacle? (place : List Name) : Sh (Option Errno) := do
  let fs ← Sh.fileSystem
  if FileSystem.isRemoved place.dropLast then return some .noEntry
  return if fs.tree.isReachable place && (fs.tree.at? place.dropLast).any Node.isWritable then none
    else some .accessDenied

/-- Puts a node at a place, or takes away the one that is there. -/
def put (place : List Name) (x : Option Node) : Sh (Option Errno) := do
  if let some e ← obstacle? place then return some e
  match x with
  | some x =>
    Sh.changeWorld (·.setNode place x)
    Sh.noteChange place
  | none =>
    Sh.changeWorld (·.dropName place)
    Sh.setTree ((← Sh.fileSystem).adjust place fun _ => none)
  return none

/-- Puts a node at a place instead of the one that is there. -/
def replace (place : List Name) (x : Node) : Sh (Option Errno) := do
  match ← put place none with
  | some e => return some e
  | none => put place (some x)

/-- Notes that a directory was moved, or removed. -/
def noteMove (old : List Name) (new : Option (List Name)) : Sh Unit :=
  Sh.changeWorld fun w =>
    let removed := old.dropLast ++ [FileSystem.removedName w.moves.length]
    { w with moves := w.moves ++ [(old, new.getD removed)] }

end ShellCoverage.Shell.Program
