import ShellCoverage.Shell.Calendar.Phrase
import ShellCoverage.Shell.Pattern
import ShellCoverage.Shell.Program.Basic
import ShellCoverage.Shell.Program.Mode
import ShellCoverage.Shell.Regex.Reader

/-!
# Conditions on files

What is looked for among files is said by an expression, whose parts are tests and actions.

* `Finding.Predicate` : a test or an action;
* `Finding.Expression` : predicates put together;
* `Finding.Query` : an expression and how the search goes;
* `Finding.read` : the query that arguments mean.
-/

namespace ShellCoverage.Shell.Finding

/-- A number, or those above or below it. -/
inductive Bound where
  | exactly (n : Nat)
  | above (n : Nat)
  | below (n : Nat)

/-- A number is within a bound. -/
def Bound.admits (b : Bound) (n : Nat) : Bool :=
  match b with
  | .exactly m => n = m
  | .above m => m < n
  | .below m => n < m

/-- The bound that an argument means. -/
def Bound.ofText? (s : Octets) : Option Bound :=
  match s.toList with
  | '+' :: cs => (Octets.natural? (String.ofList cs)).map .above
  | '-' :: cs => (Octets.natural? (String.ofList cs)).map .below
  | _ => (Octets.natural? s).map .exactly

/-- How the mode of a file is compared. -/
inductive ModeTest where
  | equal
  | allOf
  | anyOf

/-- What may be done with a file. -/
inductive Access where
  | reading
  | writing
  | executing

/-- A test or an action. -/
inductive Predicate where
  | always (b : Bool)
  | name (fold : Folding) (p : List Pattern)
  | path (fold : Folding) (p : List Pattern)
  | target (fold : Folding) (p : List Pattern)
  | matching (fold : Folding) (r : Regex)
  /-- The file, or that to which it links, is of one of the kinds that letters stand for. -/
  | kind (follows : Bool) (letters : List Char)
  | size (b : Bound) (unit : Nat)
  | empty
  | newer (path : Octets)
  | since (moment : Int)
  /-- The age of the file in units of so many seconds. -/
  | age (b : Bound) (unit : Nat)
  | mode (how : ModeTest) (bits : Nat)
  | access (a : Access)
  | names (b : Bound)
  | index (b : Bound)
  | same (path : Octets)
  | prune
  | quit
  | print (ending : Octets)
  | printTo (path ending : Octets)
  | format (f : List Char)
  | list
  | delete
  /-- Runs a command for the file, from its directory or not. -/
  | run (inside : Bool) (command : List Octets)
  /-- Runs a command for many files at once; the number tells such commands apart. -/
  | runMany (id : Nat) (inside : Bool) (command : List Octets)
  /-- Runs a command if the answer to a question is yes. -/
  | ask (inside : Bool) (command : List Octets)

/-- Predicates put together. -/
inductive Expression where
  | test (p : Predicate)
  | not (e : Expression)
  | both (a b : Expression)
  | either (a b : Expression)
  /-- The value is that of the second one. -/
  | list (a b : Expression)

/-- An expression and how the search goes. -/
structure Query where
  starts : List Octets := []
  expression : Expression := .test (.always true)
  follows : Bool := false
  followsStarts : Bool := false
  most : Option Nat := none
  least : Nat := 0
  /-- A directory comes after what is in it. -/
  insideFirst : Bool := false

/-- The predicates of an expression. -/
def Expression.predicates : Expression → List Predicate
  | .test p => [p]
  | .not e => e.predicates
  | .both a b | .either a b | .list a b => a.predicates ++ b.predicates

/-! ## Reading -/

/-- The state of the reader. -/
structure Reading where
  args : List Octets
  query : Query := {}
  /-- Something is done with the files, so that they are not just printed. -/
  acts : Bool := false
  extended : Bool := false
  commands : Nat := 0
  now : Int := 0

/-- An action of the reader, which may end with a message. -/
abbrev Read := StateT Reading (Except Octets)

/-- The argument of a predicate. -/
def argument (name : Octets) : Read Octets := do
  match (← get).args with
  | a :: args =>
    modify fun s => { s with args }
    return a
  | [] => throw ("missing argument to \x60" ++ name ++ "'")

/-- The pattern in an argument. -/
def pattern (s : Octets) : List Pattern :=
  Pattern.parse false false (go s.toList)
where
  /-- The characters, of which some stand for themselves. -/
  go : List Char → List Quotable
    | '\\' :: c :: r => (c, true) :: go r
    | c :: r => (c, false) :: go r
    | [] => []

/-- The bound in an argument, or a message. -/
def bound (name : Octets) : Read Bound := do
  let a ← argument name
  match Bound.ofText? a with
  | some b => return b
  | none => throw ("invalid argument \x60" ++ a ++ "' to \x60" ++ name ++ "'")

/-- The depth in an argument. -/
def depth (name : Octets) : Read Nat := do
  let a ← argument name
  match Octets.natural? a with
  | some n => return n
  | none =>
    throw ("Expected a positive decimal integer argument to " ++ name ++ ", but got " ++ Program.cited a)

/-- An expression with plain signs for repetition in the basic form. -/
def plainSigns : List Char → List Char
  | '\\' :: c :: r => if c = '+' || c = '?' then c :: plainSigns r else '\\' :: c :: plainSigns r
  | c :: r => if c = '+' || c = '?' then '\\' :: c :: plainSigns r else c :: plainSigns r
  | [] => []

/-- The kinds in an argument. -/
def kinds (name : Octets) : Read (List Char) := do
  let a ← argument name
  let pieces := Octets.pieces ',' a
  pieces.mapM fun p => do
    match p.toList with
    | [c] =>
      if "bcdpflsD".toList.elem c then return c
      throw ("Unknown argument to " ++ name ++ ": " ++ c.toString)
    | [] => throw ("Last file type in list argument to " ++ name ++ " is missing, i.e., list is ending on: ','")
    | c :: _ =>
      if "bcdpflsD".toList.elem c then
        throw ("Must separate multiple arguments to " ++ name ++ " using: ','")
      throw ("Unknown argument to " ++ name ++ ": " ++ c.toString)

/-- The sizes that letters stand for. -/
def sizeUnit? : List Char → Option Nat
  | [] | ['b'] => some 512
  | ['c'] => some 1
  | ['w'] => some 2
  | ['k'] => some 1024
  | ['M'] => some (1024 * 1024)
  | ['G'] => some (1024 * 1024 * 1024)
  | _ => none

/-- The size in an argument. -/
def size : Read Predicate := do
  let a ← argument "-size"
  let sign := a.toList.takeWhile fun c => c = '+' || c = '-'
  let digits := (a.toList.drop sign.length).takeWhile Char.isDigit
  let unit := a.toList.drop (sign.length + digits.length)
  match Bound.ofText? (String.ofList (sign ++ digits)), sizeUnit? unit with
  | some b, some n => return .size b n
  | _, none => throw ("invalid -size type \x60" ++ String.ofList (unit.drop (unit.length - 1)) ++ "'")
  | none, some _ => throw ("invalid argument \x60" ++ a ++ "' to -size")

/-- The command up to its end, which is a semicolon, or a plus sign after the place of the files. -/
def commandArguments (name : Octets) (many : Bool) :
    List Octets → List Octets → Except Octets (List Octets × Bool × List Octets)
  | _, [] => .error ("missing argument to \x60" ++ name ++ "'")
  | acc, a :: r =>
    if a = ";" then
      if acc = [] then .error ("missing argument to \x60" ++ name ++ "'") else .ok (acc.reverse, false, r)
    else if many && a = "+" && acc.head? = some "\x7b\x7d" then .ok (acc.reverse, true, r)
    else commandArguments name many (a :: acc) r

/-- A command to run. -/
def command (name : Octets) (inside asks : Bool) : Read Predicate := do
  let s ← get
  let (argv, many, args) ← commandArguments name (!asks) [] s.args
  set { s with args, acts := true, commands := s.commands + 1 }
  if many then
    if 1 < (argv.filter (· = "\x7b\x7d")).length then
      throw ("Only one instance of \x7b\x7d is supported with " ++ name ++ " ... +")
    return .runMany s.commands inside argv.dropLast
  return if asks then .ask inside argv else .run inside argv

/-- Notes that something is done with the files. -/
def acting (p : Predicate) : Read Predicate := do
  modify fun s => { s with acts := true }
  return p

/-- Changes how the search goes. -/
def setting (f : Query → Query) : Read Predicate := do
  modify fun s => { s with query := f s.query }
  return .always true

/-- The predicate with some name. -/
def predicate (name : Octets) : Read Predicate := do
  match name with
  | "-name" => return .name false (pattern (← argument name))
  | "-iname" => return .name true (pattern (← argument name))
  | "-path" | "-wholename" => return .path false (pattern (← argument name))
  | "-ipath" | "-iwholename" => return .path true (pattern (← argument name))
  | "-lname" => return .target false (pattern (← argument name))
  | "-ilname" => return .target true (pattern (← argument name))
  | "-regex" | "-iregex" =>
    let a ← argument name
    let r := if (← get).extended then Regex.ofOctets .strictExtended a
      else Regex.ofOctets .basic (String.ofList (plainSigns a.toList))
    match r with
    | .ok r => return .matching (if name = "-iregex" then .ascii else .exact) r
    | .error e => throw ("failed to compile regular expression " ++ Program.cited a ++ ": " ++ e.message)
  | "-regextype" =>
    let a ← argument name
    let names : List Octets := ["posix-extended", "posix-egrep", "egrep", "posix-awk", "awk", "gnu-awk"]
    modify fun s => { s with extended := names.elem a }
    return .always true
  | "-type" => return .kind false (← kinds name)
  | "-xtype" => return .kind true (← kinds name)
  | "-size" => size
  | "-empty" => return .empty
  | "-newer" | "-anewer" | "-cnewer" | "-newermm" => return .newer (← argument name)
  | "-newermt" | "-newerct" | "-newerat" =>
    let a ← argument name
    match Moment.ofPhrase? (← get).now a with
    | some t => return .since t
    | none =>
      throw ("I cannot figure out how to interpret " ++ Program.cited a ++ " as a date or time")
  | "-mtime" | "-atime" | "-ctime" => return .age (← bound name) 86400
  | "-mmin" | "-amin" | "-cmin" => return .age (← bound name) 60
  | "-perm" =>
    let a ← argument name
    let (how, rest) : ModeTest × List Char := match a.toList with
      | '-' :: r => (.allOf, r)
      | '/' :: r => (.anyOf, r)
      | r => (.equal, r)
    match Mode.change? false 0 0 (String.ofList rest) with
    | some bits => return .mode how bits
    | none => throw ("invalid mode " ++ Program.cited a)
  | "-readable" => return .access .reading
  | "-writable" => return .access .writing
  | "-executable" => return .access .executing
  | "-links" => return .names (← bound name)
  | "-inum" => return .index (← bound name)
  | "-samefile" => return .same (← argument name)
  | "-user" | "-group" =>
    let a ← argument name
    if a = "root" || a = "0" then return .always true
    if (Octets.natural? a).isSome then return .always false
    throw (if name = "-user" then Program.cited a ++ " is not the name of a known user"
      else Program.cited a ++ " is not the name of an existing group")
  | "-uid" | "-gid" => return .always ((← bound name).admits 0)
  | "-nouser" | "-nogroup" | "-false" => return .always false
  | "-true" | "-noleaf" | "-warn" | "-nowarn" | "-mount" | "-xdev" | "-daystart" |
    "-ignore_readdir_race" | "-noignore_readdir_race" => return .always true
  | "-fstype" | "-context" | "-used" =>
    discard (argument name)
    return .always false
  | "-depth" | "-d" => setting fun q => { q with insideFirst := true }
  | "-follow" => setting fun q => { q with follows := true }
  | "-maxdepth" =>
    let n ← depth name
    setting fun q => { q with most := some n }
  | "-mindepth" =>
    let n ← depth name
    setting fun q => { q with least := n }
  | "-prune" => return .prune
  | "-quit" => return .quit
  | "-print" => acting (.print "\n")
  | "-print0" => acting (.print "\x00")
  | "-fprint" => acting (.printTo (← argument name) "\n")
  | "-fprint0" => acting (.printTo (← argument name) "\x00")
  | "-printf" =>
    let a ← argument name
    if ((a.toList.reverse.takeWhile (· = '%')).length) % 2 = 1 then
      throw "error: % at end of format string"
    acting (.format a.toList)
  | "-ls" => acting .list
  | "-delete" =>
    discard (setting fun q => { q with insideFirst := true })
    acting .delete
  | "-exec" => command name false false
  | "-execdir" => command name true false
  | "-ok" => command name false true
  | "-okdir" => command name true true
  | _ =>
    if Octets.startsWith "-" name then throw ("unknown predicate \x60" ++ name ++ "'")
    throw ("paths must precede expression: \x60" ++ name ++ "'")

/-- The names of the operators that stand between expressions. -/
def isBetween (a : Octets) : Bool := ["-o", "-or", "-a", "-and", ","].elem a

mutual

/-- Expressions with commas between them. -/
def sequence : Nat → Read Expression
  | 0 => throw "expression is too deep"
  | n + 1 => do
    let mut e ← alternatives n
    for _ in List.range (← get).args.length do
      if (← get).args.head? = some "," then
        modify fun s => { s with args := s.args.tail }
        if (← get).args = [] then throw "expected an expression after ','"
        e := .list e (← alternatives n)
    return e

/-- Expressions of which one has to hold. -/
def alternatives : Nat → Read Expression
  | 0 => throw "expression is too deep"
  | n + 1 => do
    let mut e ← conjunction n
    for _ in List.range (← get).args.length do
      let op := (← get).args.headD ""
      if op = "-o" || op = "-or" then
        modify fun s => { s with args := s.args.tail }
        if (← get).args = [] then throw ("expected an expression after " ++ Program.cited op)
        e := .either e (← conjunction n)
    return e

/-- Expressions that all have to hold. -/
def conjunction : Nat → Read Expression
  | 0 => throw "expression is too deep"
  | n + 1 => do
    let mut e ← primary n
    for _ in List.range (← get).args.length do
      let args := (← get).args
      let op := args.headD ""
      if op = "-a" || op = "-and" then
        modify fun s => { s with args := s.args.tail }
        if (← get).args = [] then throw ("expected an expression after " ++ Program.cited op)
        e := .both e (← primary n)
      else if args ≠ [] && op ≠ ")" && !isBetween op then e := .both e (← primary n)
    return e

/-- An expression that is negated, in parentheses, or a predicate. -/
def primary : Nat → Read Expression
  | 0 => throw "expression is too deep"
  | n + 1 => do
    let s ← get
    match s.args with
    | [] => return .test (.always true)
    | a :: args =>
      if isBetween a then
        throw ("invalid expression; you have used a binary operator " ++ Program.cited a ++
          " with nothing before it.")
      set { s with args }
      match a with
      | "!" | "-not" =>
        if args = [] then throw ("expected an expression after " ++ Program.cited a)
        return .not (← primary n)
      | "(" =>
        let missing := "invalid expression; expected to find a ')' but didn't see one. " ++
          "Perhaps you need an extra predicate after '('"
        match args with
        | [] => throw missing
        | ")" :: _ => throw "invalid expression; empty parentheses are not allowed."
        | _ =>
          let e ← sequence n
          match (← get).args with
          | ")" :: args =>
            modify fun s => { s with args }
            return e
          | _ => throw missing
      | ")" => throw "invalid expression; you have too many ')'"
      | _ => return .test (← predicate a)

end

/-- The options that come before the places to start from, and what follows them. -/
def readOptions (q : Query) : List Octets → Query × List Octets
  | "-H" :: r => readOptions { q with followsStarts := true, follows := false } r
  | "-L" :: r => readOptions { q with follows := true } r
  | "-P" :: r => readOptions { q with follows := false, followsStarts := false } r
  | "-D" :: _ :: r => readOptions q r
  | a :: r => if Octets.startsWith "-O" a && a.length = 3 then readOptions q r else (q, a :: r)
  | [] => (q, [])

/-- An argument begins the expression. -/
def beginsExpression (a : Octets) : Bool := (Octets.startsWith "-" a && a ≠ "-") || a = "(" || a = "!"

/-- The query that arguments mean, or what is wrong with them. -/
def read (now : Int) (args : List Octets) : Except Octets Query := do
  let (q, args) := readOptions {} args
  let starts := args.takeWhile fun a => !beginsExpression a
  let args := args.drop starts.length
  let q := { q with starts := if starts = [] then ["."] else starts }
  if args = [] then return { q with expression := .test (.print "\n") }
  let (e, s) ← (sequence (2 * args.length + 5)).run { args, query := q, now }
  if s.args ≠ [] then
    if s.args.head? = some ")" then throw "invalid expression; you have too many ')'"
    throw ("paths must precede expression: \x60" ++ s.args.headD "" ++ "'")
  return { s.query with expression := if s.acts then e else .both e (.test (.print "\n")) }

end ShellCoverage.Shell.Finding
