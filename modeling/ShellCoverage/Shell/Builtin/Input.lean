import ShellCoverage.Shell.Assignment
import ShellCoverage.Shell.Builtin.Basic
import ShellCoverage.Shell.Printing
import ShellCoverage.Shell.Testing

/-!
# Commands that read and write

`read`, `mapfile`, `getopts`, `echo`, `printf`, `test`.
-/

namespace ShellCoverage.Shell.Builtin

/-! ## Reading -/

/-- Characters of a line with the backslashes taken away; those that a backslash stood before are
marked. -/
def unescaped : List Char → List Quotable
  | [] => []
  | '\\' :: '\n' :: r => unescaped r
  | '\\' :: c :: r => (c, true) :: unescaped r
  | ['\\'] => []
  | c :: r => (c, false) :: unescaped r

/-- The length of a line that backslashes may continue; nothing if the delimiter is missing. -/
def lineLength? (delimiter : Char) (raw : Bool) (n : Nat) : List Char → Option Nat
  | [] => none
  | c :: r =>
    if c = delimiter then some (n + 1)
    else if c = '\\' && !raw then
      match r with
      | [] => none
      | _ :: r => lineLength? delimiter raw (n + 2) r
    else lineLength? delimiter raw (n + 1) r

/-- White space among the separators. -/
def isBlankSeparator (separators : List Char) (q : Quotable) : Bool :=
  !q.2 && separators.elem q.1 && (q.1 = ' ' || q.1 = '\t' || q.1 = '\n')

/-- A separator. -/
def isSeparator (separators : List Char) (q : Quotable) : Bool := !q.2 && separators.elem q.1

/-- The characters without white space at the end. -/
def trimTail (separators : List Char) (qs : List Quotable) : List Quotable :=
  (qs.reverse.dropWhile (isBlankSeparator separators)).reverse

/-- The first field, and what follows it and its separator. -/
def cutField (separators : List Char) (qs : List Quotable) : List Quotable × List Quotable :=
  let field := qs.takeWhile fun q => !isSeparator separators q
  let rest := (qs.drop field.length).dropWhile (isBlankSeparator separators)
  let rest :=
    match rest with
    | q :: r => if isSeparator separators q then r.dropWhile (isBlankSeparator separators) else rest
    | [] => []
  (field, rest)

/-- The text of marked characters. -/
def plainText (qs : List Quotable) : Octets := String.ofList (qs.map (·.1))

/-- The values for `n + 1` names: the last one gets all that is left. -/
def shares (separators : List Char) : Nat → List Quotable → List Octets
  | 0, qs =>
    let (field, rest) := cutField separators qs
    [if rest = [] then plainText field else plainText (trimTail separators qs)]
  | n + 1, qs =>
    let (field, rest) := cutField separators qs
    plainText field :: shares separators n rest

/-- The fields of a line. -/
def lineFields (separators : List Char) : Nat → List Quotable → List Octets
  | 0, _ => []
  | _, [] => []
  | n + 1, qs =>
    let (field, rest) := cutField separators qs
    plainText field :: lineFields separators n rest

/-- A name of a variable, or of an element. -/
def isTarget (name : Octets) : Bool :=
  (Assignment.read? (name ++ "=")).any fun a => a.subscript ≠ some []

/-- Assigns to the variable, or the element, of some name; the result says whether that was allowed. -/
def storeNamed (command name s : Octets) : Sh Bool := do
  match Assignment.read? (name ++ "=") with
  | none => refuseName command name
  | some a =>
    if ← Sh.isReadonly a.name then
      Sh.reportReadonly a.name
      return false
    if a.subscript = some [] then refuseName command name
    else Sh.assignScalar? a.name (a.subscript.map String.ofList) false s

/-- Assigns to variables one after the other, up to the first that does not allow it. -/
def storeAll : List (Octets × Octets) → Sh Bool
  | [] => return true
  | (name, s) :: rest => do if ← storeNamed "read" name s then storeAll rest else return false

/-- The descriptor that an option names. -/
def descriptorOf (os : Options) : Nat := ((os.lookup 'u').bind Octets.natural?).getD 0

/-- How much `read` takes. -/
structure ReadSpan where
  charset : Charset
  delimiter : Char
  /-- Backslashes have no meaning. -/
  raw : Bool
  /-- So many characters, whatever they are. -/
  exactly : Option Nat
  /-- At most so many characters. -/
  atMost : Option Nat

/-- How many bytes hold the first `n` characters that are read: one after a backslash counts together with it,
and a line feed there does not count. The first number is that of the bytes at the head that belong to the
character before. -/
def spanLength? (k : Charset) (raw : Bool) : Nat → Nat → List Char → Option Nat
  | 0, 0, _ => some 0
  | _, _, [] => none
  | owed + 1, n, _ :: r => (spanLength? k raw owed n r).map (· + 1)
  | 0, n + 1, '\\' :: c :: r =>
    if raw then (spanLength? k raw 0 n (c :: r)).map (· + 1)
    else (spanLength? k raw (k.extra c r) (if c = '\n' then n + 1 else n) r).map (· + 2)
  | 0, n + 1, c :: r =>
    if c = '\\' && !raw then none else (spanLength? k raw (k.extra c r) n r).map (· + 1)

/-- What is taken of some characters, whether it is complete, and the number of characters; nothing if
more are needed. -/
def ReadSpan.take (s : ReadSpan) (cs : List Char) (isLast : Bool) : Option ((List Char × Bool) × Nat) :=
  match s.exactly with
  | some n =>
    match spanLength? s.charset s.raw 0 n cs with
    | some k => some ((cs.take k, true), k)
    | none => if isLast then some ((cs, false), cs.length) else none
  | none =>
    let (line, complete) : List Char × Bool :=
      match lineLength? s.delimiter s.raw 0 cs with
      | some n => (cs.take n, true)
      | none => (cs, false)
    let whole : Option ((List Char × Bool) × Nat) :=
      if complete || isLast then
        let size := line.length
        some ((if complete then line.dropLast else line, complete), size)
      else none
    match s.atMost with
    | some n =>
      match (spanLength? s.charset s.raw 0 n line).filter (· < line.length) with
      | some k => some ((line.take k, true), k)
      | none => whole
    | none => whole

/-- The status of `read` when the time is over. -/
def lateStatus : Nat := 142

/-- What is wrong with the value of an option of `read`, if anything is. -/
def optionFault? (c : Char) (value : Octets) : Sh (Option Octets) := do
  match c with
  | 't' =>
    if value = "" || (Printing.microseconds? value).isSome then return none
    else return some (value ++ ": invalid timeout specification")
  | 'n' | 'N' => return if (Octets.natural? value).isSome then none else some (Octets.noNumber value)
  | 'u' =>
    match Octets.natural? value with
    | none => return some (value ++ ": invalid file descriptor specification")
    | some fd =>
      if ← Sh.isOpen fd then return none
      else return some (Octets.ofNat fd ++ ": invalid file descriptor: Bad file descriptor")
  | _ => return none

/-- What is wrong with the first option of `read` that has a wrong value. -/
def firstFault? : Options → Sh (Option Octets)
  | [] => return none
  | (c, value) :: os => do
    match ← optionFault? c value with
    | some m => return some m
    | none => firstFault? os

/-- The time that `read` waits when it is told none, if the shell sets one. -/
def usualPatience? : Sh (Option Nat) := do
  return ((← Sh.scalar? "TMOUT").bind Printing.microseconds?).filter (0 < ·)

/-- `read`, for a command of some name; without one for a menu. -/
def readFor (name : Octets) : Builtin := fun args => do
  match ← options? name "ers" "adinNptu" args with
  | none => return 2
  | some (os, names) =>
    let fd := descriptorOf os
    let raw := has os 'r'
    if let some m ← firstFault? os then
      return ← refuse 1 name m
    match names.head?.filter fun n => (Assignment.read? (n ++ "=")).isNone with
    | some n =>
      discard (refuseName name n)
      return 1
    | none =>
      let patience := (os.lookup 't').map fun t => if t = "" then some 0 else Printing.microseconds? t
      if patience = some (some 0) then
        match ← Sh.openFile? fd with
        | none => return 1
        | some (_, f) =>
          match f.channel with
          | .pipe n => return statusOf ((← Sh.world).hasHappened (.more n 0))
          | _ => return 0
      let k ← Sh.charset
      let span : ReadSpan := {
        charset := k
        delimiter := ((os.lookup 'd').map fun d => (d.toList.head?).getD (Char.ofNat 0)).getD '\n'
        raw
        exactly := (os.lookup 'N').bind Octets.natural?
        atMost := (os.lookup 'n').bind Octets.natural? }
      let patience ← match patience with
        | some given => pure given
        | none => usualPatience?
      let now := (← Sh.world).clock
      let deadline := patience.map (now + ·)
      if ← Sh.isDirectoryAt fd then
        return ← refuse 1 name ("read error: " ++ Octets.ofNat fd ++ ": Is a directory")
      match ← Sh.takeFrom fd false deadline span.take with
      | none => refuse 1 name ("read error: " ++ Octets.ofNat fd ++ ": Bad file descriptor")
      | some (cs, complete) =>
        let now := (← Sh.world).clock
        let isLate := !complete && deadline.any (· ≤ now)
        let cs := cs.filter fun c => c.toNat ≠ 0
        let qs := k.quotables (if raw then cs.map fun c => (c, false) else unescaped cs)
        let separators := k.chars (← Sh.separators)
        let octets (s : Octets) : Octets := String.ofList (k.octets s.toList)
        let good ←
          match os.lookup 'a', names with
          | some array, _ =>
            if !(Octets.isName array) then return statusOf (← refuseName name array)
            let qs := qs.dropWhile (isBlankSeparator separators)
            let fields := (lineFields separators (qs.length + 1) qs).map octets
            if ← Sh.isReadonly array then
              Sh.report (array ++ ": readonly variable")
              pure false
            else
              Sh.storeValue array (.indexed (Value.ofList 0 fields))
              pure true
          | none, [] =>
            Sh.store "REPLY" (octets (plainText qs))
            pure true
          | none, names =>
            if span.exactly.isSome then
              storeAll (names.zip (octets (plainText qs) :: names.tail.map fun _ => ""))
            else
              let qs := qs.dropWhile (isBlankSeparator separators)
              let values := (shares separators (names.length - 1) qs).map octets
              storeAll (names.zip values)
        return if isLate then lateStatus else statusOf (complete && good)

/-- `read` -/
def read : Builtin := readFor "read"

/-- The lines at the head of some characters, at most so many: each with its delimiter, but the last one
need not have it; and the number of characters. -/
def takeLines (delimiter : Char) : Nat → List Char → List (List Char) × Nat
  | 0, _ => ([], 0)
  | _, [] => ([], 0)
  | n + 1, cs =>
    let l := cs.takeWhile (· ≠ delimiter)
    let l := l ++ (cs.drop l.length).take 1
    let (ls, size) := takeLines delimiter n (cs.drop l.length)
    (l :: ls, l.length + size)

/-- `mapfile` -/
def mapfile (runs : Runs) (name : Octets) : Builtin := fun args => do
  match ← options? name "t" "dnOsuCc" args with
  | none => return 2
  | some (os, names) =>
    let number (c : Char) : Option Nat := (os.lookup c).bind Octets.natural?
    let bad (c : Char) (what : Octets) : Sh (Option Nat) := do
      match os.lookup c with
      | some s =>
        if (Octets.natural? s).isNone || (c = 'c' && Octets.natural? s = some 0) then return some (← refuse 1 name (s ++ ": invalid " ++ what))
        return none
      | none => return none
    if let some n ← bad 'n' "line count" then return n
    if let some n ← bad 's' "line count" then return n
    if let some n ← bad 'O' "array origin" then return n
    if let some n ← bad 'c' "callback quantum" then return n
    if let some n ← bad 'u' "file descriptor specification" then return n
    let delimiter := ((os.lookup 'd').map fun d => (d.toList.head?).getD (Char.ofNat 0)).getD '\n'
    let array := names.headD "MAPFILE"
    if !Octets.isName array then
      discard (refuseName name array)
      return 1
    if ← Sh.isKeyed array then return ← refuse 1 name (array ++ ": not an indexed array")
    let limit := (number 'n').getD 0
    let skipped := (number 's').getD 0
    let fd := descriptorOf os
    let ls? : Option (List (List Char)) ← Sh.takeFrom fd (limit = 0) none fun cs isLast =>
      let wanted := if limit = 0 then cs.length + 1 else skipped + limit
      let (ls, size) := takeLines delimiter wanted cs
      let isEnough : Bool := wanted ≤ ls.length && (ls.getLast?.bind List.getLast?).any (· = delimiter)
      if isEnough || isLast then some (ls, size) else none
    if ls?.isNone && has os 'u' then
      return ← refuse 1 name (Octets.ofNat fd ++ ": invalid file descriptor: Bad file descriptor")
    let ls := ls?.getD []
    let withoutEnd (l : List Char) : List Char :=
      if has os 't' && l.getLast? = some delimiter then l.dropLast else l
    let ls := (ls.drop skipped).map fun l => String.ofList ((withoutEnd l).takeWhile fun c => c.toNat ≠ 0)
    let origin := (number 'O').getD 0
    if !(has os 'O') then
      if ← Sh.isReadonly array then
        Sh.report (array ++ ": readonly variable")
        return 1
      Sh.storeValue array (.indexed [])
    match os.lookup 'C' with
    | none =>
      let kept : List (Nat × Octets) ← match ← Sh.lookup? array with
        | some (.indexed es) => pure es
        | _ => pure []
      let es := ls.zipIdx.foldl (fun es l => Value.setIndex (l.2 + origin) l.1 es) kept
      Sh.storeValue array (.indexed es)
    | some callback =>
      let quantum := (number 'c').getD 5000
      for l in ls.zipIdx do
        let index := l.2 + origin
        if (l.2 + 1) % quantum = 0 then
          let line := (← Sh.process).line
          Sh.change fun p => { p with depth := p.depth + 1 }
          Sh.ensuring (Sh.runInputText runs name (callback ++ " " ++ Octets.ofNat index ++ " " ++
            Quoting.single l.1).toList (line - 1)) (Sh.change fun p => { p with depth := p.depth - 1, line })
        Sh.storeIndex array index l.1
    return 0

/-! ## Options of scripts -/

/-- What `getopts` finds at a place: the letter, whether it takes a value. -/
def optionKind? (spec : List Char) (c : Char) : Option Bool :=
  match spec.dropWhile (· ≠ c) with
  | _ :: ':' :: _ => if c = ':' then none else some true
  | _ :: _ => if c = ':' then none else some false
  | [] => none

/-- Gives the variable that `getopts` is asked to set a string. -/
def storeOption (name s : Octets) : Sh Bool :=
  if Octets.isName name then storeNamed "getopts" name s else refuseName "getopts" name

/-- `getopts` -/
def getopts : Builtin := fun args => do
  match ← options? "getopts" "" "" args with
  | none => return 2
  | some (_, spec :: name :: rest) =>
    let args ← if rest = [] then Sh.parameters else pure rest
    let silent := Octets.startsWith ":" spec
    let letters := (if silent then spec.toList.drop 1 else spec.toList)
    let index := max 1 ((Octets.natural? (← Sh.scalar "OPTIND")).getD 1)
    let offset := (← Sh.process).optionIndex
    let reports := !silent && (← Sh.scalar? "OPTERR") ≠ some "0"
    let shellName := (← Sh.process).name
    let setIndex (index offset : Nat) : Sh Unit := do
      Sh.store "OPTIND" (Octets.ofNat index)
      Sh.change fun p => { p with optionIndex := offset }
    let unsetValue : Sh Unit :=
      Sh.change fun p => { p with vars := Variables.remove "OPTARG" false p.vars }
    let finish (index : Nat) : Sh Nat := do
      setIndex index 0
      unsetValue
      discard (storeOption name "?")
      return 1
    match args[index - 1]? with
    | none => finish (args.length + 1)
    | some a =>
      if offset = 0 && (a = "-" || !(Octets.startsWith "-" a)) then finish index
      else if offset = 0 && a = "--" then finish (index + 1)
      else
        let at_ := if offset = 0 then 1 else offset
        match a.toList[at_]? with
        | none => finish index
        | some c =>
          let isLast := a.length ≤ at_ + 1
          let after : Sh Unit := if isLast then setIndex (index + 1) 0 else setIndex index (at_ + 1)
          match optionKind? letters c with
          | none =>
            after
            if silent then Sh.store "OPTARG" c.toString
            else
              unsetValue
              if reports then Sh.complain (shellName ++ ": illegal option -- " ++ c.toString ++ "\n")
            return statusOf (← storeOption name "?")
          | some false =>
            after
            unsetValue
            return statusOf (← storeOption name c.toString)
          | some true =>
            if !isLast then
              setIndex (index + 1) 0
              Sh.store "OPTARG" (String.ofList (a.toList.drop (at_ + 1)))
              return statusOf (← storeOption name c.toString)
            else
              match args[index]? with
              | some v =>
                setIndex (index + 2) 0
                Sh.store "OPTARG" v
                return statusOf (← storeOption name c.toString)
              | none =>
                setIndex (index + 1) 0
                if silent then
                  Sh.store "OPTARG" c.toString
                  return statusOf (← storeOption name ":")
                else
                  unsetValue
                  if reports then
                    Sh.complain (shellName ++ ": option requires an argument -- " ++ c.toString ++ "\n")
                  return statusOf (← storeOption name "?")
  | some _ => usage "getopts"

/-! ## Writing -/

/-- Writes to the output; the status says whether it is open. -/
def writeOr (name s : Octets) : Sh Nat := do
  if s = "" then return 0
  match ← Sh.writeTo 1 s with
  | none => return 0
  | some e =>
    if (← Sh.process).dialect = .plain then
      Sh.report (name ++ ": I/O error")
      return 1
    refuse 1 name ("write error: " ++ e.description)

/-- `echo` -/
def echo : Builtin := fun args => do
  let plain := (← Sh.process).dialect = .plain
  let escapes ← Sh.hasFeature "xpg_echo"
  writeOr "echo" (Printing.echo (← Sh.charset) plain escapes args)

/-- `printf` -/
def printf : Builtin := fun args => do
  let plain := (← Sh.process).dialect = .plain
  match ← (if plain then pure (some ([], withoutMark args)) else options? "printf" "" "v" args) with
  | none => return 2
  | some (os, args) =>
    if let some name := (os.lookup 'v').filter fun n => !isTarget n then
      discard (refuseName "printf" name)
      return 2
    let f :: args := args | usage "printf"
    let w ← Sh.world
    let start := (startOfTime : Int) + max (← Sh.process).started 0
    let setting : Printing.Setting :=
      { printer := if plain then .plain else .full, charset := ← Sh.charset, now := startOfTime + w.seconds, start }
    let o := Printing.format setting f args
    for c in o.complaints do
      complain "printf" c.text
    let text := String.ofList o.text
    let status ←
      match os.lookup 'v' with
      | some name => statusOf <$> storeNamed "printf" name text
      | none => writeOr "printf" text
    return if o.isGood then status else 1

/-- `test` and `[` -/
def test (name : Octets) : Builtin := fun args => Testing.run name args Sh.report

end ShellCoverage.Shell.Builtin
