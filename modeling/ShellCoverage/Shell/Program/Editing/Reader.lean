import ShellCoverage.Shell.Program.Editing.Script
import ShellCoverage.Shell.Quoting
import ShellCoverage.Shell.Regex.Reader

/-!
# Reading editing scripts

A script is read from texts, one after the other: arguments and the contents of files. Messages tell how far
the reader came.

* `Editing.Origin` : where a text is from;
* `Editing.readScript` : the script in some texts, or what is wrong.
-/

namespace ShellCoverage.Shell.Editing

/-- Where a text of a script is from. -/
inductive Origin where
  /-- The argument with some number. -/
  | expression (n : Nat)
  | file (name : Octets)

/-- What is wrong with a script: the message, and the status of a program that is given it. -/
structure Fault where
  message : Octets
  status : Nat := 1

/-- What the reader has come to. -/
structure Reading where
  charset : Charset
  extended : Bool
  origin : Origin := .expression 1
  rest : List Char := []
  taken : Nat := 0
  line : Nat := 1
  commands : Array Command := #[]
  labels : Table Octets Nat := []
  silent : Bool := false
  /-- The blocks that are open: their indices, and the messages that say that they are not closed. -/
  blocks : List (Nat × Octets) := []
  /-- The text of the last command goes on in the next text. -/
  pending : Option (List Char) := none

/-- An action of the reader. -/
abbrev Read := StateT Reading (Except Fault)

/-! ## Characters -/

/-- A message about what was read last. -/
def Reading.about (s : Reading) (atStart : Bool) (message : Octets) : Octets :=
  match s.origin with
  | .expression n =>
    "-e expression #" ++ Octets.ofNat n ++ ", char " ++ Octets.ofNat (if atStart then 0 else s.taken) ++
      ": " ++ message
  | .file name => "file " ++ name ++ " line " ++ Octets.ofNat s.line ++ ": " ++ message

/-- Ends with a message about what was read last. -/
def fail {α : Type} (message : Octets) : Read α := do
  throw ⟨(← get).about false message, 1⟩

/-- The next character. -/
def next : Read (Option Char) := do
  let s ← get
  match s.rest with
  | [] => return none
  | c :: rest =>
    set { s with rest, taken := s.taken + 1, line := if c = '\n' then s.line + 1 else s.line }
    return some c

/-- Puts a character back. -/
def back (c? : Option Char) : Read Unit := do
  if let some c := c? then
    modify fun s =>
      { s with rest := c :: s.rest, taken := s.taken - 1, line := if c = '\n' then s.line - 1 else s.line }

/-- Takes the characters that fit. -/
def takeWhile (fits : Char → Bool) : Read (List Char) := do
  let s ← get
  let cs := s.rest.takeWhile fits
  let lines := (cs.filter (· = '\n')).length
  set { s with rest := s.rest.drop cs.length, taken := s.taken + cs.length, line := s.line + lines }
  return cs

/-- The next character that is not a blank. -/
def nextNonBlank : Read (Option Char) := do
  discard (takeWhile Octets.isBlank)
  next

/-- A number. -/
def number : Read Nat := return Octets.ofDigits (← takeWhile Char.isDigit)

/-- The end of a command. -/
def endOfCommand : Read Unit := do
  match ← nextNonBlank with
  | none | some '\n' | some ';' => return ()
  | some c => if c = '\x7d' || c = '#' then back (some c) else fail "extra characters after command"

/-! ## Texts between delimiters -/

/-- The rest of a bracket expression, with its end: what was read, and whether it ends. The part of a class or
an element that was read is 1 after its first bracket, 2 inside and 3 after a mark inside. -/
def bracket : Nat → Nat → Char → List Char → Read (List Char × Bool)
  | 0, _, _, acc => return (acc, false)
  | n + 1, part, mark, acc => do
    match ← next with
    | none => return (acc, false)
    | some c =>
      let inner := part - part % 2
      if c = '\n' then
        back (some c)
        return (acc, false)
      else if c = '.' || c = ':' || c = '=' then
        if part = 1 then bracket n 2 c (c :: acc)
        else if part = 2 && c = mark then bracket n 3 mark (c :: acc)
        else bracket n inner mark (c :: acc)
      else if c = '[' then bracket n (if part = 0 then 1 else part) mark (c :: acc)
      else if c = ']' then
        if part < 2 then return (c :: acc, true)
        else bracket n (if part = 3 then 0 else inner) mark (c :: acc)
      else bracket n inner mark (c :: acc)

/-- The start of a bracket expression, where closing brackets mean themselves. -/
def bracketHead : Read (List Char) := do
  let hat ← match ← next with
    | some '^' => pure ['^']
    | c =>
      back c
      pure []
  match ← next with
  | some ']' => return ']' :: hat
  | c =>
    back c
    return hat

/-- The text up to a delimiter, if it ends there. -/
def delimited (slash : Char) (isPattern : Bool) : Nat → List Char → Read (Option (List Char))
  | 0, _ => return none
  | n + 1, acc => do
    match ← next with
    | none => return none
    | some c =>
      if c = slash then return some acc.reverse
      else if c = '\n' && isPattern then
        back (some c)
        return none
      else if c = '\\' then
        match ← next with
        | none => return none
        | some d =>
          if d = slash && !(!isPattern && d = '&') then delimited slash isPattern n (d :: acc)
          else if d = 'n' && isPattern then delimited slash isPattern n ('\n' :: acc)
          else if d = '\n' then delimited slash isPattern n (d :: acc)
          else delimited slash isPattern n (d :: '\\' :: acc)
      else if c = '[' && isPattern then
        let head ← bracketHead
        let (cs, closed) ← bracket ((← get).rest.length + 1) 0 '.' (head ++ ('[' :: acc))
        if closed then delimited slash isPattern n cs else return none
      else delimited slash isPattern n (c :: acc)

/-- The text up to a delimiter, or a message that there is none. -/
def upTo (slash : Option Char) (isPattern : Bool) (message : Octets) : Read (List Char) := do
  match slash with
  | none => fail message
  | some '\n' | some '\\' => fail message
  | some d =>
    match ← delimited d isPattern ((← get).rest.length + 1) [] with
    | some cs => return cs
    | none => fail message

/-! ## Escapes -/

/-- The character with a number that is written in some base, and what follows; the letter itself if there
are no digits. -/
def numbered (letter : Char) (base most : Nat) (cs : List Char) : Char × List Char :=
  let ds := (cs.takeWhile fun c => (Quoting.hexDigit? c).any (· < base)).take most
  if ds = [] then (letter, cs)
  else
    let n := ds.foldl (fun n c => n * base + (Quoting.hexDigit? c).getD 0) 0
    (Char.ofNat (n % 256), cs.drop ds.length)

/-- The text with the characters that escapes stand for. A backslash stays before those that would mean
something else. -/
def decoded (special : Char → Bool) : Nat → List Char → Read (List Char)
  | 0, cs => return cs
  | n + 1, cs =>
    let plain (c : Char) (r : List Char) : Read (List Char) := return c :: (← decoded special n r)
    let made (x : Char × List Char) : Read (List Char) := do
      let r ← decoded special n x.2
      return if x.1 = '\\' || special x.1 then '\\' :: x.1 :: r else x.1 :: r
    match cs with
    | '\\' :: c :: r =>
      match c with
      | 'a' => plain '\x07' r
      | 'f' => plain '\x0c' r
      | 'n' => plain '\n' r
      | 'r' => plain '\r' r
      | 't' => plain '\t' r
      | 'v' => plain '\x0b' r
      | 'd' => made (numbered c 10 3 r)
      | 'o' => made (numbered c 8 3 r)
      | 'x' => made (numbered c 16 2 r)
      | 'c' =>
        match r with
        | [] => return ['\\']
        | '\\' :: '\\' :: r => plain '\x1c' r
        | '\\' :: _ => fail "recursive escaping after \\c not allowed"
        | d :: r => plain (Char.ofNat (d.toUpper.toNat ^^^ 64)) r
      | c => return '\\' :: c :: (← decoded special n r)
    | c :: r => plain c r
    | [] => return []

/-- A text without the backslashes that protect characters. -/
def unprotected : List Char → List Char
  | '\\' :: c :: r => c :: unprotected r
  | ['\\'] => []
  | c :: r => c :: unprotected r
  | [] => []

/-! ## Expressions -/

/-- What to search for: nothing if it is to be the same as the last time. -/
def search (pattern : List Char) (fold byLine : Bool) : Read (Option Search) := do
  if pattern = [] then
    if fold || byLine then fail "cannot specify modifiers on empty regexp"
    return none
  let cs ← decoded (fun _ => false) (pattern.length + 1) pattern
  let s ← get
  let form : Regex.Form := if s.extended then .strictExtended else .strictBasic
  match s.charset.regex form (cs.map fun c => (c, false)) with
  | .ok expression =>
    return some ⟨expression, { fold := s.charset.folding fold, byLine, withinLines := byLine }⟩
  | .error e => fail e.message

/-- The parts of a replacement. -/
def parts : List Char → List Part
  | [] => []
  | '\\' :: c :: r =>
    if c.isDigit then .group (c.toNat - 48) :: parts r
    else
      match c with
      | 'L' => .casing .lower :: parts r
      | 'U' => .casing .upper :: parts r
      | 'E' => .casing .asIs :: parts r
      | 'l' => .nextCasing .lower :: parts r
      | 'u' => .nextCasing .upper :: parts r
      | c => .text [c] :: parts r
  | '&' :: r => .group 0 :: parts r
  | c :: r =>
    match parts r with
    | .text cs :: ps => .text (c :: cs) :: ps
    | ps => .text [c] :: ps

/-! ## Addresses -/

/-- The flags after an expression in an address, and whether it ignores case and goes by lines. -/
def addressFlags : Nat → Bool → Bool → Read (Bool × Bool)
  | 0, fold, byLine => return (fold, byLine)
  | n + 1, fold, byLine => do
    match ← nextNonBlank with
    | some 'I' => addressFlags n true byLine
    | some 'M' => addressFlags n fold true
    | c =>
      back c
      return (fold, byLine)

/-- The address that begins with a character that was read, if one does. -/
def address? (c : Option Char) : Read (Option Limit) := do
  match c with
  | some '/' | some '\\' =>
    let slash ← if c = some '/' then pure c else next
    let pattern ← upTo slash true "unterminated address regex"
    let (fold, byLine) ← addressFlags ((← get).rest.length + 1) false false
    return some (.address (.matching (← search pattern fold byLine)))
  | some '$' => return some (.address .last)
  | some '+' =>
    discard (takeWhile Octets.isBlank)
    return some (.later (← number))
  | some '~' =>
    discard (takeWhile Octets.isBlank)
    return some (.multiple (← number))
  | some d =>
    if !d.isDigit then return none
    back c
    let first ← number
    match ← nextNonBlank with
    | some '~' =>
      discard (takeWhile Octets.isBlank)
      let size ← number
      return some (.address (if size = 0 then .line first else .step first size))
    | c =>
      back c
      return some (.address (.line first))
  | none => return none

/-- The lines that a command is for, and the character after that. -/
def selection (c : Option Char) : Read (Option Address × Option Limit × Option Char) := do
  match ← address? c with
  | none => return (none, none, c)
  | some (.address first) =>
    let isZero : Bool := match first with
      | .line 0 => true
      | _ => false
    match ← nextNonBlank with
    | some ',' =>
      let limit ← address? (← nextNonBlank)
      if limit.isNone then fail "unexpected \x60,'"
      let c ← nextNonBlank
      let isPattern : Bool := match limit with
        | some (.address (.matching _)) => true
        | _ => false
      if isZero && !isPattern then fail "invalid usage of line address 0"
      return (some first, limit, c)
    | c =>
      if isZero then fail "invalid usage of line address 0"
      return (some first, none, c)
  | some _ => fail "invalid usage of +N or ~N as first address"

/-! ## Commands -/

/-- The name of a file. -/
def fileName : Read Octets := do
  discard (takeWhile Octets.isBlank)
  let name ← takeWhile (· ≠ '\n')
  discard next
  if name = [] then fail "missing filename in r/R/w/W commands"
  return String.ofList name

/-- A label. -/
def label : Read Octets := do
  discard (takeWhile Octets.isBlank)
  return String.ofList (← takeWhile fun c => !(Octets.isSpace c || c = ';' || c = '\x7d' || c = '#'))

/-- The flags of a substitution. -/
def flags : Nat → Substitution → Bool → Bool → Read (Substitution × Bool × Bool)
  | 0, s, fold, byLine => return (s, fold, byLine)
  | n + 1, s, fold, byLine => do
    match ← next with
    | some 'i' | some 'I' => flags n s true byLine
    | some 'm' | some 'M' => flags n s fold true
    | some 'e' => flags n { s with evaluates := true } fold byLine
    | some 'p' =>
      if s.prints || s.printsFirst then fail "multiple \x60p' options to \x60s' command"
      if s.evaluates then flags n { s with prints := true } fold byLine
      else flags n { s with printsFirst := true } fold byLine
    | some 'g' =>
      if s.global then fail "multiple \x60g' options to \x60s' command"
      flags n { s with global := true } fold byLine
    | some 'w' => return ({ s with file := some (← fileName) }, fold, byLine)
    | some ' ' => flags n s fold byLine
    | none | some '\n' | some ';' => return (s, fold, byLine)
    | some c =>
      if c.isDigit then
        if s.number.isSome then fail "multiple number options to \x60s' command"
        back (some c)
        let count ← number
        if count = 0 then fail "number option to \x60s' command may not be zero"
        flags n { s with number := some count } fold byLine
      else if c = '\x7d' || c = '#' then
        back (some c)
        return (s, fold, byLine)
      else fail "unknown option to \x60s'"

/-- A substitution. -/
def substitution : Read Action := do
  let message := "unterminated \x60s' command"
  let slash ← next
  let pattern ← upTo slash true message
  let new ← upTo slash false message
  let replacement := parts (← decoded (· = '&') (new.length + 1) new)
  let (s, fold, byLine) ← flags ((← get).rest.length + 1) { search := none, replacement } false false
  let target ← search pattern fold byLine
  if let some x := target then
    let groups := x.expression.groupCount
    let wanted := replacement.foldl (fun n p => match p with | .group i => max n i | _ => n) 0
    if groups < wanted then
      fail ("invalid reference \\" ++ Octets.ofNat wanted ++ " on \x60s' command's RHS")
  let s := if s.evaluates then s else { s with prints := s.printsFirst, printsFirst := false }
  return .substitute { s with search := target }

/-- An exchange of characters. -/
def translation : Read Action := do
  let message := "unterminated \x60y' command"
  let slash ← next
  let old ← upTo slash false message
  let new ← upTo slash false message
  let old := unprotected (← decoded (fun _ => false) (old.length + 1) old)
  let new := unprotected (← decoded (fun _ => false) (new.length + 1) new)
  let k := (← get).charset
  let (old, new) := (k.chars old, k.chars new)
  if old.length ≠ new.length then fail "strings for \x60y' command are different lengths"
  endOfCommand
  return .translate (old.zip new)

/-- A number that a command may have. -/
def argument? : Read (Option Nat) := do
  let c ← nextNonBlank
  back c
  let n? ← if c.any Char.isDigit then some <$> number else pure none
  endOfCommand
  return n?

/-- A command without arguments. -/
def alone (a : Action) : Read Action := do
  endOfCommand
  return a

/-- The lines of a text, after what there is of it: the text, and whether it may go on in what is read
next. -/
def textLines : Nat → List Char → Read (List Char × Bool)
  | 0, acc => return (acc, false)
  | n + 1, acc => do
    match ← next with
    | none | some '\n' => return ('\n' :: acc, false)
    | some '\\' =>
      match ← next with
      | none => return ('\n' :: acc, true)
      | some c => textLines n (c :: '\\' :: acc)
    | some c => textLines n (c :: acc)

/-- Takes the lines of the text of the last command, of which there is a part already. -/
def fillText (start : List Char) : Read (List Char) := do
  let (cs, goesOn) ← textLines ((← get).rest.length + 1) start.reverse
  let raw := cs.reverse
  if goesOn then modify fun s => { s with pending := some raw }
  return unprotected (← decoded (fun _ => false) (raw.length + 1) raw)

/-- The text of a command, after its first character that is not a blank. -/
def text (c : Option Char) : Read (List Char) := do
  match c with
  | none => fail "expected \\ after \x60a', \x60c' or \x60i'"
  | some '\\' =>
    match ← next with
    | none =>
      modify fun s => { s with pending := some [] }
      return []
    | some '\n' => fillText []
    | c =>
      back c
      fillText []
  | c =>
    back c
    fillText []

/-- The same action with another text. -/
def Action.withText (cs : List Char) : Action → Action
  | .append _ => .append cs
  | .insert _ => .insert cs
  | .change _ => .change cs
  | .execute _ => .execute cs
  | a => a

/-- The action that a letter stands for. -/
def action (hasLimit : Bool) : Char → Read Action
  | '=' => alone .lineNumber
  | 'a' => return .append (← text (← nextNonBlank))
  | 'i' => return .insert (← text (← nextNonBlank))
  | 'c' => return .change (← text (← nextNonBlank))
  | 'b' => return .jump .always (← label)
  | 't' => return .jump .replaced (← label)
  | 'T' => return .jump .notReplaced (← label)
  | 'd' => alone .delete
  | 'D' => alone .deleteFirst
  | 'e' => do
    match ← nextNonBlank with
    | none | some '\n' => return .evaluate
    | c => return .execute (← text c)
  | 'F' => alone .fileName
  | 'g' => alone .get
  | 'G' => alone .getMore
  | 'h' => alone .hold
  | 'H' => alone .holdMore
  | 'x' => alone .exchange
  | 'l' => return .list (← argument?)
  | 'n' => alone .nextLine
  | 'N' => alone .nextMore
  | 'p' => alone .print
  | 'P' => alone .printFirst
  | 'q' => do
    if hasLimit then fail "command only uses one address"
    return .quit true ((← argument?).getD 0)
  | 'Q' => do
    if hasLimit then fail "command only uses one address"
    return .quit false ((← argument?).getD 0)
  | 'r' => return .readFile (← fileName)
  | 'R' => return .readLine (← fileName)
  | 's' => substitution
  | 'w' => return .write (← fileName)
  | 'W' => return .writeFirst (← fileName)
  | 'y' => translation
  | 'z' => alone .clear
  | c => fail ("unknown command: \x60" ++ c.toString ++ "'")

/-- The numbers of a release up to some point are in order. -/
def isNewer (wanted : Octets) : Bool :=
  match (Octets.pieces '.' wanted).map fun p => Octets.ofDigits (p.toList.takeWhile Char.isDigit) with
  | [] => false
  | major :: rest => 4 < major || major = 4 && 9 < rest.headD 0

/-- Adds a command. -/
def add (c : Command) : Read Unit := modify fun s => { s with commands := s.commands.push c }

/-- A command, a comment, a label or the border of a block, with its first character. -/
def command (c : Option Char) : Read Unit := do
  let (first, limit, c) ← selection c
  let (negated, c) ← match c with
    | some '!' =>
      match ← nextNonBlank with
      | some '!' => fail "multiple \x60!'s"
      | c => pure (true, c)
    | c => pure (false, c)
  match c with
  | none => fail "missing command"
  | some '#' =>
    if first.isSome then fail "comments don't accept any addresses"
    let isFirst := (← get).taken = 1 && match (← get).origin with
      | .expression n => decide (n = 1)
      | .file _ => true
    let comment ← takeWhile (· ≠ '\n')
    discard next
    if isFirst && comment.head? = some 'n' && (← get).commands.isEmpty then modify fun s => { s with silent := true }
  | some ':' =>
    if first.isSome then fail ": doesn't want any addresses"
    let name ← label
    if name = "" then fail "\":\" lacks a label"
    modify fun s => { s with labels := (name, s.commands.size) :: s.labels }
  | some 'v' =>
    let wanted ← label
    if isNewer wanted then fail "expected newer version of sed"
  | some '\x7b' =>
    modify fun s =>
      { s with blocks := (s.commands.size, s.about true "unmatched \x60\x7b'") :: s.blocks }
    add { first, limit, negated, action := .block 0 }
  | some '\x7d' =>
    match (← get).blocks with
    | [] => fail "unexpected \x60\x7d'"
    | (start, _) :: blocks =>
      if first.isSome then fail "\x60\x7d' doesn't want any addresses"
      endOfCommand
      modify fun s =>
        let stop := s.commands.size
        { s with
          blocks
          commands := s.commands.modify start fun c => { c with action := .block stop } }
  | some c => add { first, limit, negated, action := ← action limit.isSome c }

/-- The commands of a text; the number bounds how many there are. -/
def commands : Nat → Read Unit
  | 0 => return ()
  | n + 1 => do
    discard (takeWhile fun c => Octets.isSpace c || c = ';')
    match ← next with
    | none => return ()
    | c =>
      command c
      commands n

/-- Reads a text of a script. -/
def readText (x : Origin × Octets) : Read Unit := do
  let rest := x.2.toList
  modify fun s => { s with origin := x.1, rest, taken := 0, line := 1 }
  if let some start := (← get).pending then
    modify fun s => { s with pending := none }
    let cs ← fillText start
    modify fun s =>
      { s with commands := s.commands.modify (s.commands.size - 1) fun c =>
          { c with action := c.action.withText cs } }
  commands (rest.length + 1)

/-- The labels to which commands jump. -/
def jumps (cs : Array Command) : List Octets :=
  cs.toList.filterMap fun c => match c.action with
    | .jump _ l => if l = "" then none else some l
    | _ => none

/-- Reads the texts of a script. -/
def readTexts (texts : List (Origin × Octets)) : Read Script := do
  texts.forM readText
  let s ← get
  if let (_, message) :: _ := s.blocks then throw ⟨message, 1⟩
  if let some l := (jumps s.commands).find? fun l => !Table.has l s.labels then
    throw ⟨"can't find label for jump to \x60" ++ l ++ "'", 4⟩
  return { commands := s.commands, labels := s.labels, silent := s.silent }

/-- The script in some texts, or what is wrong with them. -/
def readScript (charset : Charset) (extended : Bool) (texts : List (Origin × Octets)) : Except Fault Script :=
  match (readTexts texts).run { charset, extended } with
  | .ok (s, _) => .ok s
  | .error e => .error e

end ShellCoverage.Shell.Editing
