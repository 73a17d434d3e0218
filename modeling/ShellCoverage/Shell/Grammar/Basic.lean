import ShellCoverage.Shell.Listing
import ShellCoverage.Shell.Reader

/-!
# Reading commands: tokens where commands may start

The reader of commands goes down the grammar. The functions of all these modules take the action `inner`
that reads a list of commands inside another command; `Reader.list` ties the knot with a bound on the
depth, which the number of characters provides.

* `Reader.substitution` : reads the commands of a substitution;
* `Reader.peekCommand` : the next token where a command may start, after aliases are replaced;
* `Reader.peekArgument` : the next token where none may.
-/

namespace ShellCoverage.Shell.Reader

/-- The words that may not start a command. -/
def closers : List Octets := ["then", "else", "elif", "fi", "esac", "do", "done", "\x7d"]

/-- The commands whose arguments may be assignments of array elements. -/
def declarers : List Octets := ["declare", "typeset", "local", "export", "readonly", "alias", "eval"]

/-- The operators that begin a redirection, with what they do. -/
def redirections : List (Octets × RedirectKind) :=
  [("<", .input), (">", .output), (">|", .clobber), (">>", .append), ("<>", .readWrite),
    ("<&", .copyInput), (">&", .copyOutput), ("&>", .both), ("&>>", .bothAppend),
    ("<<<", .hereString)]

/-- The operator begins a redirection. -/
def redirects (o : Octets) : Bool := o = "<<" || o = "<<-" || (redirections.lookup o).isSome

/-- The token may start a command. -/
def startsCommand : Token → Bool
  | .word w => !(closers.elem w)
  | .op o => o = "(" || redirects o
  | .descriptor _ | .descriptorName _ => true
  | .ending => false

/-- The token may end a list of commands. -/
def endsList : Token → Bool
  | .word w => closers.elem w
  | .op o => o = ")" || o = ";;" || o = "\n"
  | .ending => true
  | _ => false

/-- A list goes on with a token after a separator. In the plain language it does with all that cannot end it. -/
def goesOn (d : Dialect) (t : Token) : Bool := startsCommand t || (d = .plain && !endsList t)

/-- A word without its quotes. -/
def unquoted : List Char → List Char
  | [] => []
  | '\\' :: c :: r => c :: unquoted r
  | c :: r => if c = '\'' || c = '"' then unquoted r else c :: unquoted r

/-- A word holds a quote. -/
def isQuoted (w : Word) : Bool := w.toList.any fun c => c = '\'' || c = '"' || c = '\\'

/-- A word has the form of an assignment. -/
def isAssignment (w : Word) : Bool :=
  let cs := w.toList
  let name := cs.takeWhile Octets.isNameChar
  Octets.isNameList name &&
    (match cs.drop name.length with
    | '=' :: _ => true
    | '+' :: '=' :: _ => true
    | '[' :: r => subscripted r
    | _ => false)
where
  /-- After an opening bracket, the closing one is followed by an equals sign. -/
  subscripted : List Char → Bool
    | ']' :: '=' :: _ => true
    | ']' :: '+' :: '=' :: _ => true
    | _ :: r => subscripted r
    | [] => false

/-- The word mode of a command's name. -/
def nameMode : WordMode := { assignable := true }

variable (inner : Reads Command)

/-- The text that stands for an alias. A blank separates it from what follows, unless it ends in a
character that does so itself, or quotes the next one. -/
def aliasText (text : Octets) : List Char :=
  let cs := text.toList
  let isSeparate : Bool := cs.getLast?.all fun c => " \t\n()<>;&|".toList.elem c
  if isSeparate || cs.any fun c => "'\"\x60\\".toList.elem c then cs else cs ++ [' ']

/-- Replaces the word that was just read ahead by the text that it is an alias for, where one may stand; the
result says whether it was one. A word that is quoted, or an alias that is being replaced, stands for
itself. -/
def replaceAlias (isCommand : Bool) (w : Word) : Reads Bool := do
  let r ← get
  let passed := r.replacing.takeWhile fun p => r.rest.length + w.length ≤ p.left
  let replacing := r.replacing.drop passed.length
  let opensAlias := passed.foldl (fun _ p => p.opens) r.opensAlias
  if isQuoted w then
    set { r with replacing, opensAlias }
    return false
  let text? := if isCommand || opensAlias then r.aliases.lookup w else none
  match if replacing.any (·.name = w) then none else text? with
  | none =>
    set { r with replacing, opensAlias := false }
    return false
  | some text =>
    let opens := text.toList.getLast?.any Octets.isBlank
    set { r with
      rest := aliasText text ++ r.rest
      lookahead := none
      replacing := ⟨w, r.rest.length, opens⟩ :: replacing
      opensAlias }
    return true

/-- The next token; an alias is replaced by its text where it may stand. -/
def peekReplaced (sub : Reads (Option (List Char))) (isCommand : Bool) (m : WordMode) : Nat → Reads Token
  | 0 => peekToken sub m
  | n + 1 => do
    match ← peekToken sub m with
    | .word w => if ← replaceAlias isCommand w then peekReplaced sub isCommand m n else return .word w
    | t => return t

/-- The next token where a command may start; an alias is replaced by its text. -/
def peekCommandWith (sub : Reads (Option (List Char))) : Nat → Reads Token :=
  peekReplaced sub true nameMode

/-- Skips line feeds, before a command or before something else. -/
def lineFeedsWith (sub : Reads (Option (List Char))) (isCommand : Bool) : Nat → Reads Unit
  | 0 => pure ()
  | n + 1 => do
    if (← peekReplaced sub isCommand nameMode n) = .op "\n" then
      dropToken
      lineFeedsWith sub isCommand n

/-- The text that the reader has gathered under a number. -/
def bodyOf (r : Reader) (n : Nat) : Octets := (r.bodies.lookup n).getD ""

/-- The text of a substitution, given how its commands are read. The full shell lays it out anew, and
keeps it from looking like arithmetic. -/
def laidOut (r : Reader) (c : Command) : List Char :=
  match (Listing.substitution (bodyOf r) c).toList with
  | '(' :: cs => ' ' :: '(' :: cs
  | cs => cs

/-- Gathers texts that are still missing at the end of a substitution; they follow the line that it is
in. -/
def gatherMissing : Reads Unit := do
  let r ← get
  let n := r.pending.length
  if n ≠ 0 then
    let here := r.rest.takeWhile (· ≠ '\n')
    let warning := "warning: command substitution: " ++ Octets.ofNat n ++ " unterminated here-document" ++
      (if n = 1 then "" else "s")
    set { r with
      rest := r.rest.drop (here.length + 1)
      fresh := true
      warnings := r.warnings ++ (if r.dialect = Dialect.full then [(r.line, warning)] else []) }
    gather n
    modify fun s => { s with rest := here ++ '\n' :: s.rest, fresh := false }

/-- Reads the commands of a substitution, and gives their text if it is laid out anew. Substitutions
inside nest at most so deep. -/
def substitutionAt : Nat → Reads (Option (List Char))
  | 0 => throw (.unexpectedEnd 0)
  | n + 1 => do
    let budget := (← get).budget
    lineFeedsWith (substitutionAt n) true budget
    let isEmpty := (← peekCommandWith (substitutionAt n) budget) = .op ")"
    let c ← if isEmpty then pure none else some <$> inner
    if (← get).lookahead = some (.op ")") then gatherMissing
    let r ← get
    if r.dialect = .plain then return none
    else return some ((c.map (laidOut r)).getD [])

/-- Reads the commands of a substitution. -/
def substitution : Reads (Option (List Char)) := do substitutionAt inner (← get).budget

/-- The next token where a command may start. -/
def peekCommand : Reads Token := do peekCommandWith (substitution inner) (← get).budget

/-- Skips line feeds before a command. -/
def lineFeeds : Reads Unit := do lineFeedsWith (substitution inner) true (← get).budget

/-- Skips line feeds where no command may start. -/
def blankLines : Reads Unit := do lineFeedsWith (substitution inner) false (← get).budget

/-- The next token where no command may start. -/
def peekArgument (m : WordMode) : Reads Token := do
  peekReplaced (substitution inner) false m (← get).budget

/-- Reads a word that must be there. -/
def expect (w : Word) : Reads Unit := do
  let t ← peekCommand inner
  if t = .word w then dropToken else rejectFor (some ("\"" ++ w ++ "\"")) t

/-- Reads an operator that must be there. -/
def expectOp (o : Octets) : Reads Unit := do
  let t ← peekCommand inner
  if t = .op o then dropToken else rejectFor (some ("\"" ++ o ++ "\"")) t

end ShellCoverage.Shell.Reader
