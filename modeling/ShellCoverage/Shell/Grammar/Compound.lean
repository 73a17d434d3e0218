import ShellCoverage.Shell.Grammar.Basic

/-!
# Reading commands: redirections, simple commands, loops and choices

* `Reader.redirection?` : a redirection, if the next token begins one;
* `Reader.simpleFrom` : the rest of a simple command;
* `Reader.conditionalFrom`, `Reader.forFrom`, `Reader.selectFrom`, `Reader.choiceFrom`, `Reader.loopFrom` :
  the rest of a compound command after its first word.
-/

namespace ShellCoverage.Shell.Reader

variable (inner : Reads Command)

/-! ## Redirections and simple commands -/

/-- The rest of a redirection after its operator. -/
def redirection (target : RedirectTarget) (o : Octets) : Reads Redirect := do
  match ← peekArgument inner {} with
  | .word w =>
    dropToken
    if o = "<<" || o = "<<-" then
      let r ← get
      let expands := !isQuoted w
      let body : PendingBody :=
        ⟨r.nextBody, String.ofList (unquoted w.toList), o = "<<-", expands, r.line⟩
      set { r with pending := r.pending ++ [body], nextBody := r.nextBody + 1 }
      return ⟨target, .hereDocument r.nextBody expands, w⟩
    else return ⟨target, (redirections.lookup o).getD .input, w⟩
  | .descriptor n =>
    dropToken
    return ⟨target, (redirections.lookup o).getD .input, Octets.ofNat n⟩
  | t => reject t

/-- A redirection, if the next token begins one. -/
def redirection? (m : WordMode) : Reads (Option Redirect) := do
  match ← peekArgument inner m with
  | .op o => if redirects o then dropToken; return some (← redirection inner .implied o) else return none
  | .descriptor n =>
    dropToken
    match ← peekArgument inner m with
    | .op o => dropToken; return some (← redirection inner (.descriptor n) o)
    | t => reject t
  | .descriptorName n =>
    dropToken
    match ← peekArgument inner m with
    | .op o => dropToken; return some (← redirection inner (.variable n) o)
    | t => reject t
  | _ => return none

/-- The redirections after a command. -/
def redirectionsAfter : Nat → List Redirect → Reads (List Redirect)
  | 0, acc => return acc.reverse
  | n + 1, acc => do
    match ← redirection? inner {} with
    | some r => redirectionsAfter n (r :: acc)
    | none => return acc.reverse

/-- A command with the redirections that follow it. -/
def withRedirections (c : Command) : Reads Command := do
  let rs ← redirectionsAfter inner (← get).budget []
  return if rs = [] then c else .redirected c rs

/-- The words and redirections of a simple command; those read so far are given in reverse order. -/
def simpleRest : Nat → List Word → List Redirect → Reads (List Word × List Redirect)
  | 0, ws, rs => return (ws.reverse, rs.reverse)
  | n + 1, ws, rs => do
    let named := ws.filter fun w => !isAssignment w
    let declares := match named.getLast? with | some w => declarers.elem w | none => false
    let m : WordMode := { assignable := named.isEmpty || declares }
    let t ← if named.isEmpty then peekCommand inner else peekArgument inner m
    match t with
    | .word w => dropToken; simpleRest n (w :: ws) rs
    | _ =>
      match ← redirection? inner m with
      | some r => simpleRest n ws (r :: rs)
      | none => return (ws.reverse, rs.reverse)

/-- A simple command whose first word, or first redirection, was read. -/
def simpleFrom (line : Nat) (ws : List Word) (rs : List Redirect) : Reads Command := do
  let (ws, rs) ← simpleRest inner (← get).budget ws rs
  return .simple line ws rs

/-! ## Loops and choices -/

/-- The commands between `do` and `done`, or between braces. -/
def doGroup : Reads Command := do
  lineFeeds inner
  if (← peekCommand inner) = .word "\x7b" && (← get).dialect = .full then
    dropToken
    let c ← inner
    expect inner "\x7d"
    return c
  else
    expect inner "do"
    let c ← inner
    expect inner "done"
    return c

/-- The rest of `if` after its first word. -/
def conditionalFrom : Nat → Reads Command
  | 0 => do reject (← peekCommand inner)
  | n + 1 => do
    let test ← inner
    expect inner "then"
    let yes ← inner
    let t ← peekCommand inner
    if t = .word "elif" then
      dropToken
      return .conditional test yes (some (← conditionalFrom n))
    else if t = .word "else" then
      dropToken
      let no ← inner
      expect inner "fi"
      return .conditional test yes (some no)
    else
      expect inner "fi"
      return .conditional test yes none

/-- The words after `in`. -/
def wordList : Nat → List Word → Reads (List Word)
  | 0, acc => return acc.reverse
  | n + 1, acc => do
    match ← peekArgument inner {} with
    | .word w => dropToken; wordList n (w :: acc)
    | .op o =>
      if o = ";" || o = "\n" then
        dropToken
        return acc.reverse
      else reject (.op o)
    | t => reject t

/-- The words of a loop, if there are any, after its name. -/
def loopWords : Reads (Option (List Word)) := do
  if (← peekArgument inner {}) = .op ";" then
    dropToken
    return none
  else
    lineFeeds inner
    if (← peekArgument inner {}) = .word "in" then
      dropToken
      return some (← wordList inner (← get).budget [])
    else return none

/-- The text inside two pairs of parentheses, the first of which was read; none if the text is not
closed by two of them. -/
def arithmeticText : Reads (Option Octets) := do
  skip
  let cs ← quotes (substitution inner) .paren []
  match ← peek? with
  | some ')' => skip; return some (String.ofList cs.tail.reverse)
  | _ => return none

/-- The rest of `for` after its first word. -/
def forFrom (line : Nat) : Reads Command := do
  match ← peekArgument inner {} with
  | .op "(" =>
    let r ← get
    if r.rest.head? = some '(' && r.dialect = .full then
      dropToken
      match ← arithmeticText inner with
      | none => reject (.op "(")
      | some text =>
        modify fun s => { s with loopLine := r.line }
        if (← peekCommand inner) = .op ";" then dropToken
        let body ← doGroup inner
        let trimmed (s : Octets) : Octets := String.ofList (s.toList.dropWhile Octets.isBlank)
        match (Octets.pieces ';' text).map trimmed with
        | [a, b, c] => return .forArithmetic (← get).loopLine a b c body
        | _ => unexpected "(("
    else if r.dialect = .plain then throw (.badWord "Bad for loop variable")
    else reject (.op "(")
  | .word name =>
    if (← get).dialect = .plain && !Octets.isName name then throw (.badWord "Bad for loop variable")
    dropToken
    let words ← loopWords inner
    let body ← doGroup inner
    return .forEach line name words body
  | t => if (← get).dialect = .plain then throw (.badWord "Bad for loop variable") else reject t

/-- The rest of `select` after its first word. -/
def selectFrom (line : Nat) : Reads Command := do
  match ← peekArgument inner {} with
  | .word name =>
    dropToken
    let words ← loopWords inner
    let body ← doGroup inner
    return .select line name words body
  | t => reject t

/-- The patterns of a clause up to the closing parenthesis. -/
def patterns : Nat → List Word → Reads (List Word)
  | 0, acc => return acc.reverse
  | n + 1, acc => do
    match ← peekArgument inner {} with
    | .word w =>
      dropToken
      match ← peekArgument inner {} with
      | .op "|" => dropToken; patterns n (w :: acc)
      | .op ")" => dropToken; return (w :: acc).reverse
      | t =>
        let isPlain := (← get).dialect = .plain
        rejectFor (some "\")\"") (match t with | .word w => .word (if isPlain then "" else w) | t => t)
    | .ending => rejectFor (some "\")\"") .ending
    | t =>
      if (← get).dialect = .full then reject t
      dropToken
      rejectFor (some "\")\"") (match ← peekArgument inner {} with | .word _ => .word "" | t => t)

/-- The clauses of `case`, and the word that ends it. -/
def clauses : Nat → Reads (List (List Word × Option Command × ClauseEnd))
  | 0 => return []
  | n + 1 => do
    blankLines inner
    let t ← peekArgument inner {}
    if t = .word "esac" then
      dropToken
      return []
    else
      if t = .op "(" then dropToken
      let ps ← patterns inner (← get).budget []
      lineFeeds inner
      let t ← peekCommand inner
      let empty := t = .word "esac" || t = .op ";;" || t = .op ";&" || t = .op ";;&" ||
        ((← get).dialect = .plain && endsList t)
      let c ← if empty then pure none else some <$> inner
      match ← peekCommand inner with
      | .op ";;" => dropToken; return (ps, c, .stop) :: (← clauses n)
      | .op ";&" => dropToken; return (ps, c, .fallThrough) :: (← clauses n)
      | .op ";;&" => dropToken; return (ps, c, .testNext) :: (← clauses n)
      | t =>
        if t ≠ .word "esac" then rejectFor (some "\";;\"") t
        dropToken
        return [(ps, c, .stop)]

/-- The rest of `case` after its first word. -/
def choiceFrom : Reads Command := do
  match ← peekArgument inner {} with
  | .word w =>
    dropToken
    let line := (← get).line
    lineFeeds inner
    expect inner "in"
    return .choice line w (← clauses inner (← get).budget)
  | t => rejectFor (some "word") t

/-- The rest of `while` or `until` after its first word. -/
def loopFrom (untilTrue : Bool) : Reads Command := do
  let test ← inner
  expect inner "do"
  let body ← inner
  expect inner "done"
  return .loop untilTrue test body

end ShellCoverage.Shell.Reader
