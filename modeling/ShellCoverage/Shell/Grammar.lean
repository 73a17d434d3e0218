import ShellCoverage.Shell.Grammar.Compound
import ShellCoverage.Shell.Grammar.Expression

/-!
# Reading commands: the grammar

* `Reader.command`, `Reader.pipeline`, `Reader.andOr` : the parts of a list;
* `Reader.list` : a list of commands;
* `Reader.lineCommands` : the commands of a line, which are run before the next line is read.
-/

namespace ShellCoverage.Shell.Reader

variable (inner : Reads Command)

/-! ## Functions -/

/-- The words that begin compound commands. -/
def compoundWords : List Octets :=
  ["\x7b", "if", "while", "until", "for", "case", "select", "[["]

/-- The names of commands that no function of the plain shell can have. -/
def unusableNames : List Octets :=
  [".", ":", "break", "continue", "eval", "exec", "exit", "export", "readonly", "return", "set", "shift", "times",
    "trap", "unset"]

/-- The body of a function, and the line of the brace that was the last to begin one. It is a compound command; in
the plain language it may be a simple one. -/
def functionBody (body : Token → Reads (Option Command)) (other : Token → Reads Command) : Reads (Nat × Command) := do
  lineFeeds inner
  let t ← peekCommand inner
  if t = .word "\x7b" then modify fun r => { r with functionLine := r.line }
  let compound := match t with | .word w => compoundWords.elem w | .op o => o = "(" | _ => false
  if compound then
    match ← body t with
    | some c => return ((← get).functionLine, c)
    | none => reject t
  else if (← get).dialect = .plain && startsCommand t then return ((← get).functionLine, ← other t)
  else reject t

/-! ## Commands -/

/-- The compound command that a token begins, if it does, with the redirections after it. -/
def compoundWith (depth : Nat) (t : Token) : Reads (Option Command) := do
  let r ← get
  let full := r.dialect = .full
  let finish (c : Command) : Reads (Option Command) := some <$> withRedirections inner c
  match t with
  | .op "(" =>
    dropToken
    let before ← get
    if full && before.rest.head? = some '(' then
      match ← arithmeticText inner with
      | some text => return ← finish (.arithmetic (← get).line text)
      | none => set before
    let c ← inner
    expectOp inner ")"
    finish (.subshell (← get).line c)
  | .word "\x7b" =>
    dropToken
    let c ← inner
    expect inner "\x7d"
    finish (.group c)
  | .word "if" => dropToken; finish (← conditionalFrom inner r.budget)
  | .word "while" => dropToken; finish (← loopFrom inner false)
  | .word "until" => dropToken; finish (← loopFrom inner true)
  | .word "for" => dropToken; finish (← forFrom inner r.line)
  | .word "case" => dropToken; finish (← choiceFrom inner)
  | .word "select" => if full then dropToken; finish (← selectFrom inner r.line) else return none
  | .word "[[" => if full then dropToken; finish (← testFrom inner) else return none
  | .word "function" =>
    if !full then return none
    dropToken
    match depth, ← peekArgument inner {} with
    | depth + 1, .word name =>
      dropToken
      if (← peekArgument inner {}) = .op "(" then
        dropToken
        expectOp inner ")"
      let (bodyLine, body) ← functionBody inner (compoundWith depth) reject
      return some (.function r.line name bodyLine body)
    | _, t => reject t
  | _ => return none

/-- The compound command that a token begins, if it does. -/
def compound? (t : Token) : Reads (Option Command) := compoundWith inner 2 t

/-- A simple command, or the definition of a function, of which the body may be a simple command that another action
reads. -/
def simpleWith (body : Token → Reads Command) (t : Token) : Reads Command := do
  match t with
  | .word w =>
    dropToken
    if isAssignment w then simpleFrom inner (← get).line [w] []
    else
      let m : WordMode := { assignable := declarers.elem w }
      let before := (← get).line
      let next ← peekArgument inner m
      let r ← get
      let line := if r.dialect = .plain then before else r.line
      if next = .op "(" then
        dropToken
        expectOp inner ")"
        if (← get).dialect = .plain && (!Octets.isName w || unusableNames.elem w) then
          throw (.badWord "Bad function name")
        let (bodyLine, body) ← functionBody inner (compound? inner) body
        return .function line w bodyLine body
      else simpleFrom inner line [w] []
  | _ =>
    match ← redirection? inner nameMode with
    | some r => simpleFrom inner (← get).line [] [r]
    | none => reject t

/-- A simple command, or the definition of a function. -/
def simple : Token → Reads Command := simpleWith inner (simpleWith inner reject)

/-- A coprocess that does not begin with a compound command: one with a name, or a simple command. -/
def coprocess (t : Token) : Reads Command := do
  let before ← get
  match t with
  | .word name =>
    dropToken
    let next ← peekCommand inner
    if next = .word "\x7b" || next = .op "(" then
      match ← compound? inner next with
      | some c => return .coprocess name c
      | none => reject next
    else
      set before
      return .coprocess "COPROC" (← simple inner t)
  | t => return .coprocess "COPROC" (← simple inner t)

/-- A command. -/
def command : Reads Command := do
  let t ← peekCommand inner
  let isMisplaced := t = .word "in" && (← get).dialect = .plain
  if isMisplaced || !(startsCommand t) then reject t
  else
    match ← compound? inner t with
    | some c => return c
    | none =>
      if t = .word "coproc" && (← get).dialect = .full then
        dropToken
        let t ← peekCommand inner
        match ← compound? inner t with
        | some c => return .coprocess "COPROC" c
        | none => coprocess inner t
      else simple inner t

/-- A command that sends its errors where its output goes. -/
def withErrors : Command → Command
  | .simple line ws rs => .simple line ws (rs ++ [⟨.descriptor 2, .copyOutput, "1"⟩])
  | c => .redirected c [⟨.descriptor 2, .copyOutput, "1"⟩]

/-- The commands of a pipeline; those read so far are given in reverse order. -/
def pipelineRest : Nat → List Command → Reads Command
  | 0, acc => return .pipeline acc.reverse
  | n + 1, acc => do
    let c ← command inner
    let t ← peekArgument inner {}
    if t = .op "|" || t = .op "|&" then
      dropToken
      lineFeeds inner
      let next ← peekCommand inner
      if next = .word "!" then reject next
      pipelineRest n ((if t = .op "|&" then withErrors c else c) :: acc)
    else if acc.isEmpty then return c
    else return .pipeline (c :: acc).reverse

/-- Passes over a token if it comes next. -/
def dropIf (t : Token) : Reads Bool := do
  if (← peekCommand inner) = t then
    dropToken
    return true
  else return false

/-- The word `time` is a keyword here: in the standard it is none before an option. -/
def keepsTime (r : Reader) : Bool :=
  r.dialect = .full && !(r.standard && (r.rest.dropWhile Octets.isBlank).head? = some '-')

/-- A pipeline with the words that may stand before it. -/
def pipelineAt : Nat → Reads Command
  | 0 => do reject (← peekCommand inner)
  | n + 1 => do
    let t ← peekCommand inner
    let ends : Token → Bool := fun t => t = .op "\n" || t = .op ";" || t = .ending
    if t = .word "!" then
      dropToken
      if (← get).dialect = .plain then
        let t ← peekCommand inner
        if t = .word "!" then reject t
        return .negated (← pipelineRest inner n [])
      if ends (← peekCommand inner) then return .negated (.simple (← get).line [] [])
      else return .negated (← pipelineAt n)
    else if t = .word "time" && keepsTime (← get) then
      dropToken
      let byLetter ← dropIf inner (.word "-p")
      let byMark ← dropIf inner (.word "--")
      let portable := byLetter || byMark
      if ends (← peekCommand inner) then return .timed portable (.simple (← get).line [] [])
      else return .timed portable (← pipelineAt n)
    else pipelineRest inner n []

/-- A pipeline. -/
def pipeline : Reads Command := do pipelineAt inner (← get).budget

/-- Pipelines joined by `&&` and `||`, of which the first was read. -/
def andOrRest : Nat → Command → Reads Command
  | 0, a => return a
  | n + 1, a => do
    let t ← peekArgument inner {}
    if t = .op "&&" then
      dropToken
      lineFeeds inner
      andOrRest n (.andThen a (← pipeline inner))
    else if t = .op "||" then
      dropToken
      lineFeeds inner
      andOrRest n (.orElse a (← pipeline inner))
    else return a

/-- Pipelines joined by `&&` and `||`. -/
def andOr : Reads Command := do andOrRest inner (← get).budget (← pipeline inner)

/-- One command for those before it, if there are any, and another one. -/
def after (before : Option (Command × Bool)) (c : Command) : Command :=
  match before with
  | none => c
  | some (b, byLine) => .sequence byLine b c

/-- The rest of a list; line feeds separate its commands too if `spans` is set. -/
def listRest (spans : Bool) : Nat → Option (Command × Bool) → Reads Command
  | 0, before => return after before (.simple 0 [] [])
  | n + 1, before => do
    let a ← andOr inner
    let t ← peekArgument inner {}
    if t = .op ";" || t = .op "&" || (spans && t = .op "\n") then
      dropToken
      let c := after before (if t = .op "&" then .background a else a)
      if spans then lineFeeds inner
      let next ← peekCommand inner
      if goesOn (← get).dialect next && !(!spans && next = .op "\n") then listRest spans n (some (c, t = .op "\n"))
      else return c
    else return after before a

/-- A list of commands inside another command. That of the plain language may be empty at the end of the script,
where the other command is not complete. -/
def listOf : Reads Command := do
  lineFeeds inner
  let isOver := (← peekCommand inner) = .ending
  if isOver && (← get).dialect = .plain then return .simple 0 [] []
  listRest inner true (← get).budget none

/-- A list of commands, nested at most as deep as given. -/
def listAt : Nat → Reads Command
  | 0 => throw (.unexpectedEnd 0)
  | n + 1 => listOf (listAt n)

/-- A list of commands. -/
def list : Reads Command := do listAt (← get).budget

/-- The commands of a line: `none` at the end of the script, `some none` for an empty line. -/
def lineCommands : Reads (Option (Option Command)) := do
  match ← peekCommand list with
  | .ending => return none
  | .op "\n" => dropToken; return some none
  | _ =>
    let c ← listRest list false (← get).budget none
    let t ← peekCommand list
    match t with
    | .ending => return some (some c)
    | .op "\n" => dropToken; return some (some c)
    | t => reject t

/-- The elements of an array, as words; those read so far are given in reverse order. -/
def elementsFrom : Nat → List Word → Reads (List Word)
  | 0, acc => return acc.reverse
  | n + 1, acc => do
    match ← peekArgument list { element := true } with
    | .word w => dropToken; elementsFrom n (w :: acc)
    | .op "\n" => dropToken; elementsFrom n acc
    | .ending => return acc.reverse
    | t => reject t

/-- The elements of an array in a text, as words. -/
def elementWords (cs : List Char) : Except SyntaxError (List Word) :=
  match elementsFrom (cs.length + 1) [] { Reader.ofList cs 0 with rest := cs } with
  | .ok ws _ => .ok ws
  | .error e _ => .error e

end ShellCoverage.Shell.Reader
