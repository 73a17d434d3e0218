import ShellCoverage.Shell.Command

/-!
# Listings

Commands as text, in the layout in which the shell shows its functions. The text of a substitution is
laid out in the same way when it is read, except that the line feeds between its commands stay; the lines
of its commands are counted in that text.

* `Listing.command` : the text of a command;
* `Listing.heading` : the text by which a command is known while it runs;
* `Listing.function`, `Listing.body` : the text of a function's definition;
* `Listing.substitution` : the text of the commands of a substitution.
-/

namespace ShellCoverage.Shell.Listing

/-! ## Words, redirections and tests -/

/-- The sign of a redirection. -/
def sign : RedirectKind → Octets
  | .input => "<"
  | .output => ">"
  | .clobber => ">|"
  | .append => ">>"
  | .readWrite => "<>"
  | .copyInput => "<&"
  | .copyOutput => ">&"
  | .both => "&>"
  | .bothAppend => "&>>"
  | .hereDocument _ _ => "<<"
  | .hereString => "<<<"

/-- The descriptor that a kind of redirection implies. -/
def impliedDescriptor : RedirectKind → Nat
  | .output | .clobber | .append | .copyOutput | .both | .bothAppend => 1
  | _ => 0

/-- The word after which the text of a redirection ends, without quotes. -/
def endWord (w : Word) : Octets :=
  String.ofList (w.toList.filter fun c => c ≠ '\'' && c ≠ '"' && c ≠ '\\')

/-- The word after which the text of a redirection ends, in quotes if the text is taken as it is. -/
def quotedEnd (w : Word) (expands : Bool) : Octets := if expands then w else "'" ++ endWord w ++ "'"

/-- The word of a copy names a descriptor, which may be closed then. -/
def isDescriptorWord (w : Word) : Bool :=
  let cs := w.toList
  let digits := if cs.getLast? = some '-' then cs.dropLast else cs
  digits ≠ [] && digits.all Char.isDigit

/-- A redirection; a text that it gives follows elsewhere. -/
def redirect (r : Redirect) : Octets :=
  let implied := impliedDescriptor r.kind
  let targetBut (hidden : Option Nat) : Octets :=
    match r.target with
    | .implied => if hidden = some implied then "" else Octets.ofNat implied
    | .descriptor n => if hidden = some n then "" else Octets.ofNat n
    | .variable n => "\x7b" ++ n ++ "\x7d"
  match r.kind with
  | .copyInput | .copyOutput =>
    if r.word = "-" then targetBut none ++ sign .copyOutput ++ r.word
    else targetBut (if isDescriptorWord r.word then none else some implied) ++ sign r.kind ++ r.word
  | .hereDocument _ expands => targetBut (some implied) ++ sign r.kind ++ quotedEnd r.word expands
  | .readWrite => targetBut (some 1) ++ sign r.kind ++ " " ++ r.word
  | k => targetBut (some implied) ++ sign k ++ " " ++ r.word

/-- The expression of a conditional command. -/
def test : Test → Octets
  | .unary op w => op ++ " " ++ w
  | .binary op a b => a ++ " " ++ op ++ " " ++ b
  | .word w => "-n " ++ w
  | .negation t => "! " ++ test t
  | .group t => "( " ++ test t ++ " )"
  | .both a b => test a ++ " && " ++ test b
  | .either a b => test a ++ " || " ++ test b

/-- Words after a blank; without any they are the parameters. -/
def wordList (ws : Option (List Word)) : Octets :=
  match ws with
  | some ws => " in " ++ Octets.join " " ws
  | none => " in \"$@\""

/-- The head of a loop over words. -/
def loopHead (keyword name : Octets) (ws : Option (List Word)) : Octets := keyword ++ " " ++ name ++ wordList ws

/-! ## The sheet -/

/-- A text that is being laid out. -/
structure Sheet where
  /-- The texts of redirections, by number. -/
  bodies : Nat → Octets
  /-- The line feeds between commands stay. -/
  keepsLines : Bool := false
  inFunction : Bool := false
  /-- A line has one blank at most before it. -/
  isFlat : Bool := false
  text : Octets := ""
  indentation : Nat := 0
  /-- That many commands go on in the line in which they stand. -/
  joined : Nat := 0
  /-- The commands belong to others that are joined by operators, after which texts are written. -/
  connections : Nat := 0
  /-- Redirections whose texts are still to be written. -/
  deferred : List Redirect := []
  /-- A text was just written. -/
  afterBody : Bool := false

/-- The blanks before a line. -/
def Sheet.margin (t : Sheet) : Octets :=
  String.ofList (List.replicate (if t.isFlat then min 1 t.indentation else 4 * t.indentation) ' ')

/-- Laying out. -/
abbrev Layout := StateM Sheet

/-- Writes. -/
def put (s : Octets) : Layout Unit := modify fun t => { t with text := t.text ++ s }

/-- Starts a line. -/
def newLine (s : Octets) : Layout Unit := do
  put ("\n" ++ (← get).margin ++ s)

/-- Lays out one level deeper. -/
def deeper (body : Layout Unit) : Layout Unit := do
  modify fun t => { t with indentation := t.indentation + 1 }
  body
  modify fun t => { t with indentation := t.indentation - 1 }

/-- Writes a semicolon, unless a line or a command in the background has just ended. -/
def semicolon : Layout Unit := do
  match (← get).text.toList.getLast? with
  | some '&' | some '\n' => pure ()
  | _ => put ";"

/-- The next command goes on in the line. -/
def join : Layout Unit := modify fun t => { t with joined := t.joined + 1 }

/-- Begins a command, in a new place of the line unless it goes on there. -/
def begin : Layout Unit := do
  let t ← get
  if 0 < t.joined then set { t with joined := t.joined - 1 }
  else put t.margin

/-- Writes the texts of redirections. -/
def putBodies (rs : List Redirect) : Layout Unit := do
  put "\n"
  for r in rs do
    match r.kind with
    | .hereDocument n _ => put ((← get).bodies n ++ endWord r.word ++ "\n")
    | _ => pure ()
  modify fun t => { t with afterBody := true }

/-- Writes an operator, and after it the texts that are still to be written. -/
def putDeferred (operator : Octets) : Layout Unit := do
  put operator
  let rs := (← get).deferred
  if !rs.isEmpty then
    putBodies rs
    if operator ≠ "" then put " "
  modify fun t => { t with deferred := [] }

/-- Writes redirections. -/
def putRedirects (rs : List Redirect) : Layout Unit := do
  modify fun t => { t with afterBody := false }
  put (Octets.join " " (rs.map redirect))
  let documents := rs.filter fun r => match r.kind with | .hereDocument _ _ => true | _ => false
  if !documents.isEmpty then
    if 0 < (← get).connections then modify fun t => { t with deferred := documents }
    else putBodies documents

/-! ## Commands -/

/-- The last of the commands runs in the background. -/
def endsInBackground : Command → Bool
  | .background _ => true
  | .sequence _ _ b => endsInBackground b
  | _ => false

/-- Writes what stands between two commands of a list. There is no semicolon after a text that was just
written, even where a word stands between the two. -/
def putSeparator (byLine : Bool) : Layout Unit := do
  let t ← get
  let line := byLine && t.keepsLines
  if !t.deferred.isEmpty then putDeferred ""
  else if t.afterBody then modify fun t => { t with afterBody := false }
  else if !line then put ";"
  else if t.inFunction then put "\n"
  put (if t.inFunction || line then "\n" else " ")
  if !t.inFunction then join

/-- Lays out commands that are joined. -/
def connected (body : Layout Unit) : Layout Unit := do
  join
  modify fun t => { t with connections := t.connections + 1 }
  body
  modify fun t => { t with connections := t.connections - 1 }

/-- Writes `do`, the body of a loop, and `done`. -/
def putLoop (body : Layout Unit) : Layout Unit := do
  deeper do
    body
    putDeferred ""
  semicolon
  newLine "done"

mutual

/-- Lays out a command. -/
def lay (c : Command) : Layout Unit := do
  begin
  match c with
  | .simple _ ws rs =>
    put (Octets.join " " ws)
    if !rs.isEmpty then
      if !ws.isEmpty then put " "
      putRedirects rs
  | .pipeline cs => connected (layPipeline cs)
  | .negated c =>
    put "! "
    join
    lay c
  | .timed portable c =>
    put (if portable then "time -p " else "time ")
    join
    lay c
  | .andThen a b =>
    connected do
      lay a
      putDeferred " && "
      join
      lay b
      putDeferred ""
  | .orElse a b =>
    connected do
      lay a
      putDeferred " || "
      join
      lay b
      putDeferred ""
  | .sequence byLine a b =>
    connected do
      lay a
      if endsInBackground a then
        put " "
        join
      else putSeparator byLine
      lay b
      putDeferred ""
  | .background c =>
    connected do
      lay c
      putDeferred " &"
  | .group c =>
    put "\x7b "
    if (← get).inFunction then
      put "\n"
      deeper do
        lay c
        putDeferred ""
      newLine "\x7d"
    else
      join
      lay c
      putDeferred ""
      semicolon
      put " \x7d"
  | .subshell _ c =>
    put "( "
    join
    lay c
    putDeferred ""
    put " )"
  | .conditional t yes no =>
    put "if "
    join
    lay t
    semicolon
    put " then\n"
    deeper do
      lay yes
      putDeferred ""
    match no with
    | some c =>
      semicolon
      newLine "else\n"
      deeper do
        lay c
        putDeferred ""
    | none => pure ()
    semicolon
    newLine "fi"
  | .loop untilTrue t body =>
    put (if untilTrue then "until " else "while ")
    join
    lay t
    putDeferred ""
    semicolon
    put " do\n"
    putLoop (lay body)
  | .forEach _ name ws body =>
    put (loopHead "for" name ws ++ ";")
    newLine "do\n"
    putLoop (lay body)
  | .select _ name ws body =>
    put (loopHead "select" name ws ++ ";")
    newLine "do\n"
    putLoop (lay body)
  | .forArithmetic _ a b c body =>
    put ("for ((" ++ a ++ "; " ++ b ++ "; " ++ c ++ "))")
    newLine "do\n"
    putLoop (lay body)
  | .choice _ w clauses =>
    put ("case " ++ w ++ " in ")
    deeper (layClauses clauses)
    newLine "esac"
  | .test _ t => put ("[[ " ++ test t ++ " ]]")
  | .arithmetic _ e => put ("((" ++ e ++ "))")
  | .function _ name _ body =>
    put ("function " ++ name ++ " () \n")
    layDefinition body
  | .coprocess name c =>
    put ("coproc " ++ name ++ " ")
    join
    lay c
  | .redirected c rs =>
    join
    lay c
    put " "
    putRedirects rs

/-- Lays out the commands of a pipeline. -/
def layPipeline : List Command → Layout Unit
  | [] => pure ()
  | c :: cs => do
    lay c
    if cs.isEmpty then putDeferred ""
    else
      putDeferred " |"
      put " "
      join
      layPipeline cs

/-- Lays out the clauses of a choice. -/
def layClauses : List (List Word × Option Command × ClauseEnd) → Layout Unit
  | [] => pure ()
  | (ps, c, e) :: cs => do
    newLine (Octets.join " | " ps ++ ")\n")
    deeper (match c with
      | some c => lay c
      | none => pure ())
    putDeferred ""
    newLine (match e with
      | .stop => ";;"
      | .fallThrough => ";&"
      | .testNext => ";;&")
    layClauses cs

/-- Lays out the body of a function, in braces. -/
def layDefinition (body : Command) : Layout Unit := do
  let before := (← get).inFunction
  put ((← get).margin ++ "\x7b \n")
  modify fun t => { t with inFunction := true }
  match body with
  | .group c => deeper do lay c; putDeferred ""
  | .redirected (.group c) rs =>
    deeper do
      lay c
      putDeferred ""
    modify fun t => { t with inFunction := before }
    newLine "\x7d "
    putRedirects rs
  | c => deeper do lay c; putDeferred ""
  match body with
  | .redirected (.group _) _ => pure ()
  | _ =>
    modify fun t => { t with inFunction := before }
    newLine "\x7d"

end

/-! ## Texts -/

/-- What is laid out. -/
def textOf (s : Sheet) (l : Layout Unit) : Octets := (l.run s).2.text

/-- The text of a command. -/
def command (bodies : Nat → Octets) (c : Command) : Octets := textOf { bodies } (do lay c; putDeferred "")

/-- The text by which a command is known while it runs: the head of a loop or of a choice, or all of any
other command. -/
def heading (bodies : Nat → Octets) (c : Command) : Octets :=
  match c with
  | .forEach _ name ws _ => loopHead "for" name ws
  | .select _ name ws _ => loopHead "select" name ws
  | .choice _ w _ => "case " ++ w ++ " in "
  | c => command bodies c

/-- The text of the commands of a substitution. -/
def substitution (bodies : Nat → Octets) (c : Command) : Octets :=
  textOf { bodies, keepsLines := true } (do lay c; putDeferred "")

/-- The body of a function, in braces. -/
def body (bodies : Nat → Octets) (c : Command) : Octets := textOf { bodies } (layDefinition c)

/-- The body of a function as it is passed on to programs: with small margins, and from the first line on. -/
def flatBody (bodies : Nat → Octets) (c : Command) : Octets :=
  let text := (textOf { bodies, isFlat := true } (layDefinition c)).toList
  String.ofList (text.take 2 ++ text.drop 3)

/-- The text of a function's definition. -/
def function (bodies : Nat → Octets) (name : Octets) (c : Command) : Octets :=
  name ++ " () \n" ++ body bodies c

end ShellCoverage.Shell.Listing
