import ShellCoverage.Shell.Command
import ShellCoverage.Shell.Quoting

/-!
# Reading scripts: characters and words

A script is read character by character. The number of the current line is the number of lines that
were begun, so it changes when the first character of a line is looked at, and not when the line feed
before it is read; commands get their line numbers from it.

* `SyntaxError`, `SyntaxError.messages` : why a script cannot be read;
* `Reader` : the state; `Reads` : an action on it;
* `Reader.next?`, `Reader.peek?` : characters;
* `Reader.quotes`, `Reader.matched` : text up to a closing character;
* `Reader.word` : a word, as it is written.
-/

namespace ShellCoverage.Shell

/-- Why a script cannot be read. -/
inductive SyntaxError where
  /-- A token stands where it must not. -/
  | unexpected (token : Octets) (line : Nat) (text : Octets)
  /-- The script ends inside a command. -/
  | unexpectedEnd (line : Nat)
  /-- The script ends before this closing character. -/
  | unclosed (close : Char) (line : Nat)
  /-- The script ends inside the commands of a substitution. -/
  | unclosedCommands (line : Nat)
  /-- The expression of `[[ … ]]` is wrong, for causes with their lines; `ends` says that the script ends
  before the next line feed. -/
  | badTest (causes : List (Nat × Octets)) (ends : Bool)
  /-- A list of array elements is wrong; only the line that it is in is lost. -/
  | inElements (e : SyntaxError)
  /-- The commands of a substitution are wrong; nothing more is read. -/
  | inCommands (e : SyntaxError)
  /-- A token of the plain language stands where it must not; there may be just one that must stand there. -/
  | misplaced (token : Octets) (expected : Option Octets)
  /-- A word of the plain language must not stand where it is, for some cause. -/
  | badWord (cause : Octets)
  deriving Repr, Inhabited

namespace SyntaxError

/-- A text between the quotes that messages use. -/
def cite (s : Octets) : Octets := "`" ++ s ++ "'"

/-- The messages of an error, each with its line. -/
def messages : SyntaxError → List (Nat × Octets)
  | .unexpected t n text =>
    [(n, "syntax error near unexpected token " ++ cite t), (n, cite text)]
  | .unexpectedEnd n => [(n, "syntax error: unexpected end of file")]
  | .unclosed c n => [(n, "unexpected EOF while looking for matching " ++ cite c.toString)]
  | .unclosedCommands n => [(n, "unexpected EOF while looking for matching " ++ cite ")")]
  | .badTest causes _ => causes
  | .inElements e | .inCommands e => e.messages
  | .misplaced .. | .badWord _ => []

/-- The message of an error in the plain language, which has no line of its own. -/
def plainMessage : SyntaxError → Octets
  | .misplaced t expected =>
    t ++ " unexpected" ++ match expected with
      | some e => " (expecting " ++ e ++ ")"
      | none => ""
  | .badWord cause => cause
  | .unclosed c _ =>
    if c = ')' then "Missing '))'"
    else if c = '`' then "EOF in backquote substitution"
    else if c = '\x7d' then "Missing '\x7d'"
    else "Unterminated quoted string"
  | .inElements e | .inCommands e => e.plainMessage
  | _ => "end of file unexpected (expecting \")\")"

/-- The script is read on after the line with the error. -/
def isLocal : SyntaxError → Bool
  | .inElements _ => true
  | _ => false

/-- The status that an error leads to. -/
def status (e : SyntaxError) : Nat := if e.isLocal then 1 else 2

/-- An error in the commands of a substitution. Their end is one of the script. -/
def inside : SyntaxError → SyntaxError
  | .unexpectedEnd n => .unclosedCommands n
  | .inCommands e => .inCommands e
  | .unclosed c n => .unclosed c n
  | .unclosedCommands n => .unclosedCommands n
  | e => .inCommands e

end SyntaxError

/-- A token. -/
inductive Token where
  | word (w : Word)
  /-- An operator; the line feed is one too. -/
  | op (s : Octets)
  /-- The number of a descriptor before a redirection. -/
  | descriptor (n : Nat)
  /-- A variable for the number of a descriptor before a redirection. -/
  | descriptorName (name : Octets)
  | ending
  deriving DecidableEq, Repr, Inhabited

/-- A text that will follow the current line. -/
structure PendingBody where
  number : Nat
  delimiter : Octets
  dropsTabs : Bool
  expands : Bool
  line : Nat

/-- The shell language that is read. -/
inductive Dialect where
  /-- The full language. -/
  | full
  /-- The language of the plain shell. -/
  | plain
  deriving DecidableEq, Repr, Inhabited

/-- An alias that is being replaced. -/
structure Replacement where
  name : Octets
  /-- The number of characters left after its text. -/
  left : Nat
  /-- The text ends in a blank. -/
  opens : Bool
  deriving Repr, Inhabited

/-- The state of a reader. -/
structure Reader where
  /-- The characters that are left. -/
  rest : List Char
  /-- The number of lines that were begun. -/
  line : Nat := 0
  /-- The next character begins a line. -/
  fresh : Bool := true
  /-- The characters from the beginning of the current line on. -/
  lineStart : List Char := rest
  /-- A token that was read ahead. -/
  lookahead : Option Token := none
  pending : List PendingBody := []
  /-- The texts that were gathered, with their numbers. -/
  bodies : List (Nat × Octets) := []
  nextBody : Nat := 0
  warnings : List (Nat × Octets) := []
  aliases : List (Octets × Octets) := []
  /-- The aliases that are being replaced, the innermost first. -/
  replacing : List Replacement := []
  /-- The text of an alias that ended in a blank was passed: the next word may be an alias too. -/
  opensAlias : Bool := false
  extendedPatterns : Bool := false
  /-- The texts in quotes that ask for a translation. -/
  translated : List Octets := []
  dialect : Dialect := .full
  charset : Charset := .bytes
  /-- The language is that of the standard where the full one differs from it. -/
  standard : Bool := false
  /-- The line of the head of the arithmetic loop that was begun last. -/
  loopLine : Nat := 0
  /-- The line of the brace that begins the body of the function that was begun last. -/
  functionLine : Nat := 0
  /-- The last line has no line feed of its own. -/
  isOpen : Bool := false
  /-- The reader is still inside an expression of `[[ … ]]` that was given up before. -/
  insideTest : Bool := false
  /-- A bound on the number of characters. -/
  budget : Nat := rest.length + 2

instance : Inhabited Reader := ⟨{ rest := [] }⟩

/-- An action of a reader. -/
abbrev Reads := EStateM SyntaxError Reader

namespace Reader

/-- A reader for a script, the first line of which has the number `line + 1`. A line feed is added to
a last line without one. -/
def ofList (cs : List Char) (line : Nat) : Reader :=
  let isOpen := !(cs = [] || cs.getLast? = some '\n')
  { rest := if isOpen then cs ++ ['\n'] else cs, line, isOpen }

/-- The text of a string that ends in a backslash which quotes nothing: there it stands for itself, and the
line goes on. -/
def endingLiterally (cs : List Char) : List Char :=
  if (cs.reverse.takeWhile (· = '\\')).length % 2 = 1 then cs ++ ['\\', '\\', '\n'] else cs

/-- Begins a line if the next character does. -/
def begin (r : Reader) : Reader :=
  if r.fresh then { r with line := r.line + 1, fresh := false, lineStart := r.rest } else r

/-- The next character, which is left where it is. -/
def peek? : Reads (Option Char) := do
  modify begin
  return (← get).rest.head?

/-- The next character. -/
def next? : Reads (Option Char) := do
  modify begin
  match (← get).rest with
  | [] => return none
  | c :: cs =>
    modify fun r =>
      let isReplaced := r.dialect = .full && r.replacing.any fun p => p.left ≤ cs.length
      { r with rest := cs, fresh := c = '\n' && !isReplaced }
    return some c

/-- Skips the next character. -/
def skip : Reads Unit := discard next?

/-- The number of the line that the next character belongs to; at the end of a text without a line feed it is that of
the last line. -/
def nextLine (r : Reader) : Nat :=
  if r.isOpen && r.rest = [] then (if r.fresh then r.line else r.line - 1)
  else if r.fresh then r.line + 1
  else r.line

/-- The words that have a meaning of their own in the plain language. -/
def plainKeywords : List Octets :=
  ["!", "case", "do", "done", "elif", "else", "esac", "fi", "for", "if", "in", "then", "until", "while", "\x7b",
    "\x7d"]

/-- How messages of the plain shell name a token. -/
def named : Token → Octets
  | .word w => if plainKeywords.elem w then "\"" ++ w ++ "\"" else "word"
  | .op "\n" => "newline"
  | .op o => if ["<", ">", ">|", ">>", "<>", "<&", ">&", "<<", "<<-"].elem o then "redirection" else "\"" ++ o ++ "\""
  | .descriptor _ | .descriptorName _ => "redirection"
  | .ending => "end of file"

/-- The text of the current line. -/
def lineText (r : Reader) : Octets := String.ofList (r.lineStart.takeWhile (· ≠ '\n'))

/-- How a message shows a token. -/
def cited : Token → Octets
  | .word w => w
  | .op "\n" => "newline"
  | .op o => o
  | .descriptor n => Octets.ofNat n
  | .descriptorName n => n
  | .ending => "newline"

/-- Fails at a token. -/
def unexpected {α : Type} (t : Octets) : Reads α := do
  let r ← get
  throw (.unexpected t r.line r.lineText)

/-! ## Quoted text -/

/-- What text is closed by. -/
inductive Closer where
  /-- A double quote. -/
  | double
  /-- A backquote. -/
  | back
  /-- A brace, perhaps inside double quotes. -/
  | brace (quoted : Bool)
  /-- A parenthesis that matches. -/
  | paren
  /-- A bracket that matches. -/
  | bracket
  deriving DecidableEq, Repr

/-- The closing character. -/
def Closer.char : Closer → Char
  | .double => '"'
  | .back => '`'
  | .brace _ => '\x7d'
  | .paren => ')'
  | .bracket => ']'

/-- Single quotes have a meaning. For the plain shell they have none between braces inside double
quotes. -/
def Closer.knowsSingle (d : Dialect) : Closer → Bool
  | .double | .back => false
  | .brace true => d = .full
  | _ => true

/-- The text inside single quotes, the closing quote included. The characters read so far are given
in reverse order. -/
def singleQuotes (start : Nat) : Nat → List Char → Reads (List Char)
  | 0, _ => throw (.unclosed '\'' start)
  | n + 1, acc => do
    match ← next? with
    | none => throw (.unclosed '\'' start)
    | some c => if c = '\'' then return c :: acc else singleQuotes start n (c :: acc)

/-- The same where a backslash takes the next character along. -/
def escapedQuotes (start : Nat) : Nat → List Char → Reads (List Char)
  | 0, _ => throw (.unclosed '\'' start)
  | n + 1, acc => do
    match ← next? with
    | none => throw (.unclosed '\'' start)
    | some '\\' =>
      match ← next? with
      | none => throw (.unclosed '\'' start)
      | some c => escapedQuotes start n (c :: '\\' :: acc)
    | some c => if c = '\'' then return c :: acc else escapedQuotes start n (c :: acc)

/-- Skips a comment up to the end of its line. -/
def comment : Nat → Reads Unit
  | 0 => pure ()
  | n + 1 => do
    match ← peek? with
    | none => pure ()
    | some '\n' => pure ()
    | some _ => skip; comment n

/-- Text inside single quotes, after the opening quote. -/
def single (acc : List Char) : Reads (List Char) := do
  let r ← get
  singleQuotes r.line r.budget acc

/-- Text inside quotes with escapes, after the opening quote. -/
def escaped (acc : List Char) : Reads (List Char) := do
  let r ← get
  escapedQuotes r.line r.budget acc

/-- What text inside quotes with escapes stands for, after the opening quote. -/
def unescaped : Reads Octets := do
  let cs ← escaped []
  return String.ofList (Quoting.word (← get).charset cs.tail.reverse)

/-- The text after `${` replaces, cuts or changes what matches a pattern. -/
def takesPattern (cs : List Char) : Bool :=
  match (cs.drop 1).find? fun c => "#%^,~:-=?+/".toList.elem c with
  | some c => "#%^,/".toList.elem c
  | none => false

/-- Text inside quotes with escapes, between characters that a closer ends, after the opening quote: it
is put between plain quotes, unless they have no effect there. The characters read so far are given in
reverse order. -/
def unescapedInside (k : Closer) (acc : List Char) : Reads (List Char) := do
  let s ← unescaped
  let isRaw : Bool := match k with
    | .brace true => !takesPattern (acc.takeWhile (· ≠ '\x7b')).reverse
    | _ => false
  return (if isRaw then s else Quoting.single s).toList.reverse ++ acc

/-- The commands of a substitution up to its closing parenthesis, which is read too. They are checked
here and kept as text, the one that they are given or else the one that was read; texts that follow
their lines belong to them. -/
def commands (inner : Reads (Option (List Char))) (acc : List Char) : Reads (List Char) := do
  let r ← get
  set { r with lookahead := none, pending := [], aliases := [] }
  let text ← tryCatch inner fun e => throw e.inside
  let s ← get
  match s.lookahead with
  | some (.op ")") =>
    set { s with
      lookahead := none
      pending := r.pending
      aliases := r.aliases
      bodies := r.bodies
      nextBody := r.nextBody }
    match text with
    | some cs => return ')' :: cs.reverse ++ acc
    | none => return (r.rest.take (r.rest.length - s.rest.length)).reverse ++ acc
  | some .ending | none => throw (.unclosedCommands s.line)
  | some t =>
    throw (.inCommands (if s.dialect = .plain then .misplaced (named t) (some "\")\"")
      else .unexpected (cited t) s.line s.lineText))

/-- Notes the text of the double quotes that come next, given how to read what is inside. -/
def noteTranslated (inside : Reads (List Char)) : Reads Unit := do
  let r ← get
  skip
  let text ← inside
  set { r with translated := r.translated ++ [String.ofList text.tail.reverse] }

/-- Text up to and with its closing character, with all that is quoted or substituted inside. -/
def matched (inner : Reads (Option (List Char))) (start : Nat) : Nat → Closer → List Char → Reads (List Char)
  | 0, k, _ => throw (.unclosed k.char start)
  | n + 1, k, acc => do
    match ← next? with
    | none =>
      let inDouble := (← get).dialect = .plain && k = .brace true
      throw (.unclosed (if inDouble then '"' else k.char) start)
    | some c =>
      let d := (← get).dialect
      if c = k.char then return c :: acc
      else if c = '\\' then
        match ← next? with
        | none => throw (.unclosed k.char start)
        | some d => matched inner start n k (d :: '\\' :: acc)
      else if k = .back then matched inner start n k (c :: acc)
      else if c = '"' then do
        matched inner start n k (← matched inner (← get).line n .double (c :: acc))
      else if c = '\'' && k.knowsSingle d then do
        matched inner start n k (← single (c :: acc))
      else if c = '`' then do
        matched inner start n k (← matched inner (← get).line n .back (c :: acc))
      else if c = '$' then
        match ← peek? with
        | some '(' => do
          skip
          if (← get).rest.head? = some '(' then
            matched inner start n k (← matched inner (← get).line n .paren ('(' :: '$' :: acc))
          else
            matched inner start n k (← commands inner ('(' :: '$' :: acc))
        | some '\x7b' => do
          skip
          let quoted := match k with | .double | .brace true => true | _ => false
          matched inner start n k
            (← matched inner (← get).line n (.brace quoted) ('\x7b' :: '$' :: acc))
        | some '\'' =>
          if k.knowsSingle d && d = .full then do
            skip
            matched inner start n k (← unescapedInside k acc)
          else matched inner start n k (c :: acc)
        | some '"' =>
          if k = .double || d = .plain then matched inner start n k (c :: acc)
          else do
            noteTranslated (matched inner (← get).line n .double [])
            matched inner start n k acc
        | some '[' => do
          if (← get).dialect = .full then
            skip
            matched inner start n k (← matched inner (← get).line n .bracket ('[' :: '$' :: acc))
          else matched inner start n k (c :: acc)
        | _ => matched inner start n k (c :: acc)
      else if c = '(' && k = .paren then do
        matched inner start n k (← matched inner (← get).line n .paren (c :: acc))
      else if c = '[' && k = .bracket then do
        matched inner start n k (← matched inner (← get).line n .bracket (c :: acc))
      else matched inner start n k (c :: acc)

/-- Text after an opening character, up to and with the closing one. -/
def quotes (inner : Reads (Option (List Char))) (k : Closer) (acc : List Char) : Reads (List Char) := do
  let r ← get
  matched inner r.line r.budget k acc

/-! ## Words -/

/-- A character that ends a word. -/
def isMeta (c : Char) : Bool :=
  c = ' ' || c = '\t' || c = '\n' || c = ';' || c = '&' || c = '|' || c = '(' || c = ')' ||
    c = '<' || c = '>'

/-- How a word is read. -/
structure WordMode where
  /-- An assignment of array elements may stand here. -/
  assignable : Bool := false
  /-- Parentheses and bars belong to the word, as in a regular expression. -/
  regular : Bool := false
  /-- The word is an element of a list, and may begin with a subscript. -/
  element : Bool := false

/-- Characters that are the left side of an assignment, up to and with the equals sign. -/
def isAssignmentHead (cs : List Char) : Bool :=
  match cs.getLast? with
  | some '=' =>
    let left := cs.dropLast
    let left := if left.getLast? = some '+' then left.dropLast else left
    let name := left.takeWhile Octets.isNameChar
    Octets.isNameList name &&
      (match left.drop name.length with
      | [] => true
      | '[' :: r => r.getLast? = some ']'
      | _ => false)
  | _ => false

/-- The rest of a word; the characters read so far are given in reverse order. The elements of an array
are read by an action of their own. -/
def wordRest (inner : Reads (Option (List Char))) (elements : List Char → Reads (List Char)) (m : WordMode) :
    Nat → List Char → Reads (List Char)
  | 0, acc => return acc
  | n + 1, acc => do
    match ← peek? with
    | none => return acc
    | some c =>
      let r ← get
      let second := r.rest.tail.head?
      if c = '\\' then do
        skip
        match ← next? with
        | none => return '\\' :: acc
        | some '\n' => wordRest inner elements m n acc
        | some d => wordRest inner elements m n (d :: '\\' :: acc)
      else if c = '\'' then do
        skip
        wordRest inner elements m n (← single (c :: acc))
      else if c = '"' then do
        skip
        wordRest inner elements m n (← quotes inner .double (c :: acc))
      else if c = '`' then do
        skip
        wordRest inner elements m n (← quotes inner .back (c :: acc))
      else if c = '$' then do
        skip
        match ← peek? with
        | some '(' => do
          skip
          if (← get).rest.head? = some '(' then
            wordRest inner elements m n (← quotes inner .paren ('(' :: '$' :: acc))
          else
            wordRest inner elements m n (← commands inner ('(' :: '$' :: acc))
        | some '\x7b' => do
          skip
          wordRest inner elements m n (← quotes inner (.brace false) ('\x7b' :: '$' :: acc))
        | some '\'' =>
          if r.dialect = .full then do
            skip
            wordRest inner elements m n ((Quoting.single (← unescaped)).toList.reverse ++ acc)
          else wordRest inner elements m n (c :: acc)
        | some '"' =>
          if r.dialect = .full then do
            noteTranslated (quotes inner .double [])
            wordRest inner elements m n acc
          else wordRest inner elements m n (c :: acc)
        | some '[' =>
          if r.dialect = .full then do
            skip
            wordRest inner elements m n (← quotes inner .bracket ('[' :: '$' :: acc))
          else wordRest inner elements m n (c :: acc)
        | _ => wordRest inner elements m n (c :: acc)
      else if (c = '<' || c = '>') && second = some '(' && r.dialect = .full then do
        skip
        skip
        wordRest inner elements m n (← commands inner ('(' :: c :: acc))
      else if second = some '(' && r.extendedPatterns &&
          (c = '?' || c = '*' || c = '+' || c = '@' || c = '!') then do
        skip
        skip
        wordRest inner elements m n (← quotes inner .paren ('(' :: c :: acc))
      else if c = '[' && r.dialect = .full &&
          ((m.assignable && Octets.isNameList acc.reverse) || (m.element && acc = [])) then do
        skip
        wordRest inner elements m n (← quotes inner .bracket (c :: acc))
      else if c = '(' && m.assignable && r.dialect = .full && isAssignmentHead acc.reverse then do
        skip
        wordRest inner elements m n (← elements (c :: acc))
      else if m.regular && c = '(' then do
        skip
        wordRest inner elements m n (← quotes inner .paren (c :: acc))
      else if m.regular && c = '|' then do
        skip
        wordRest inner elements m n (c :: acc)
      else if isMeta c then return acc
      else do
        skip
        wordRest inner elements m n (c :: acc)

/-! ## Tokens -/

/-- The operators, longer ones before those they begin with. -/
def operators : List Octets :=
  [";;&", "&>>", "<<<", "<<-", "&&", "||", ";;", ";&", "<<", "<&", "<>", ">>", ">&", ">|", "&>", "|&",
    "|", "&", ";", "<", ">", "(", ")"]

/-- The operators of the plain shell. -/
def plainOperators : List Octets :=
  ["<<-", "&&", "||", ";;", "<<", "<&", "<>", ">>", ">&", ">|", "|", "&", ";", "<", ">", "(", ")"]

/-- Skips blanks, continued lines and a comment. -/
def blanks : Nat → Reads Unit
  | 0 => pure ()
  | n + 1 => do
    match ← peek? with
    | some '#' => comment n
    | some '\\' =>
      match (← get).rest with
      | '\\' :: '\n' :: _ => skip; skip; blanks n
      | _ => pure ()
    | some c => if Octets.isBlank c then do skip; blanks n else pure ()
    | none => pure ()

/-- A line of a text, with the lines that a backslash joins to it if `joins` is set. -/
def bodyLine (joins : Bool) : Nat → List Char → Reads (Option (List Char))
  | 0, acc => return some acc
  | n + 1, acc => do
    match ← next? with
    | none => return if acc = [] then none else some acc
    | some '\n' => return some ('\n' :: acc)
    | some '\\' =>
      if joins then
        match ← peek? with
        | some '\n' => skip; bodyLine joins n acc
        | some '\\' => skip; bodyLine joins n ('\\' :: '\\' :: acc)
        | _ => bodyLine joins n ('\\' :: acc)
      else bodyLine joins n ('\\' :: acc)
    | some c => bodyLine joins n (c :: acc)

/-- The lines of a text up to its delimiter. -/
def bodyLines (p : PendingBody) : Nat → List (List Char) → Reads (List (List Char))
  | 0, acc => return acc
  | n + 1, acc => do
    let before := (← get).line
    match ← bodyLine p.expands (← get).budget [] with
    | none =>
      modify fun r =>
        let warning := "warning: here-document at line " ++ Octets.ofNat p.line ++
          " delimited by end-of-file (wanted " ++ SyntaxError.cite p.delimiter ++ ")"
        let warnings := if r.dialect = .full then [(before, warning)] else []
        { r with line := before, fresh := true, warnings := r.warnings ++ warnings }
      return acc
    | some l =>
      let l := l.reverse
      let l := if p.dropsTabs then l.dropWhile (· = '\t') else l
      if l = p.delimiter.toList ++ ['\n'] || l = p.delimiter.toList then return acc
      else bodyLines p n (l :: acc)

/-- Gathers the texts that follow the line that has just ended. -/
def gather : Nat → Reads Unit
  | 0 => pure ()
  | n + 1 => do
    match (← get).pending with
    | [] => pure ()
    | p :: ps =>
      modify fun r => { r with pending := ps }
      let ls ← bodyLines p (← get).budget []
      let text := String.ofList (ls.reverse.flatten)
      modify fun r => { r with bodies := r.bodies ++ [(p.number, text)] }
      gather n

/-- The operator at the head of some characters. -/
def operatorAt? (d : Dialect) (cs : List Char) : Option Octets :=
  (if d = .full then operators else plainOperators).find? fun o => o.toList.isPrefixOf cs

/-- The characters name a variable or an element of one. -/
def isReference (cs : List Char) : Bool :=
  let name := cs.takeWhile Octets.isNameChar
  Octets.isNameList name &&
    match cs.drop name.length with
    | [] => true
    | '[' :: c :: r => (c :: r).getLast? = some ']' && 1 < (c :: r).length
    | _ => false

/-- The token for the characters of a word that are followed by `c`. -/
def wordToken (cs : List Char) (c : Option Char) : Token :=
  let redirects := c = some '<' || c = some '>'
  if redirects && cs.all Char.isDigit then .descriptor (Octets.ofDigits cs)
  else
    match cs with
    | '\x7b' :: r =>
      if redirects && r.getLast? = some '\x7d' && isReference r.dropLast then
        .descriptorName (String.ofList r.dropLast)
      else .word (String.ofList cs)
    | _ => .word (String.ofList cs)

/-- Reads a token, given how the elements of an array are read. -/
def scanTokenWith (inner : Reads (Option (List Char))) (elements : List Char → Reads (List Char)) (m : WordMode) :
    Reads Token := do
  blanks (← get).budget
  match ← peek? with
  | none => return .ending
  | some '\n' =>
    skip
    gather ((← get).pending.length)
    return .op "\n"
  | some c =>
    let r ← get
    let substitutes := (c = '<' || c = '>') && r.rest.tail.head? = some '(' && r.dialect = .full
    let groups := m.regular && (c = '(' || c = '|')
    match (if substitutes || groups then none else operatorAt? r.dialect r.rest) with
    | some o =>
      modify fun r => { r with rest := r.rest.drop o.length }
      return .op o
    | none =>
      let cs ← wordRest inner elements m r.budget []
      return wordToken cs.reverse (← peek?)

/-- The elements of an array up to the closing parenthesis, after the opening one, as text with blanks
between them; those read so far are given in reverse order. -/
def elementsRest (inner : Reads (Option (List Char))) (start : Nat) : Nat → List Word → Reads (List Char)
  | 0, _ => throw (.inElements (.unclosed ')' start))
  | n + 1, ws => do
    let scan := scanTokenWith inner pure { element := true }
    let t ← tryCatch scan fun e =>
      match e with
      | .inCommands e => throw (.inCommands e)
      | e => throw (.inElements e)
    match t with
    | .word w => elementsRest inner start n (w :: ws)
    | .op "\n" => elementsRest inner start n ws
    | .op ")" => return (Octets.join " " ws.reverse ++ ")").toList
    | .ending => throw (.inElements (.unclosed ')' start))
    | t =>
      let r ← get
      throw (.inElements (.unexpected (cited t) r.line r.lineText))

/-- The elements of an array after the opening parenthesis; the characters read so far are given in
reverse order. -/
def elements (inner : Reads (Option (List Char))) (acc : List Char) : Reads (List Char) := do
  let r ← get
  return (← elementsRest inner r.line r.budget []).reverse ++ acc

/-- Reads a token. -/
def scanToken (inner : Reads (Option (List Char))) (m : WordMode) : Reads Token :=
  scanTokenWith inner (elements inner) m

/-- The next token, which is left where it is. -/
def peekToken (inner : Reads (Option (List Char))) (m : WordMode) : Reads Token := do
  match (← get).lookahead with
  | some t => return t
  | none =>
    let t ← scanToken inner m
    modify fun r => { r with lookahead := some t }
    return t

/-- Drops the token that was read ahead. -/
def dropToken : Reads Unit := modify fun r => { r with lookahead := none }

/-- The next token. -/
def nextToken (inner : Reads (Option (List Char))) (m : WordMode) : Reads Token := do
  let t ← peekToken inner m
  dropToken
  return t

/-- Fails at a token where another one may have to stand. -/
def rejectFor {α : Type} (expected : Option Octets) (t : Token) : Reads α := do
  if (← get).dialect = .plain then throw (.misplaced (named t) expected)
  match t with
  | .ending => throw (.unexpectedEnd (← get).line)
  | t => unexpected (cited t)

/-- Fails at a token. -/
def reject {α : Type} (t : Token) : Reads α := rejectFor none t

end Reader

end ShellCoverage.Shell
