import ShellCoverage.Shell.Program.Rules.Value
import ShellCoverage.Table

/-!
# Scripts of rules

A script is a list of rules. A rule has a pattern, which chooses records of the input, and an action.

A script is read as a list of tokens, each with the number of its line. Line feeds count where they end a
statement. A slash begins an expression to search for unless a value stands before it, and a statement before a
closing brace is ended.

* `Rules.Expression`, `Rules.Statement` : what actions are made of;
* `Rules.Rule`, `Rules.Script` : patterns with actions, and functions;
* `Rules.Token`, `Rules.Lexeme` : a token, and a token in its line;
* `Rules.lexemes` : the tokens of a script.
-/

namespace ShellCoverage.Shell.Rules

/-! ## Rules for records -/

/-- A variable: of the script, or the parameter of a function with some number. -/
inductive Variable where
  | global (name : Octets)
  | parameter (i : Nat)
  deriving DecidableEq, Repr, Inhabited

/-- The operations on numbers. -/
inductive Arithmetic where
  | add
  | subtract
  | multiply
  | divide
  | remainder
  | power
  deriving DecidableEq, Repr

/-- An expression. -/
inductive Expression where
  | number (x : Float)
  | text (s : Octets)
  /-- An expression to search for, as it is written. -/
  | pattern (s : Octets)
  | variable (v : Variable)
  | element (v : Variable) (subscripts : List Expression)
  | field (e : Expression)
  | assign (target : Expression) (operation : Option Arithmetic) (e : Expression)
  /-- Adds a number to a variable; the value is that before or after it. -/
  | step (target : Expression) (amount : Int) (before : Bool)
  | conditional (c a b : Expression)
  | or (a b : Expression)
  | and (a b : Expression)
  | not (e : Expression)
  | negate (e : Expression)
  | affirm (e : Expression)
  | isIn (subscripts : List Expression) (v : Variable)
  | matching (negated : Bool) (e pattern : Expression)
  | compare (c : Comparison) (a b : Expression)
  | concatenate (a b : Expression)
  | compute (o : Arithmetic) (a b : Expression)
  | call (name : Octets) (args : List Expression)
  | builtin (name : Octets) (args : List Expression)
  /-- Takes a record of the input. -/
  | read (target : Option Expression)
  | readFile (path : Expression) (target : Option Expression)
  | readCommand (command : Expression) (target : Option Expression)
  /-- An expression in parentheses. -/
  | grouped (e : Expression)
  deriving Inhabited

/-- Where a statement writes to. -/
inductive Sink where
  | standard
  | file (path : Expression)
  | atEnd (path : Expression)
  | command (text : Expression)
  deriving Inhabited

/-- A statement. -/
inductive Statement where
  | block (ss : List Statement)
  | evaluate (e : Expression)
  | print (args : List Expression) (sink : Sink)
  | format (args : List Expression) (sink : Sink)
  | choose (c : Expression) (yes : Statement) (no : Option Statement)
  | whileLoop (c : Expression) (body : Statement)
  | untilLoop (body : Statement) (c : Expression)
  | forLoop (start : Statement) (c : Option Expression) (step : Statement) (body : Statement)
  | forKeys (key : Variable) (v : Variable) (body : Statement)
  | leave
  | proceed
  | nextRecord
  | nextFile
  | exit (status : Option Expression)
  | giveBack (e : Option Expression)
  | deleteAll (v : Variable)
  | delete (v : Variable) (subscripts : List Expression)
  deriving Inhabited

/-- Which records a rule is for. -/
inductive Choice where
  | atStart
  | atEnd
  | every
  | matching (e : Expression)
  | range (first last : Expression)
  deriving Inhabited

/-- A rule: without an action, the record is printed. -/
structure Rule where
  choice : Choice
  action : Option Statement
  deriving Inhabited

/-- A function: the number of its parameters, and its body. -/
structure Function where
  parameters : List Octets
  body : Statement
  deriving Inhabited

/-- A script. -/
structure Script where
  rules : List Rule := []
  functions : Table Octets Function := []
  deriving Inhabited

/-! ## The words of scripts -/

/-- A token. -/
inductive Token where
  | number (x : Float) (shown : Octets)
  | text (s : Octets)
  | pattern (s : Octets)
  | name (s : Octets)
  /-- A name with an opening parenthesis right behind it. -/
  | called (s : Octets)
  /-- The name of a function that is always there. -/
  | builtin (s : Octets)
  | keyword (s : Octets)
  | mark (s : Octets)
  /-- A semicolon that is not written. -/
  | impliedEnd
  | lineEnd
  | scriptEnd
  /-- What cannot be read, with a message about it. -/
  | wrong (message : Octets)
  deriving Inhabited

/-- The token is some mark. -/
def Token.isMark (t : Token) (s : Octets) : Bool := match t with | .mark m => m = s | _ => false

/-- The token is some keyword. -/
def Token.isKeyword (t : Token) (s : Octets) : Bool := match t with | .keyword m => m = s | _ => false

/-- How messages show a token. -/
def Token.shown : Token → Octets
  | .number _ s | .name s | .called s | .builtin s | .keyword s | .mark s => s
  | .text s => s
  | .pattern s => "/" ++ s ++ "/"
  | .impliedEnd => "\x7d"
  | .lineEnd => "end of line"
  | .scriptEnd => "end of file"
  | .wrong s => s

/-- A token, and the number of its line. -/
structure Lexeme where
  token : Token
  line : Nat
  deriving Inhabited

/-- The words of the language. -/
def keywords : List Octets :=
  ["BEGIN", "END", "if", "else", "while", "do", "for", "in", "break", "continue", "next", "nextfile", "exit",
    "return", "delete", "getline", "print", "printf", "function", "func"]

/-- The functions that are always there. -/
def builtins : List Octets :=
  ["length", "substr", "index", "split", "sub", "gsub", "match", "sprintf", "sin", "cos", "atan2", "exp", "log",
    "sqrt", "int", "rand", "srand", "system", "close", "fflush", "tolower", "toupper", "systime", "strftime",
    "mktime"]

/-- The marks, longer ones before their heads. -/
def marks : List Octets :=
  ["||", "&&", "==", "!=", "<=", ">=", ">>", "++", "--", "+=", "-=", "*=", "/=", "%=", "^=", "!~", "\x7b", "\x7d",
    "(", ")", "[", "]", ";", ",", "+", "-", "*", "/", "%", "^", "!", ">", "<", "|", "?", ":", "~", "$", "="]

/-- A value stands before what follows this token. -/
def Token.isValue : Token → Bool
  | .number _ _ | .text _ | .pattern _ | .name _ => true
  | .mark m => m = ")" || m = "]" || m = "++" || m = "--"
  | .keyword k => k = "getline"
  | _ => false

/-- Line feeds do not count after this token. -/
def Token.goesOn : Token → Bool
  | .mark m => ["\x7b", "\x7d", "||", "&&", ",", ";"].elem m
  | .keyword k => k = "else" || k = "do"
  | .lineEnd => true
  | _ => false

/-- The statement before a closing brace is ended if this token is the last one. -/
def Token.endsStatement : Token → Bool
  | .mark m => m = ";" || m = "\x7d"
  | .lineEnd | .impliedEnd => true
  | _ => false

/-! ## Parts of tokens -/

/-- The characters of a text in quotes, from those that are written. -/
def unescaped : Nat → List Char → List Char
  | 0, _ => []
  | _, [] => []
  | n + 1, '\\' :: r =>
    match written? r, r with
    | some (c, rest), _ => c :: unescaped n rest
    | none, c :: rest =>
      match if c = '/' then none else escaped? c with
      | some d => d :: unescaped n rest
      | none => '\\' :: c :: unescaped n rest
    | none, [] => ['\\']
  | n + 1, c :: r => c :: unescaped n r

/-- What is written up to a delimiter on the same line, and what follows that; a backslash protects the next
character, and before a line feed it goes on to the next line. -/
def quoted? (delimiter : Char) : List Char → List Char → Option (List Char × List Char)
  | [], _ => none
  | '\\' :: '\n' :: r, acc => quoted? delimiter r acc
  | '\\' :: c :: r, acc =>
    if c = delimiter && c = '/' then quoted? delimiter r (c :: acc) else quoted? delimiter r (c :: '\\' :: acc)
  | c :: r, acc =>
    if c = delimiter then some (acc.reverse, r)
    else if c = '\n' then none
    else quoted? delimiter r (c :: acc)

/-- The number at the head of some characters, how it is written, and what follows. -/
def literal (cs : List Char) : Float × List Char × List Char :=
  let (n, places, _, rest) := Floating.mantissa 10 Floating.decimalDigit? cs
  let (e, rest) := Floating.exponent ['e', 'E'] rest
  (Float.ofBits (Decimal.Literal.magnitude n (e - places)).toBits, cs.take (cs.length - rest.length), rest)

/-! ## Tokens -/

/-- What was read so far: the last token, the number of the line, and how many braces and parentheses are
open. -/
structure Cursor where
  last : Token := .lineEnd
  line : Nat := 1
  braces : Nat := 0
  parentheses : Nat := 0

/-- The cursor after a token. -/
def Cursor.after (c : Cursor) (t : Token) : Cursor :=
  { c with
    last := t
    braces := if t.isMark "\x7b" then c.braces + 1 else if t.isMark "\x7d" then c.braces - 1 else c.braces
    parentheses :=
      if t.isMark "(" then c.parentheses + 1 else if t.isMark ")" then c.parentheses - 1
      else c.parentheses }

/-- The next token that is not a mark, and what follows it. -/
def wordAt (last : Token) (line : Nat) (cs : List Char) : Option (Token × List Char) :=
  match cs with
  | '"' :: r =>
    match quoted? '"' r [] with
    | some (s, rest) => some (.text (String.ofList (unescaped (s.length + 1) s)), rest)
    | none =>
      let head := r.takeWhile (· ≠ '\n')
      some (.wrong ("runaway string constant \"" ++ String.ofList (head.take 10) ++ " ..."), r.drop head.length)
  | '/' :: r =>
    if last.isValue then none
    else
      match quoted? '/' r [] with
      | some (s, rest) => some (.pattern (String.ofList s), rest)
      | none =>
        let head := r.takeWhile (· ≠ '\n')
        some (.wrong ("runaway regular expression /" ++ String.ofList (head.take 10) ++ " ..."),
          r.drop head.length)
  | c :: r =>
    if c.isDigit || (c = '.' && r.head?.any Char.isDigit) then
      let (x, shown, rest) := literal (c :: r)
      some (.number x (String.ofList shown), rest)
    else if Octets.isNameStart c then
      let name := (c :: r).takeWhile Octets.isNameChar
      let rest := (c :: r).drop name.length
      let s := String.ofList name
      some (if keywords.elem s then .keyword s
        else if builtins.elem s then .builtin s
        else if rest.head? = some '(' then .called s else .name s, rest)
    else if marks.any fun m => m.toList.isPrefixOf (c :: r) then none
    else some (.wrong (Octets.ofNat line ++ ": unexpected character '" ++ c.toString ++ "'"), r)
  | [] => none

/-- The mark at the head of some characters, and what follows it. -/
def markAt? (cs : List Char) : Option (Octets × List Char) :=
  (marks.find? fun m => m.toList.isPrefixOf cs).map fun m => (m, cs.drop m.length)

/-- The tokens of a script, of which so many characters are read. -/
def lexemesFrom : Nat → Cursor → List Char → List Lexeme
  | 0, c, _ => [⟨.scriptEnd, c.line⟩]
  | _, c, [] => [⟨.scriptEnd, c.line⟩]
  | n + 1, c, '\n' :: r =>
    let next := { c with line := c.line + 1 }
    if c.last.goesOn then lexemesFrom n next r
    else ⟨.lineEnd, c.line⟩ :: lexemesFrom n { next with last := .lineEnd } r
  | n + 1, c, '\\' :: '\n' :: r => lexemesFrom n { c with line := c.line + 1 } r
  | n + 1, c, ch :: r =>
    if ch = ' ' || ch = '\t' || ch = '\r' || ch = '\x0c' || ch = '\x0b' then lexemesFrom n c r
    else if ch = '#' then lexemesFrom n c (r.dropWhile (· ≠ '\n'))
    else
      match wordAt c.last c.line (ch :: r) with
      | some (t, rest) =>
        ⟨t, c.line⟩ :: lexemesFrom n { c.after t with line := c.line + feeds (ch :: r) rest } rest
      | none =>
        match markAt? (ch :: r) with
        | none => lexemesFrom n c r
        | some (m, rest) =>
          if m = "\x7d" && c.braces = 0 then ⟨.wrong "extra '\x7d'", c.line⟩ :: lexemesFrom n { c with last := .number 0 "" } rest
          else if m = ")" && c.parentheses = 0 then ⟨.wrong "extra ')'", c.line⟩ :: lexemesFrom n { c with last := .number 0 "" } rest
          else if m = "\x7d" && !c.last.endsStatement then
            ⟨.impliedEnd, c.line⟩ :: lexemesFrom n { c with last := .impliedEnd } (ch :: r)
          else ⟨.mark m, c.line⟩ :: lexemesFrom n (c.after (.mark m)) rest
where
  /-- The number of line feeds that were read on the way to the rest. -/
  feeds (cs rest : List Char) : Nat := ((cs.take (cs.length - rest.length)).filter (· = '\n')).length

/-- The tokens of a script. -/
def lexemes (script : Octets) : List Lexeme := lexemesFrom (2 * script.length + 2) {} script.toList

end ShellCoverage.Shell.Rules
