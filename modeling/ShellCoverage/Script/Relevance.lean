import ShellCoverage.FileSystem.Lookup
import ShellCoverage.Text.CodePoint

/-!
# Relevant lines

A line of a script is relevant if it can show up in a trace. Some lines never do, whatever stands around them: blank
lines, comments, lines made of one structural word, and the headers of function definitions. One scan over the lines
decides: such lines, the bodies of heredocs, and lines that continue the line before them are not relevant.

An operator of a heredoc is `<<` with no further `<` on either side, then `-` or nothing, blanks, and a name: plain, or
between two equal quotes. The leftmost operator of a line is found by trying each place in turn. Nothing needs to be
tried twice at one place: a name ends where its characters end, and a quote cannot begin a name.

* `Script.structuralWords` : the words that stand alone;
* `Script.isFunctionHeader` : `function name`, `name ( )` or `function name ( )`, then perhaps a brace;
* `Script.isInert` : a line, without blanks around it, that has no command;
* `Heredoc.operatorAt?` : the operator at the head of a text;
* `Heredoc.find?` : the leftmost operator of a line; `Heredoc.closes` : a line that ends the body;
* `Script.Scan`, `Script.Scan.next` : the state between lines, and one line;
* `Script.relevance` : a flag for each line;
* `Script.relevantLines`, `Script.irrelevantLines` : their numbers, from 1;
* `Script.readLines` : the lines of a file.
-/

namespace ShellCoverage.Script

/-! ## Lines without commands -/

/-- The words that are no commands when they stand alone in a line. -/
def structuralWords : List Text :=
  ["esac", "if", "then", "else", "elif", "fi", "while", "until", "do", "done", "\x7b", "\x7d", "(",
    ")", ";;"]

/-- A character of a function's name. -/
def isNameChar (c : CodePoint) : Bool :=
  c.isWord || c = CodePoint.ofChar '.' || c = CodePoint.ofChar ':' || c = CodePoint.ofChar '-'

/-- The text without blanks at its head. -/
def skipBlanks (t : Text) : Text := t.dropWhile CodePoint.isBlank

/-- What follows a name at the head of a text. -/
def afterName? (t : Text) : Option Text :=
  if t.takeWhile isNameChar = [] then none else some (t.dropWhile isNameChar)

/-- What follows one character at the head of a text. -/
def afterChar? (c : Char) : Text → Option Text
  | [] => none
  | x :: t => if x = CodePoint.ofChar c then some t else none

/-- What follows a pair of parentheses, with any blanks before and inside. -/
def afterParens? (t : Text) : Option Text :=
  (afterChar? '(' (skipBlanks t)).bind fun t => afterChar? ')' (skipBlanks t)

/-- Nothing but blanks and at most one brace. -/
def isHeaderEnd (t : Text) : Bool :=
  let t := skipBlanks t
  skipBlanks ((afterChar? '\x7b' t).getD t) = []

/-- The keyword before a function's name. -/
def functionWord : Text := "function"

/-- A header that starts with the keyword. -/
def isKeywordHeader (t : Text) : Bool :=
  match Text.dropHead? functionWord t with
  | none => false
  | some r =>
    if skipBlanks r = r then false
    else
      match afterName? (skipBlanks r) with
      | none => false
      | some r => isHeaderEnd r || ((afterParens? r).map isHeaderEnd).getD false

/-- A header that starts with the name. -/
def isPlainHeader (t : Text) : Bool :=
  match (afterName? t).bind afterParens? with
  | none => false
  | some r => isHeaderEnd r

/-- The header of a function definition. -/
def isFunctionHeader (t : Text) : Bool := isKeywordHeader t || isPlainHeader t

/-- The line starts a comment. -/
def isComment (t : Text) : Bool := t.head? = some (CodePoint.ofChar '#')

/-- A line, without blanks around it, that has no command. -/
def isInert (t : Text) : Bool :=
  t = [] || isComment t || structuralWords.elem t || isFunctionHeader t

end ShellCoverage.Script

namespace ShellCoverage

/-! ## Heredoc operators -/

/-- An open heredoc: the line that ends it, and whether tabs before it are dropped. -/
structure Heredoc where
  stripsTabs : Bool
  terminator : Text
  deriving DecidableEq

namespace Heredoc

/-- The character of the operator. -/
def less : CodePoint := CodePoint.ofChar '<'

/-- A character that begins a name. -/
def startsName (c : CodePoint) : Bool := c.isAsciiLetter || c = CodePoint.ofChar '_'

/-- A character that continues a name. -/
def continuesName (c : CodePoint) : Bool := c.isWord || c = CodePoint.ofChar '-'

/-- The name at the head of a text, and the text after it. -/
def name? : Text → Option (Text × Text)
  | [] => none
  | c :: t =>
    if startsName c then some (c :: t.takeWhile continuesName, t.dropWhile continuesName) else none

/-- The word at the head of a text: a name, plain or between equal quotes. -/
def word? : Text → Option Text
  | [] => none
  | c :: t =>
    if c = 39 || c = 34 then
      match name? t with
      | some (w, q :: _) => if q = c then some w else none
      | _ => none
    else (name? (c :: t)).map (·.1)

/-- The operator after its two `<`. -/
def afterOperator? (t : Text) : Option Heredoc :=
  let (stripsTabs, t) : Bool × Text :=
    match t with
    | 45 :: r => (true, r)
    | _ => (false, t)
  (word? (t.dropWhile CodePoint.isBlank)).map fun w => ⟨stripsTabs, w⟩

/-- The operator at the head of a text. -/
def operatorAt? : Text → Option Heredoc
  | a :: b :: t => if a = less && b = less && t.head? ≠ some less then afterOperator? t else none
  | _ => none

/-- The leftmost operator of a text before which stands a `<` or not. -/
def findFrom? (afterLess : Bool) : Text → Option Heredoc
  | [] => none
  | c :: t =>
    match if afterLess then none else operatorAt? (c :: t) with
    | some h => some h
    | none => findFrom? (c = less) t

/-- The leftmost operator of a line. -/
def find? (line : Text) : Option Heredoc := findFrom? false line

/-- The line ends the body. -/
def closes (h : Heredoc) (line : Text) : Bool :=
  (if h.stripsTabs then line.dropWhile (· = 9) else line) = h.terminator

end Heredoc

end ShellCoverage

namespace ShellCoverage.Script

/-! ## The scan -/

/-- The state of a scan between two lines. -/
structure Scan where
  /-- The heredoc whose body the next line belongs to. -/
  heredoc : Option Heredoc := none
  /-- The next line continues the line before it. -/
  continued : Bool := false
  deriving DecidableEq

/-- The line, without blanks around it, is continued by the next. -/
def isContinued (t : Text) : Bool :=
  t.getLast? = some (CodePoint.ofChar '\\') && !isComment t

/-- The heredoc that a line, without blanks around it, opens. -/
def opened? (t : Text) : Option Heredoc := if isComment t then none else Heredoc.find? t

/-- The state after a line, and whether the line is relevant. -/
def Scan.next (s : Scan) (line : Text) : Scan × Bool :=
  match s.heredoc with
  | some h => ({ s with heredoc := if h.closes line then none else some h }, false)
  | none =>
    let t := line.trim
    (⟨opened? t, isContinued t⟩, !(s.continued || isInert t))

/-- Whether each line is relevant, for a scan that has come to some state. -/
def relevanceFrom (s : Scan) : List Text → List Bool
  | [] => []
  | l :: ls => (s.next l).2 :: relevanceFrom (s.next l).1 ls

/-- Whether each line is relevant. -/
def relevance (ls : List Text) : List Bool := relevanceFrom {} ls

/-- The numbers, from 1, of the lines whose relevance is `r`. -/
def numbersWith (r : Bool) (ls : List Text) : List Nat :=
  ((relevance ls).zipIdx 1).filterMap fun p => if p.1 = r then some p.2 else none

/-- The numbers of the relevant lines. -/
def relevantLines (ls : List Text) : List Nat := numbersWith true ls

/-- The numbers of the other lines. -/
def irrelevantLines (ls : List Text) : List Nat := numbersWith false ls

/-- The lines of a script's bytes. -/
def linesOf (content : Bytes) : List Text :=
  Text.lines (Text.unifyLineEnds (Text.ofBytesLossy content))

/-- The lines of a script. -/
def readLines (fs : FileSystem) (path : Text) : Except FileError (List Text) :=
  (fs.read path).map linesOf

end ShellCoverage.Script
