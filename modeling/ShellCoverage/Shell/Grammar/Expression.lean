import ShellCoverage.Shell.Grammar.Basic

/-!
# Reading commands: conditional expressions

* `Reader.testFrom` : the rest of a conditional command after its first word.
-/

namespace ShellCoverage.Shell.Reader

variable (inner : Reads Command)

/-- The operators with one operand. -/
def unaryTests : List Octets :=
  ["-a", "-b", "-c", "-d", "-e", "-f", "-g", "-h", "-k", "-p", "-r", "-s", "-t", "-u", "-w", "-x",
    "-G", "-L", "-N", "-O", "-S", "-z", "-n", "-o", "-v", "-R"]

/-- The operators with two operands. -/
def binaryTests : List Octets :=
  ["=", "==", "!=", "=~", "-eq", "-ne", "-lt", "-le", "-gt", "-ge", "-nt", "-ot", "-ef"]

/-- The words that messages about expressions name. -/
def knownWords : List Octets :=
  ["if", "then", "else", "elif", "fi", "case", "esac", "for", "select", "while", "until", "do", "done", "in",
    "function", "time", "\x7b", "\x7d", "!", "[[", "]]", "coproc"]

/-- The token as a message about an expression names it, if it does. -/
def named? : Token → Option Octets
  | .word w => if knownWords.elem w then some w else none
  | .op "\n" => some "newline"
  | .op o => some o
  | .descriptor _ | .descriptorName _ => none
  | .ending => some "EOF"

/-- Fails in a conditional expression. -/
def badTest {α : Type} (causes : List (Nat × Octets)) : Reads α := throw (.badTest causes false)

/-- Fails at a token for a cause that names it, or for one that does not. -/
def badToken {α : Type} (line : Nat) (t : Token) (named : Octets → Octets) (unnamed : Octets) : Reads α := do
  badTest [(line, match named? t with
    | some s => named (SyntaxError.cite s)
    | none => unnamed)]

/-- Skips line feeds inside a conditional expression. -/
def testLineFeeds : Nat → Reads Unit
  | 0 => pure ()
  | n + 1 => do
    if (← peekArgument inner {}) = .op "\n" then
      dropToken
      testLineFeeds n

/-- The operand of an operator that must be there, with its line. -/
def operand (m : WordMode) (line : Nat) (kind : Octets) : Reads (Word × Nat) := do
  let t ← peekArgument inner m
  let here := (← get).line
  let bad : Reads (Word × Nat) := badToken line t
    (fun s => "unexpected argument " ++ s ++ " to conditional " ++ kind ++ " operator")
    ("unexpected argument to conditional " ++ kind ++ " operator")
  match t with
  | .word w => if w = "]]" then bad else dropToken; return (w, here)
  | _ => bad

/-- The right operand of an operator. -/
def rightOperand (op : Octets) (line : Nat) : Reads (Word × Nat) := do
  let extended := (← get).extendedPatterns
  let isPattern : Bool := op = "=" || op = "==" || op = "!="
  if isPattern then modify fun r => { r with extendedPatterns := true }
  let w ← operand inner { regular := op = "=~" } line "binary"
  if isPattern then modify fun r => { r with extendedPatterns := extended }
  return w

/-- A term that starts with a word, and its line. -/
def wordTest (w : Word) (line : Nat) : Reads (Test × Nat) := do
  if unaryTests.elem w then
    let (v, here) ← operand inner {} line "unary"
    return (.unary w v, here)
  let t ← peekArgument inner {}
  let here := (← get).line
  let binary (o : Octets) : Reads (Test × Nat) := do
    dropToken
    let (v, here) ← rightOperand inner o line
    return (.binary o w v, here)
  let bad : Reads (Test × Nat) := badToken line t
    (fun s => "unexpected token " ++ s ++ ", conditional binary operator expected")
    "conditional binary operator expected"
  match t with
  | .word o => if o = "]]" then return (.word w, here) else if binaryTests.elem o then binary o else bad
  | .op o =>
    if o = "<" || o = ">" then binary o
    else if o = "&&" || o = "||" || o = ")" then return (.word w, here)
    else bad
  | _ => bad

/-- The opposite of an expression; two of them cancel out. -/
def opposite : Test → Test
  | .negation t => t
  | t => .negation t

/-- An expression in parentheses was wrong. -/
def insideGroup (line : Nat) : SyntaxError → SyntaxError
  | .badTest causes ends => .badTest (causes ++ [(line, "expected " ++ SyntaxError.cite ")")]) ends
  | e => e

/-- An expression with `||` if `level` is zero, one with `&&` if it is one, a term otherwise; and the
line on which its outermost operator is complete. -/
def testAt (level : Nat) : Nat → Reads (Test × Nat)
  | 0 => badTest []
  | n + 1 => do
    match level with
    | 0 =>
      let a ← testAt 1 n
      if (← peekArgument inner {}) = .op "||" then
        dropToken
        let b ← testAt 0 n
        return (.either a.1 b.1, (← get).line)
      else return a
    | 1 =>
      let a ← testAt 2 n
      if (← peekArgument inner {}) = .op "&&" then
        dropToken
        let b ← testAt 1 n
        return (.both a.1 b.1, (← get).line)
      else return a
    | _ =>
      testLineFeeds inner n
      let t ← peekArgument inner {}
      let line := (← get).line
      let ended (e : Test × Nat) : Reads (Test × Nat) := do
        testLineFeeds inner n
        return e
      let bad : Reads (Test × Nat) := badToken line t
        (fun s => "unexpected token " ++ s ++ " in conditional command")
        "unexpected token 284 in conditional command"
      match t with
      | .op "(" =>
        dropToken
        let e ← tryCatch (testAt 0 n) fun e => throw (insideGroup line e)
        let t ← peekArgument inner {}
        let here := (← get).line
        if t = .op ")" then
          dropToken
          ended (.group e.1, here)
        else
          let close := SyntaxError.cite ")"
          badToken line t (fun s => "unexpected token " ++ s ++ ", expected " ++ close) ("expected " ++ close)
      | .word "!" =>
        dropToken
        let e ← testAt 2 n
        return (opposite e.1, e.2)
      | .word w =>
        if w = "]]" then badTest []
        dropToken
        let e ← wordTest inner w line
        match e.1 with
        | .word _ => return e
        | _ => ended e
      | _ => bad

/-- Passes over what is left of a line after an error in it, and gives the messages of further ones; the
result also says whether the script ends there. -/
def passLine : Nat → Reads (List (Nat × Octets) × Bool)
  | 0 => return ([], true)
  | n + 1 => do
    let next : Reads (List (Nat × Octets) × Option Token) := do
      let t ← peekArgument inner {}
      dropToken
      return ([], some t)
    let (messages, t?) ← tryCatch next fun e => return (e.messages, none)
    match t? with
    | none => return (messages, true)
    | some (.op "\n") =>
      let r ← get
      return (messages, r.rest = [] && r.isOpen)
    | some .ending => return (messages, true)
    | some _ => passLine n

/-- The expression of `[[`, after this word, up to the closing one. -/
def testBody : Reads Command := do
  let start := (← get).line
  let e ← testAt inner 0 (← get).budget
  let t ← peekArgument inner {}
  match t with
  | .word "]]" =>
    dropToken
    return .test e.2 e.1
  | .ending => badTest [(start, "unexpected EOF while looking for " ++ SyntaxError.cite "]]")]
  | t =>
    let cause := "syntax error in conditional expression"
    badToken start t (fun s => cause ++ ": unexpected token " ++ s) cause

/-- The rest of `[[` after its first word. If the expression is wrong, the rest of the line is lost. An
expression that was given up before is still going on: then nothing may follow. -/
def testFrom : Reads Command := do
  if (← get).insideTest then reject (← peekArgument inner {})
  tryCatch (testBody inner) fun e => do
    match e with
    | .badTest causes _ =>
      let (messages, ends) ← passLine inner (← get).budget
      throw (.badTest (causes ++ messages) ends)
    | e => throw e

end ShellCoverage.Shell.Reader
