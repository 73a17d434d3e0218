import ShellCoverage.Shell.Program.Rules.Lexer

/-!
# Reading scripts of rules

* `Rules.Reading` : what the reader has come to;
* `Rules.expression`, `Rules.statement` : expressions and statements, from what binds least to what binds most;
* `Rules.readScript` : a script, or messages about what is wrong with it.
-/

namespace ShellCoverage.Shell.Rules

/-- A part of a script: where control may go differs. -/
inductive Part where
  | frame
  | rule
  | function
  deriving DecidableEq

/-- What the reader has come to. -/
structure Reading where
  rest : List Lexeme
  /-- The names of the parameters of the function that is read. -/
  parameters : List Octets := []
  part : Part := .frame
  /-- The number of loops around. -/
  loops : Nat := 0
  /-- What is read is printed: a mark that is not in parentheses says where to. -/
  isPrinted : Bool := false
  parentheses : Nat := 0
  braces : Nat := 0
  /-- The variables that are known to be arrays, and those that are known to be none. -/
  kinds : Table Octets Bool := []
  /-- The calls of functions: the name, the number of values, and the line. -/
  calls : List (Octets × Nat × Nat) := []
  /-- What was wrong so far, the last first. -/
  messages : List Octets := []
  script : Script := {}

/-- A reader. -/
abbrev Parse := StateT Reading (Except (List Octets))

/-! ## Tokens -/

/-- The next token and its line. What is too much is passed over. -/
def peekWithin : Nat → Parse Lexeme
  | 0 => return ⟨.scriptEnd, 0⟩
  | n + 1 => do
    let s ← get
    match s.rest with
    | [] => return ⟨.scriptEnd, 0⟩
    | l :: rest =>
      match l.token with
      | .wrong m =>
        if Octets.startsWith "extra" m then
          set { s with rest, messages := ("line " ++ Octets.ofNat l.line ++ ": " ++ m) :: s.messages }
          peekWithin n
        else if m.toList.head?.any Char.isDigit then throw (s.messages.reverse ++ [m])
        else throw (s.messages.reverse ++ ["line " ++ Octets.ofNat l.line ++ ": " ++ m])
      | _ => return l

/-- The next token and its line. -/
def peek : Parse Lexeme := do peekWithin ((← get).rest.length + 1)

/-- Passes over the next token. -/
def advance : Parse Unit := do
  let l ← peek
  modify fun s =>
    let t := l.token
    { s with
      rest := s.rest.tail
      braces := if t.isMark "\x7b" then s.braces + 1 else if t.isMark "\x7d" then s.braces - 1 else s.braces
      parentheses :=
        if t.isMark "(" then s.parentheses + 1 else if t.isMark ")" then s.parentheses - 1
        else s.parentheses }

/-- Ends with a message about a line. -/
def failAt {α : Type} (line : Nat) (message : Octets) : Parse α := do
  throw ((← get).messages.reverse ++ ["line " ++ Octets.ofNat line ++ ": " ++ message])

/-- Ends because the next token does not fit. -/
def unexpected {α : Type} : Parse α := do
  let l ← peek
  let s ← get
  let near := " near " ++ l.token.shown
  let isEnd : Bool := match l.token with
    | .lineEnd | .impliedEnd | .scriptEnd => true
    | t => t.isMark "\x7d"
  let isScriptEnd : Bool := match l.token with | .scriptEnd => true | _ => false
  let message :=
    if isEnd && 0 < s.parentheses then "missing )" ++ near
    else if isScriptEnd && 0 < s.braces then "missing \x7d" ++ near
    else "syntax error at or" ++ near
  let closes := s.rest.any fun l => l.token.isMark "\x7d"
  let last := s.rest.getLast?.getD l
  let later := if !isScriptEnd && 0 < s.braces && !closes then
    ["line " ++ Octets.ofNat last.line ++ ": missing \x7d near end of file"] else []
  throw (s.messages.reverse ++ ["line " ++ Octets.ofNat l.line ++ ": " ++ message] ++ later)

/-- Passes over a mark, if it is next. -/
def takesMark (m : Octets) : Parse Bool := do
  if (← peek).token.isMark m then
    advance
    return true
  return false

/-- Passes over a keyword, if it is next. -/
def takesKeyword (k : Octets) : Parse Bool := do
  if (← peek).token.isKeyword k then
    advance
    return true
  return false

/-- Passes over a mark. -/
def expectMark (m : Octets) : Parse Unit := do
  if !(← takesMark m) then unexpected

/-- Passes over the end of a statement. -/
def separator : Parse Unit := do
  match (← peek).token with
  | .lineEnd | .impliedEnd => advance
  | t => if t.isMark ";" then advance else unexpected

/-- The next token ends a statement. -/
def atSeparator : Parse Bool := do
  match (← peek).token with
  | .lineEnd | .impliedEnd => return true
  | t => return t.isMark ";"

/-! ## Variables -/

/-- The variable of a name. -/
def variableOf (name : Octets) : Parse Variable := do
  match (← get).parameters.findIdx? (· = name) with
  | some i => return .parameter i
  | none => return .global name

/-- Takes note of how a variable is used. -/
def noteKind (v : Variable) (isArray : Bool) : Parse Unit := do
  if let .global name := v then
    let s ← get
    match Table.get? name s.kinds with
    | none => set { s with kinds := Table.insert name isArray s.kinds }
    | some k =>
      if k ≠ isArray then
        failAt (← peek).line ("illegal reference to " ++ (if k then "array " else "variable ") ++ name)

/-- The variables that are always there. -/
def knownVariables : List Octets :=
  ["NR", "NF", "FNR", "FS", "OFS", "ORS", "RS", "FILENAME", "SUBSEP", "CONVFMT", "OFMT", "RSTART", "RLENGTH", "ARGC"]

/-- The operation of a mark that assigns. -/
def assignment? (t : Token) : Option (Option Arithmetic) :=
  match t with
  | .mark "=" => some none
  | .mark "+=" => some (some .add)
  | .mark "-=" => some (some .subtract)
  | .mark "*=" => some (some .multiply)
  | .mark "/=" => some (some .divide)
  | .mark "%=" => some (some .remainder)
  | .mark "^=" => some (some .power)
  | _ => none

/-- The comparison of a mark. -/
def comparison? (t : Token) : Option Comparison :=
  match t with
  | .mark "<" => some .less
  | .mark "<=" => some .lessEqual
  | .mark "==" => some .equal
  | .mark "!=" => some .notEqual
  | .mark ">" => some .greater
  | .mark ">=" => some .greaterEqual
  | _ => none

/-- A value can be assigned to the expression. -/
def Expression.isTarget : Expression → Bool
  | .variable _ | .element _ _ | .field _ => true
  | _ => false

/-- The next token begins a value that can follow another one. -/
def beginsValue (t : Token) : Bool :=
  match t with
  | .number _ _ | .text _ | .pattern _ | .name _ | .called _ | .builtin _ => true
  | .mark m => m = "$" || m = "!" || m = "(" || m = "++" || m = "--"
  | .keyword k => k = "getline"
  | _ => false

/-- How many values a function takes at least and at most. -/
def arityOf (name : Octets) : Nat × Nat :=
  match name with
  | "length" | "srand" | "fflush" => (0, 1)
  | "substr" | "split" => (2, 3)
  | "sub" | "gsub" => (2, 3)
  | "index" | "match" | "atan2" => (2, 2)
  | "sprintf" => (1, 1000000)
  | "rand" | "systime" => (0, 0)
  | "strftime" => (0, 3)
  | "mktime" => (1, 2)
  | _ => (1, 1)

/-! ## Expressions -/

mutual

/-- An expression. -/
def expression : Nat → Parse Expression
  | 0 => unexpected
  | n + 1 => do
    let c ← disjunction n
    if ← takesMark "?" then
      let a ← expression n
      expectMark ":"
      return .conditional c a (← expression n)
    return c

/-- Conditions of which one has to hold. -/
def disjunction : Nat → Parse Expression
  | 0 => unexpected
  | n + 1 => do disjunctionAfter n (← conjunction n)

/-- What follows the first condition of those of which one has to hold. -/
def disjunctionAfter : Nat → Expression → Parse Expression
  | 0, _ => unexpected
  | n + 1, a => do
    if ← takesMark "||" then disjunctionAfter n (.or a (← conjunction n)) else return a

/-- Conditions that all have to hold. -/
def conjunction : Nat → Parse Expression
  | 0 => unexpected
  | n + 1 => do conjunctionAfter n (← membership n)

/-- What follows the first condition of those that all have to hold. -/
def conjunctionAfter : Nat → Expression → Parse Expression
  | 0, _ => unexpected
  | n + 1, a => do
    if ← takesMark "&&" then conjunctionAfter n (.and a (← membership n)) else return a

/-- A value that may be looked up in an array. -/
def membership : Nat → Parse Expression
  | 0 => unexpected
  | n + 1 => do membershipAfter n (← matching n)

/-- What follows a value that may be looked up. -/
def membershipAfter : Nat → Expression → Parse Expression
  | 0, _ => unexpected
  | n + 1, a => do
    if ← takesKeyword "in" then membershipAfter n (.isIn [a] (← arrayName)) else return a

/-- A value that may be searched. -/
def matching : Nat → Parse Expression
  | 0 => unexpected
  | n + 1 => do matchingAfter n (← comparing n)

/-- What follows a value that may be searched. -/
def matchingAfter : Nat → Expression → Parse Expression
  | 0, _ => unexpected
  | n + 1, a => do
    let t := (← peek).token
    if t.isMark "~" || t.isMark "!~" then
      advance
      matchingAfter n (.matching (t.isMark "!~") a (← comparing n))
    else return a

/-- A value that may be compared. -/
def comparing : Nat → Parse Expression
  | 0 => unexpected
  | n + 1 => do comparingAfter n (← operand n)

/-- What follows a value that may be compared. -/
def comparingAfter : Nat → Expression → Parse Expression
  | 0, _ => unexpected
  | n + 1, a => do
    let t := (← peek).token
    let s ← get
    if s.isPrinted && s.parentheses = 0 then
      if t.isMark ">" then return a
      if t.isMark ">=" then failAt (← peek).line "syntax error at or near ="
    match comparison? t with
    | some c =>
      advance
      comparingAfter n (.compare c a (← operand n))
    | none => return a

/-- Texts one after the other, or an assignment. -/
def operand : Nat → Parse Expression
  | 0 => unexpected
  | n + 1 => do
    let e ← concatenation n (← sum n)
    match assignment? (← peek).token with
    | some o =>
      if !e.isTarget then unexpected
      advance
      return .assign e o (← expression n)
    | none => return e

/-- What follows a text. -/
def concatenation : Nat → Expression → Parse Expression
  | 0, _ => unexpected
  | n + 1, a => do
    if beginsValue (← peek).token then concatenation n (.concatenate a (← sum n)) else return a

/-- A sum. -/
def sum : Nat → Parse Expression
  | 0 => unexpected
  | n + 1 => do sumAfter n (← product n)

/-- What follows the first part of a sum. -/
def sumAfter : Nat → Expression → Parse Expression
  | 0, _ => unexpected
  | n + 1, a => do
    if ← takesMark "+" then sumAfter n (.compute .add a (← product n))
    else if ← takesMark "-" then sumAfter n (.compute .subtract a (← product n))
    else return a

/-- A product. -/
def product : Nat → Parse Expression
  | 0 => unexpected
  | n + 1 => do productAfter n (← signedValue n)

/-- What follows the first part of a product. -/
def productAfter : Nat → Expression → Parse Expression
  | 0, _ => unexpected
  | n + 1, a => do
    if ← takesMark "*" then productAfter n (.compute .multiply a (← signedValue n))
    else if ← takesMark "/" then productAfter n (.compute .divide a (← signedValue n))
    else if ← takesMark "%" then productAfter n (.compute .remainder a (← signedValue n))
    else return a

/-- A value with a sign. -/
def signedValue : Nat → Parse Expression
  | 0 => unexpected
  | n + 1 => do
    if ← takesMark "!" then return .not (← signedValue n)
    else if ← takesMark "-" then return .negate (← signedValue n)
    else if ← takesMark "+" then return .affirm (← signedValue n)
    else piped n (← power n)

/-- What follows a value from which a line may be taken. -/
def piped : Nat → Expression → Parse Expression
  | 0, _ => unexpected
  | n + 1, a => do
    let s ← get
    if s.isPrinted && s.parentheses = 0 then return a
    if ← takesMark "|" then
      if !(← takesKeyword "getline") then unexpected
      piped n (.readCommand a (← target? n))
    else return a

/-- A power. -/
def power : Nat → Parse Expression
  | 0 => unexpected
  | n + 1 => do
    let a ← stepped n
    if ← takesMark "^" then return .compute .power a (← exponent n) else return a

/-- An exponent. -/
def exponent : Nat → Parse Expression
  | 0 => unexpected
  | n + 1 => do
    if ← takesMark "-" then return .negate (← exponent n)
    else if ← takesMark "+" then return .affirm (← exponent n)
    else if ← takesMark "!" then return .not (← exponent n)
    else power n

/-- A value that may be changed by one. -/
def stepped : Nat → Parse Expression
  | 0 => unexpected
  | n + 1 => do
    let a ← simple n
    if !a.isTarget then return a
    if ← takesMark "++" then return .step a 1 false
    else if ← takesMark "--" then return .step a (-1) false
    else return a

/-- A single value. -/
def simple : Nat → Parse Expression
  | 0 => unexpected
  | n + 1 => do
    let l ← peek
    match l.token with
    | .number x _ =>
      advance
      return .number x
    | .text s =>
      advance
      return .text s
    | .pattern s =>
      advance
      return .pattern s
    | .name s =>
      advance
      let v ← variableOf s
      if ← takesMark "[" then
        noteKind v true
        let subscripts ← list n
        expectMark "]"
        return .element v subscripts
      noteKind v false
      return .variable v
    | .called s =>
      advance
      expectMark "("
      let args ← if (← peek).token.isMark ")" then pure [] else arguments n
      expectMark ")"
      modify fun x => { x with calls := (s, args.length, l.line) :: x.calls }
      return .call s args
    | .builtin s =>
      advance
      ofBuiltin n s l.line
    | .mark "$" =>
      advance
      if ← takesMark "-" then return .field (.negate (← simple n))
      if ← takesMark "+" then return .field (.affirm (← simple n))
      return .field (← simple n)
    | .mark "++" =>
      advance
      changed n 1
    | .mark "--" =>
      advance
      changed n (-1)
    | .mark "(" =>
      advance
      let es ← list n
      expectMark ")"
      match es with
      | [e] => return .grouped e
      | es =>
        if !(← takesKeyword "in") then unexpected
        return .isIn es (← arrayName)
    | .keyword "getline" =>
      advance
      let target ← target? n
      if ← takesMark "<" then return .readFile (← power n) target else return .read target
    | _ => unexpected

/-- What is changed by some amount before it is used. -/
def changed : Nat → Int → Parse Expression
  | 0, _ => unexpected
  | n + 1, amount => do
    let e ← simple n
    if e.isTarget then return .step e amount true else unexpected

/-- Where a line is taken to, if it is said. -/
def target? : Nat → Parse (Option Expression)
  | 0 => unexpected
  | n + 1 => do
    match (← peek).token with
    | .name _ | .mark "$" => return some (← simple n)
    | _ => return none

/-- The name of an array. -/
def arrayName : Parse Variable := do
  match (← peek).token with
  | .name s =>
    advance
    let v ← variableOf s
    noteKind v true
    return v
  | _ => unexpected

/-- Expressions with commas between them. -/
def list : Nat → Parse (List Expression)
  | 0 => unexpected
  | n + 1 => do
    let e ← expression n
    if ← takesMark "," then return e :: (← list n) else return [e]

/-- Values for a function, which may be arrays. -/
def arguments : Nat → Parse (List Expression)
  | 0 => unexpected
  | n + 1 => do
    let e ← argument n
    if ← takesMark "," then return e :: (← arguments n) else return [e]

/-- A value for a function. -/
def argument : Nat → Parse Expression
  | 0 => unexpected
  | n + 1 => do
    match (← get).rest with
    | ⟨.name s, _⟩ :: l :: _ =>
      if l.token.isMark "," || l.token.isMark ")" then
        advance
        return .variable (← variableOf s)
      expression n
    | _ => expression n

/-- The call of a function that is always there. -/
def ofBuiltin : Nat → Octets → Nat → Parse Expression
  | 0, _, _ => unexpected
  | n + 1, s, line => do
    if !(← takesMark "(") then
      if s = "length" then return .builtin s [] else unexpected
    let first ←
      if (← peek).token.isMark ")" then pure []
      else if s = "length" then pure [← argument n]
      else pure [← expression n]
    let args ←
      if first = [] || !(← takesMark ",") then pure first
      else if s = "length" then unexpected
      else if s = "split" then
        let v ← arrayName
        let more ← if ← takesMark "," then list n else pure []
        pure (first ++ .variable v :: more)
      else pure (first ++ (← list n))
    if !(← takesMark ")") then unexpected
    let (least, most) := arityOf s
    if args.length < least || most < args.length then
      failAt line ("wrong number of arguments in call to " ++ s)
    return .builtin s args

end

/-! ## Statements -/

/-- Runs a reader inside of a loop. -/
def inLoop {α : Type} (act : Parse α) : Parse α := do
  modify fun s => { s with loops := s.loops + 1 }
  let a ← act
  modify fun s => { s with loops := s.loops - 1 }
  return a

/-- What `print` and `printf` write. -/
def printed (n : Nat) : Parse (List Expression) := do
  modify fun s => { s with isPrinted := true }
  let token := (← peek).token
  let stops ← atSeparator
  let es ←
    if stops || token.isMark ">" || token.isMark ">>" || token.isMark "|" then pure []
    else if token.isMark "(" then
      let start ← get
      advance
      let es ← list n
      expectMark ")"
      let next := (← peek).token
      let closes ← atSeparator
      if closes || next.isMark ">" || next.isMark ">>" || next.isMark "|" then pure es
      else
        set start
        list n
    else list n
  modify fun s => { s with isPrinted := false }
  return es

/-- Where a statement writes to. -/
def sink (n : Nat) : Parse Sink := do
  if ← takesMark ">" then return .file (← expression n)
  else if ← takesMark ">>" then return .atEnd (← expression n)
  else if ← takesMark "|" then return .command (← expression n)
  else return .standard

/-- A statement of a single step, without its end. -/
def plainStatement (n : Nat) : Parse Statement := do
  let l ← peek
  match l.token with
  | .keyword "print" =>
    advance
    let es ← printed n
    return .print es (← sink n)
  | .keyword "printf" =>
    advance
    let es ← printed n
    if es = [] then failAt l.line "no arguments in call to printf"
    return .format es (← sink n)
  | .keyword "break" =>
    advance
    if (← get).loops = 0 then failAt l.line "break statement outside of loop"
    return .leave
  | .keyword "continue" =>
    advance
    if (← get).loops = 0 then failAt l.line "continue statement outside of loop"
    return .proceed
  | .keyword "next" =>
    advance
    if (← get).part = .frame then failAt l.line "improper use of next"
    return .nextRecord
  | .keyword "nextfile" =>
    advance
    if (← get).part = .frame then failAt l.line "improper use of nextfile"
    return .nextFile
  | .keyword "exit" =>
    advance
    if ← atSeparator then return .exit none else return .exit (some (← expression n))
  | .keyword "return" =>
    advance
    if (← get).part ≠ .function then failAt l.line "return outside function body"
    if ← atSeparator then return .giveBack none else return .giveBack (some (← expression n))
  | .keyword "delete" =>
    advance
    let v ← arrayName
    if ← takesMark "[" then
      let subscripts ← list n
      expectMark "]"
      return .delete v subscripts
    return .deleteAll v
  | _ => return .evaluate (← expression n)

/-- A name of a key and the array that has it, at the head of a loop. -/
def keyLoop? : Parse (Option (Variable × Variable)) := do
  match (← get).rest with
  | ⟨.name k, _⟩ :: l :: ⟨.name a, _⟩ :: m :: _ =>
    if l.token.isKeyword "in" && m.token.isMark ")" then
      for _ in [0, 1, 2, 3] do advance
      let key ← variableOf k
      let v ← variableOf a
      noteKind key false
      noteKind v true
      return some (key, v)
    return none
  | _ => return none

mutual

/-- A statement. -/
def statement : Nat → Parse Statement
  | 0 => unexpected
  | n + 1 => do
    let l ← peek
    match l.token with
    | .mark "\x7b" => block n
    | .mark ";" =>
      advance
      return .block []
    | .impliedEnd =>
      advance
      return .block []
    | .keyword "if" =>
      advance
      expectMark "("
      let c ← expression n
      expectMark ")"
      passLineEnd
      let yes ← statement n
      if ← takesKeyword "else" then return .choose c yes (some (← statement n))
      return .choose c yes none
    | .keyword "while" =>
      advance
      expectMark "("
      let c ← expression n
      expectMark ")"
      passLineEnd
      return .whileLoop c (← inLoop (statement n))
    | .keyword "do" =>
      advance
      let body ← inLoop (statement n)
      if !(← takesKeyword "while") then unexpected
      expectMark "("
      let c ← expression n
      expectMark ")"
      separator
      return .untilLoop body c
    | .keyword "for" =>
      advance
      expectMark "("
      match ← keyLoop? with
      | some (k, v) =>
        passLineEnd
        return .forKeys k v (← inLoop (statement n))
      | none =>
        let start ← if (← peek).token.isMark ";" then pure (.block []) else
          pure (.evaluate (← expression n))
        expectMark ";"
        let c ← if (← peek).token.isMark ";" then pure none else pure (some (← expression n))
        expectMark ";"
        let step ← if (← peek).token.isMark ")" then pure (.block []) else
          pure (.evaluate (← expression n))
        expectMark ")"
        passLineEnd
        return .forLoop start c step (← inLoop (statement n))
    | _ =>
      let s ← plainStatement n
      separator
      return s

/-- A line feed that does not count, if it is next. -/
def passLineEnd : Parse Unit := do
  if let .lineEnd := (← peek).token then advance

/-- Statements in braces. -/
def block : Nat → Parse Statement
  | 0 => unexpected
  | n + 1 => do
    expectMark "\x7b"
    let ss ← statements n
    expectMark "\x7d"
    return .block ss

/-- Statements up to a brace. -/
def statements : Nat → Parse (List Statement)
  | 0 => unexpected
  | n + 1 => do
    if (← peek).token.isMark "\x7d" then return []
    let s ← statement n
    return s :: (← statements n)

end

/-! ## Scripts -/

/-- Runs a reader in a part of the script. -/
def within {α : Type} (part : Part) (parameters : List Octets) (act : Parse α) : Parse α := do
  modify fun s => { s with part, parameters }
  let a ← act
  modify fun s => { s with part := .rule, parameters := [] }
  return a

/-- The names of the parameters of a function, of which there are so many at most. -/
def parameterNames (function : Octets) : Nat → List Octets → Parse (List Octets)
  | 0, _ => unexpected
  | n + 1, before => do
    let l ← peek
    match l.token with
    | .name p =>
      advance
      if p = function then failAt l.line "function parameter cannot be the function"
      if before.elem p then failAt l.line (p ++ " is duplicated in argument list")
      if ← takesMark "," then parameterNames function n (before ++ [p]) else return before ++ [p]
    | t => if t.isMark ")" && before = [] then return [] else unexpected

/-- Adds a rule. -/
def addRule (r : Rule) : Parse Unit :=
  modify fun s => { s with script := { s.script with rules := s.script.rules ++ [r] } }

/-- The definition of a function, after its keyword. -/
def functionDefinition (n : Nat) : Parse Unit := do
  let l ← peek
  match l.token with
  | .name f | .called f =>
    advance
    if Table.has f (← get).script.functions then failAt l.line ("redefinition of " ++ f)
    expectMark "("
    let parameters ← parameterNames f n []
    expectMark ")"
    passLineEnd
    -- The function is known in its own body.
    modify fun s =>
      let functions := Table.insert f ⟨parameters, .block []⟩ s.script.functions
      { s with script := { s.script with functions } }
    let body ← within .function parameters (block n)
    modify fun s =>
      let functions := Table.insert f ⟨parameters, body⟩ s.script.functions
      { s with script := { s.script with functions } }
  | _ => unexpected

/-- A rule or a function. -/
def item (n : Nat) : Parse Unit := do
  let l ← peek
  match l.token with
  | .keyword "function" | .keyword "func" =>
    advance
    functionDefinition n
  | .keyword "BEGIN" =>
    advance
    addRule ⟨.atStart, some (← within .frame [] (block n))⟩
  | .keyword "END" =>
    advance
    addRule ⟨.atEnd, some (← within .frame [] (block n))⟩
  | .mark "\x7b" => addRule ⟨.every, some (← within .rule [] (block n))⟩
  | _ =>
    let e ← within .rule [] (expression n)
    let choice ← if ← takesMark "," then pure (Choice.range e (← within .rule [] (expression n))) else
      pure (Choice.matching e)
    if (← peek).token.isMark "\x7b" then addRule ⟨choice, some (← within .rule [] (block n))⟩
    else
      separator
      addRule ⟨choice, none⟩
  discard (takesMark ";")

/-- All rules and functions, of which there are so many at most. -/
def items (depth : Nat) : Nat → Parse Unit
  | 0 => return ()
  | n + 1 => do
    match (← peek).token with
    | .scriptEnd => return ()
    | _ =>
      item depth
      items depth n

/-- What is wrong with the calls of functions. -/
def faultyCalls (s : Reading) (lastLine : Nat) : List Octets :=
  s.calls.reverse.filterMap fun (f, count, line) =>
    match Table.get? f s.script.functions with
    | none => some ("line " ++ Octets.ofNat lastLine ++ ": function " ++ f ++ " never defined")
    | some d =>
      if d.parameters.length < count then
        some ("line " ++ Octets.ofNat line ++ ": too many arguments in call to " ++ f)
      else none

/-- A script, or messages about what is wrong with it. -/
def readScript (text : Octets) : Except (List Octets) Script := do
  let ls := lexemes text
  let kinds := knownVariables.map (·, false) ++ [("ENVIRON", true), ("ARGV", true)]
  let ((), s) ← (items (60 * ls.length + 60) (ls.length + 1)).run { rest := ls, kinds }
  let messages := s.messages.reverse ++ faultyCalls s ((ls.getLast?.map (·.line)).getD 1)
  if messages = [] then return s.script else throw messages

end ShellCoverage.Shell.Rules
