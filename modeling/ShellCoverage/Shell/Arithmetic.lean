import ShellCoverage.Shell.Parameters

/-!
# Arithmetic

Expressions are evaluated while they are read, with integers of 64 bits that wrap around. A part whose
value is not needed is read without effects.

* `Arithmetic.Error` : why an expression has no value;
* `Arithmetic.evaluate` : the value of an expression.
-/

namespace ShellCoverage.Shell.Arithmetic

/-- Why an expression has no value. -/
inductive Error where
  /-- The expression, from its first character that is no blank, is wrong from some text on. -/
  | invalid (expression cause token : Octets)
  /-- A variable is not set, for which the shell ends. -/
  | unbound (name : Octets)
  /-- A variable may not change, which has been said. -/
  | readonly

/-- The message of an error, if it is still to be written. -/
def Error.message? : Error → Option Octets
  | .invalid expression cause token => some (expression ++ ": " ++ cause ++ " (error token is \"" ++ token ++ "\")")
  | .unbound name => some (name ++ ": unbound variable")
  | .readonly => none

/-- The shell ends because of the error. -/
def Error.ends : Error → Bool
  | .unbound _ => true
  | _ => false

/-- What stands before the message of an error in an expression that belongs to a command, or to a parameter:
its name, but for a variable that is not set. -/
def Error.heading (e : Error) (name : Octets) : Octets :=
  if e.ends || name = "" then "" else name ++ ": "

/-- What an error does where no command stands for the expression: the shell goes on with its next line, or
ends. -/
def Error.takeEffect {α : Type} (e : Error) : Sh α := do
  if let some m := e.message? then Sh.report m
  throw (if e.ends then .exited 1 else .discarded 1)

/-- A token. -/
inductive Tok where
  | number (n : Int)
  /-- A variable, perhaps with the text of a subscript. -/
  | name (name : Octets) (subscript : Option Octets)
  | op (s : Octets)
  /-- A variable that was just counted up or down. -/
  | counted
  | ending
  deriving DecidableEq, Inhabited

/-- The state of an evaluation. -/
structure Scan where
  expression : List Char
  /-- The characters after the current token. -/
  rest : List Char
  /-- The characters from the current token on. -/
  start : List Char
  token : Tok
  /-- Values are not needed. -/
  idle : Bool := false

/-- An evaluation. -/
abbrev Calc := StateT Scan (ExceptT Error Sh)

/-- Fails with a cause. -/
def fail {α : Type} (cause : Octets) (token : Option (List Char)) : Calc α := do
  let s ← get
  throw (.invalid (String.ofList (s.expression.dropWhile Octets.isSpace)) cause
    (String.ofList (token.getD s.start)))

/-- The operators, longer ones before those they begin with. -/
def operators : List Octets :=
  ["<<=", ">>=", "**", "++", "--", "<<", ">>", "<=", ">=", "==", "!=", "&&", "||", "+=", "-=", "*=",
    "/=", "%=", "&=", "^=", "|=", "+", "-", "*", "/", "%", "<", ">", "=", "!", "~", "&", "^", "|", "?",
    ":", "(", ")", ","]

/-- The value of a digit in bases up to 64. -/
def digitValue? (base : Nat) (c : Char) : Option Nat :=
  if c.isDigit then some (c.toNat - 48)
  else if 'a' ≤ c && c ≤ 'z' then some (c.toNat - 87)
  else if 'A' ≤ c && c ≤ 'Z' then some (if base ≤ 36 then c.toNat - 55 else c.toNat - 29)
  else if c = '@' then some 62
  else if c = '_' then some 63
  else none

/-- The value of digits in a base, or what is wrong with them. -/
def digitsValue (base : Nat) (cs : List Char) : Except Octets Int := do
  let n ← cs.foldlM (fun (n : Int) c =>
    match digitValue? base c with
    | some d => if d < base then .ok (n * base + d) else .error "value too great for base"
    | none => .error "value too great for base") 0
  return Octets.wrap n

/-- The value of a number, or what is wrong with it. -/
def numberValue (cs : List Char) : Except Octets Int :=
  match cs with
  | '0' :: 'x' :: r | '0' :: 'X' :: r => digitsValue 16 r
  | '0' :: r => if cs.elem '#' then .error "invalid number" else digitsValue 8 r
  | _ =>
    let base := cs.takeWhile (· ≠ '#')
    if base.length = cs.length then digitsValue 10 cs
    else
      let b := Octets.ofDigits base
      let digits := cs.drop (base.length + 1)
      if b < 2 || 64 < b then .error "invalid arithmetic base"
      else if digits = [] then .error "invalid integer constant"
      else digitsValue b digits

/-- The characters up to the bracket that closes a subscript, and those after it. -/
def subscriptEnd? : Nat → List Char → Option (List Char × List Char)
  | _, [] => none
  | depth, c :: r =>
    if c = ']' then
      match depth with
      | 0 => some ([], r)
      | d + 1 => (subscriptEnd? d r).map fun p => (c :: p.1, p.2)
    else (subscriptEnd? (if c = '[' then depth + 1 else depth) r).map fun p => (c :: p.1, p.2)

/-- The operator that two signs mean after a token, at the head of some characters: they count a variable
up or down if one stands on either side, and are a sign and another one otherwise. -/
def countingOperator (before : Tok) (o : Octets) (cs : List Char) : Calc Octets := do
  match before with
  | .name _ _ => return o
  | .counted => fail (o ++ ": assignment requires lvalue") none
  | _ =>
    let next := (cs.drop 2).dropWhile Octets.isSpace
    return if next.head?.any Octets.isNameStart then o else String.ofList (cs.take 1)

/-- The value of a number that stands at the head of the rest of an expression. -/
def numberAt (digits rest : List Char) : Calc Int := do
  match numberValue digits with
  | .ok n => return n
  | .error cause =>
    modify fun s => { s with
      start := digits ++ rest
      expression := s.expression.take (s.expression.length - rest.length) }
    fail cause (some digits)

/-- The characters of a number. -/
def isNumberChar (c : Char) : Bool := c.isAlphanum || c = '#' || c = '@' || c = '_'

/-- Whether a character may begin a token; other ones are taken for operators. -/
def beginsOperator (cs : List Char) : Bool := operators.any fun o => o.toList.isPrefixOf cs

/-- Looks at the token after a variable, and beyond it while there are only variables: it must be a token. -/
def lookPast : Nat → List Char → Calc Unit
  | 0, _ => return
  | n + 1, cs => do
    let cs := cs.dropWhile Octets.isSpace
    match cs with
    | [] => return
    | c :: _ =>
      if Octets.isNameStart c then
        match cs.dropWhile Octets.isNameChar with
        | '[' :: r =>
          match subscriptEnd? 0 r with
          | some (_, rest) => lookPast n rest
          | none =>
            modify fun s => { s with start := cs }
            fail "bad array subscript" none
        | rest => lookPast n rest
      else if c.isDigit then
        discard (numberAt (cs.takeWhile isNumberChar) (cs.dropWhile isNumberChar))
      else if !beginsOperator cs then
        modify fun s => { s with start := cs }
        fail "syntax error: invalid arithmetic operator" none

/-- Reads the next token. -/
def advance : Calc Unit := do
  let s ← get
  let cs := s.rest.dropWhile Octets.isSpace
  match cs with
  | [] => set { s with rest := [], token := .ending }
  | c :: _ =>
    modify fun s => { s with start := cs }
    if Octets.isNameStart c then
      let name := cs.takeWhile Octets.isNameChar
      let rest := cs.drop name.length
      match rest with
      | '[' :: r =>
        match subscriptEnd? 0 r with
        | some (sub, rest) =>
          lookPast rest.length rest
          set { s with rest, start := cs, token := .name (String.ofList name) (some (String.ofList sub)) }
        | none => fail "bad array subscript" none
      | _ =>
        lookPast rest.length rest
        set { s with rest, start := cs, token := .name (String.ofList name) none }
    else if c.isDigit then
      let digits := cs.takeWhile isNumberChar
      let rest := cs.drop digits.length
      let n ← numberAt digits rest
      set { s with rest, start := cs, token := .number n }
    else
      match operators.find? fun o => o.toList.isPrefixOf cs with
      | some o =>
        let o ← if o = "++" || o = "--" then countingOperator s.token o cs else pure o
        set { s with rest := cs.drop o.length, start := cs, token := .op o }
      | none =>
        let expects : Bool := match s.token with
          | .op _ | .ending => true
          | _ => false
        if expects then fail "syntax error: operand expected" none
        else fail "syntax error: invalid arithmetic operator" none

/-- Runs an evaluation whose value is needed only if `needed` is set. -/
def needed {α : Type} (isNeeded : Bool) (body : Calc α) : Calc α := do
  let before := (← get).idle
  modify fun s => { s with idle := before || !isNeeded }
  let a ← body
  modify fun s => { s with idle := before }
  return a

/-- A power, by repeated squaring. -/
def binaryPower (b : Int) (e : Nat) : Int := Id.run do
  let mut r : Int := 1
  let mut base := b
  let mut e := e
  for _ in List.range 64 do
    if e % 2 = 1 then r := Octets.wrap (r * base)
    base := Octets.wrap (base * base)
    e := e / 2
  return r

/-- The number as it is stored in 64 bits. -/
def unsigned (n : Int) : Nat := (Int.emod n (2 ^ 64)).toNat

/-- The value of an operator, for values with which it is defined. -/
def apply (o : Octets) (a b : Int) : Int :=
  let truth (t : Bool) : Int := if t then 1 else 0
  match o with
  | "+" => Octets.wrap (a + b)
  | "-" => Octets.wrap (a - b)
  | "*" => Octets.wrap (a * b)
  | "/" => Octets.wrap (a.tdiv b)
  | "%" => Octets.wrap (a.tmod b)
  | "**" => binaryPower a b.toNat
  | "<<" => Octets.wrap (a * 2 ^ (unsigned b % 64))
  | ">>" => a.fdiv (2 ^ (unsigned b % 64))
  | "&" => Octets.wrap (unsigned a &&& unsigned b : Nat)
  | "|" => Octets.wrap (unsigned a ||| unsigned b : Nat)
  | "^" => Octets.wrap (unsigned a ^^^ unsigned b : Nat)
  | "<" => truth (a < b)
  | ">" => truth (b < a)
  | "<=" => truth (a ≤ b)
  | ">=" => truth (b ≤ a)
  | "==" => truth (a = b)
  | "!=" => truth (a ≠ b)
  | "&&" => truth (a ≠ 0 && b ≠ 0)
  | "||" => truth (a ≠ 0 || b ≠ 0)
  | _ => b

/-- How tightly a binary operator binds. -/
def precedence? (o : Octets) : Option Nat :=
  [("||", 1), ("&&", 2), ("|", 3), ("^", 4), ("&", 5), ("==", 6), ("!=", 6), ("<", 7), (">", 7),
    ("<=", 7), (">=", 7), ("<<", 8), (">>", 8), ("+", 9), ("-", 9), ("*", 10), ("/", 10), ("%", 10),
    ("**", 11)].lookup o

/-- The operator that an assignment applies before it assigns. -/
def assignment? (o : Octets) : Option Octets :=
  [("=", "="), ("+=", "+"), ("-=", "-"), ("*=", "*"), ("/=", "/"), ("%=", "%"), ("<<=", "<<"),
    (">>=", ">>"), ("&=", "&"), ("^=", "^"), ("|=", "|")].lookup o

/-- Applies an operator; the characters are those of its right operand. -/
def applyChecked (o : Octets) (a b : Int) (right : List Char) : Calc Int := do
  if (o = "/" || o = "%") && b = 0 then
    if (← get).idle then return 0
    fail "division by 0" (some (right.dropWhile Octets.isSpace))
  if o = "**" && b < 0 then fail "exponent less than 0" none
  return apply o a b

/-! ## Variables -/

variable (inner : Octets → Calc Int)

/-- The number of an element, counted from the end if it is negative. -/
def elementIndex? (name : Octets) (i : Int) : Sh (Option Nat) := do
  if 0 ≤ i then return some i.toNat
  let size : Nat :=
    match (← Sh.findVariable name).bind (·.value) with
    | some (.indexed es) => (es.getLast?.map (·.1 + 1)).getD 0
    | some (.scalar _) => 1
    | _ => 0
  return if 0 ≤ i + (size : Int) then some (i + (size : Int)).toNat else none

/-- A subscript without the quotes around it. -/
def keyOf (sub : Octets) : Octets :=
  match sub.toList with
  | '"' :: r => if r.getLast? = some '"' then String.ofList r.dropLast else sub
  | '\'' :: r => if r.getLast? = some '\'' then String.ofList r.dropLast else sub
  | _ => sub

/-- The value of a subscript, in which an error takes effect at once. -/
def subscriptIn (sub : Octets) : Calc Int := do
  try inner sub
  catch e => (e.takeEffect : Sh Int)

/-- The text of a variable or of one of its elements; none if it is not set. -/
def textOf? (name : Octets) (sub : Option Octets) : Calc (Option Octets) := do
  match sub with
  | none => (Sh.scalar? name : Sh _)
  | some sub =>
    match ← (Sh.lookup? name : Sh _) with
    | some (.keyed es) => return Table.get? (keyOf sub) es
    | value =>
      let i ← subscriptIn inner sub
      match ← (elementIndex? name i : Sh _) with
      | none =>
        (Sh.report (name ++ ": bad array subscript") : Sh _)
        return none
      | some i =>
        match value with
        | some (.indexed es) => return es.lookup i
        | some (.scalar s) => return if i = 0 then some s else none
        | _ => return none

/-- The value of a variable that stands at some place of the expression. -/
def valueOf (start : List Char) (name : Octets) (sub : Option Octets) : Calc Int := do
  if (← get).idle then return 0
  let before := (← get).start
  modify fun s => { s with start }
  (Sh.warnCircular name (if sub.isSome then 2 else 1) : Sh Unit)
  let value ← match ← textOf? inner name sub with
    | none =>
      if ← (Sh.hasOption "nounset" : Sh _) then throw (.unbound name)
      pure 0
    | some s => if s = "" then pure 0 else inner s
  modify fun s => { s with start := before }
  return value

/-- Gives a variable a value. -/
def assign (name : Octets) (sub : Option Octets) (n : Int) : Calc Unit := do
  if (← get).idle then return
  (Sh.warnCircular name 2 : Sh Unit)
  if ← (Sh.isReadonly name : Sh _) then
    (Sh.reportReadonly name : Sh Unit)
    throw .readonly
  let s := Octets.ofInt n
  match sub with
  | none => (Sh.store name s : Sh _)
  | some sub =>
    if ← (Sh.isKeyed name : Sh _) then (Sh.storeKey name (keyOf sub) s : Sh _)
    else
      let i ← subscriptIn inner sub
      match ← (elementIndex? name i : Sh _) with
      | none => (Sh.report (name ++ "[" ++ sub ++ "]: bad array subscript") : Sh _)
      | some i => (Sh.storeIndex name i s : Sh _)

/-! ## Expressions -/

/-- Which expressions are read. -/
inductive Level where
  | comma
  | assignment
  | choice
  /-- Operators that bind at least as tightly as given. -/
  | binary (least : Nat)
  | unary
  | primary

/-- The value of the last of some expressions with commas between them, of which one was read. -/
def commas (next : Calc Int) : Nat → Int → Calc Int
  | 0, v => return v
  | k + 1, v => do
    if (← get).token = .op "," then
      advance
      commas next k (← next)
    else return v

/-- The value of operators that bind at least as tightly as given, after their first operand. The
function reads an operand of some level. -/
def operatorsFrom (operand : Nat → Calc Int) (least : Nat) : Nat → Int → Calc Int
  | 0, v => return v
  | k + 1, a => do
    match (← get).token with
    | .op o =>
      match precedence? o with
      | none => return a
      | some p =>
        if p < least then return a
        let right := (← get).rest
        advance
        let b ←
          if o = "**" then operand p
          else if o = "&&" then needed (a ≠ 0) (operand (p + 1))
          else if o = "||" then needed (a = 0) (operand (p + 1))
          else operand (p + 1)
        operatorsFrom operand least k (← applyChecked o a b right)
    | _ => return a

/-- The value of an expression that is no variable, to which nothing can be assigned. -/
def unassigned (v : Int) : Calc Int := do
  match (← get).token with
  | .op o =>
    if (assignment? o).isSome then fail "attempted assignment to non-variable" none
    return v
  | _ => return v

/-- The value of an expression of some level; the number bounds its depth. -/
def expression : Nat → Level → Calc Int
  | 0, _ => fail "expression recursion level exceeded" none
  | n + 1, .comma => do
    commas (expression n .assignment) ((← get).expression.length + 1) (← expression n .assignment)
  | n + 1, .assignment => do
    let s ← get
    match s.token with
    | .name name sub =>
      advance
      match (← get).token with
      | .op o =>
        match assignment? o with
        | none => set s; unassigned (← expression n .choice)
        | some o =>
          let right := (← get).rest
          let old ← if o = "=" then pure 0 else valueOf inner s.start name sub
          advance
          let v ← expression n .assignment
          let v ← if o = "=" then pure v else applyChecked o old v right
          assign inner name sub v
          return v
      | _ => set s; unassigned (← expression n .choice)
    | _ => unassigned (← expression n .choice)
  | n + 1, .choice => do
    let c ← expression n (.binary 1)
    if (← get).token = .op "?" then
      advance
      if (← get).token = .ending || (← get).token = .op ":" then fail "expression expected" none
      let a ← needed (c ≠ 0) (expression n .comma)
      if (← get).token ≠ .op ":" then fail "\x60:' expected for conditional expression" none
      advance
      if (← get).token = .ending then fail "expression expected" none
      let b ← needed (c = 0) (expression n .choice)
      return if c ≠ 0 then a else b
    else return c
  | n + 1, .binary least => do
    let a ← expression n .unary
    operatorsFrom (fun p => expression n (.binary p)) least ((← get).expression.length + 1) a
  | n + 1, .unary => do
    match (← get).token with
    | .op "!" => advance; return if (← expression n .unary) = 0 then 1 else 0
    | .op "~" => advance; return Octets.wrap (-(← expression n .unary) - 1)
    | .op "-" => advance; return Octets.wrap (-(← expression n .unary))
    | .op "+" => advance; expression n .unary
    | _ => expression n .primary
  | n + 1, .primary => do
    match (← get).token with
    | .op o =>
      if o = "++" || o = "--" then
        advance
        match (← get).token with
        | .name name sub =>
          let v := Octets.wrap ((← valueOf inner (← get).start name sub) + (if o = "++" then 1 else -1))
          assign inner name sub v
          modify fun s => { s with token := .counted }
          advance
          return v
        | _ => expression n .unary
      else if o = "(" then
        advance
        let v ← expression n .comma
        if (← get).token ≠ .op ")" then fail "missing \x60)'" none
        advance
        return v
      else fail "syntax error: operand expected" none
    | .name name sub =>
      let start := (← get).start
      advance
      let v ← valueOf inner start name sub
      match (← get).token with
      | .op o =>
        if o = "++" || o = "--" then
          assign inner name sub (Octets.wrap (v + (if o = "++" then 1 else -1)))
          modify fun s => { s with token := .number v }
          advance
          return v
        else return v
      | _ => return v
    | .number v => advance; return v
    | .counted | .ending => fail "syntax error: operand expected" none

/-- The value of the expression in a string, given how to evaluate those in variables. -/
def evaluateIn (s : Octets) : Calc Int := do
  let outer ← get
  let cs := s.toList
  set { outer with expression := cs, rest := cs, start := cs, token := .ending }
  advance
  let v ←
    if (← get).token = .ending then pure 0
    else expression inner (20 * cs.length + 40) .comma
  if (← get).token ≠ .ending then fail "syntax error in expression" none
  set outer
  return v

/-- The value of the expression in a string; variables hold expressions at most so deep. -/
def evaluateAt : Nat → Octets → Calc Int
  | 0, _ => fail "expression recursion level exceeded" none
  | n + 1, s => evaluateIn (evaluateAt n) s

/-- The depth to which expressions may refer to others. -/
def maxDepth : Nat := 1024

/-- The value of an expression. -/
def evaluate (s : Octets) : Sh (Except Error Int) := do
  match ← ((evaluateAt maxDepth s).run ⟨[], [], [], .ending, false⟩).run with
  | .ok (v, _) => return .ok v
  | .error e => return .error e

/-- The number that a subscript means. -/
def subscript (s : Octets) : Sh Int := do
  match ← evaluate s with
  | .ok v => return v
  | .error e => e.takeEffect

end ShellCoverage.Shell.Arithmetic
