import ShellCoverage.Shell.Arithmetic

/-!
# Arithmetic of the plain shell

The expressions of the plain shell have no powers, counters, commas and bases, and a variable is a number and no
expression. An expression without a value ends the shell.

* `Arithmetic.Plain.tokens` : the tokens of an expression;
* `Arithmetic.Plain.evaluate` : the value of an expression.
-/

namespace ShellCoverage.Shell.Arithmetic.Plain

/-- A token. -/
inductive Tok where
  | number (n : Int)
  | name (name : Octets)
  | op (s : Octets)
  /-- A character that has no meaning. -/
  | bad
  deriving DecidableEq

/-- The operators, longer ones before those they begin with. -/
def operators : List Octets :=
  ["<<=", ">>=", "<<", ">>", "<=", ">=", "==", "!=", "&&", "||", "+=", "-=", "*=", "/=", "%=", "&=", "^=", "|=",
    "+", "-", "*", "/", "%", "<", ">", "=", "!", "~", "&", "^", "|", "?", ":", "(", ")"]

/-- A number that is as large as it can be instead of one that is larger. -/
def limited (n : Int) : Int := max (-2 ^ 63) (min n (2 ^ 63 - 1))

/-- The digits of a base at the head of some characters. -/
def digitsIn (base : Nat) (cs : List Char) : List Char :=
  cs.takeWhile fun c => (digitValue? 36 c).any (· < base)

/-- The number at the head of some characters, in base 16 after `0x` and in base 8 after a zero, and the number of
its characters. -/
def numberAt (cs : List Char) : Int × Nat :=
  let value (base : Nat) (ds : List Char) : Int :=
    limited (ds.foldl (fun n c => n * base + (((digitValue? 36 c).getD 0 : Nat) : Int)) 0)
  let hex := match cs with
    | '0' :: x :: r => if x = 'x' || x = 'X' then digitsIn 16 r else []
    | _ => []
  if hex ≠ [] then (value 16 hex, hex.length + 2)
  else
    let base := if cs.head? = some '0' then 8 else 10
    let ds := digitsIn base cs
    (value base ds, ds.length)

/-- The tokens of an expression, at most so many. -/
def tokens : Nat → List Char → List Tok
  | 0, _ => []
  | _, [] => []
  | n + 1, c :: cs =>
    if c = ' ' || c = '\t' || c = '\n' then tokens n cs
    else if c.isDigit then
      let (value, size) := numberAt (c :: cs)
      .number value :: tokens n ((c :: cs).drop size)
    else if Octets.isNameStart c then
      let name := (c :: cs).takeWhile Octets.isNameChar
      .name (String.ofList name) :: tokens n ((c :: cs).drop name.length)
    else
      match operators.find? fun o => o.toList.isPrefixOf (c :: cs) with
      | some o => .op o :: tokens n ((c :: cs).drop o.length)
      | none => [.bad]

/-- An evaluation; it fails with a message. -/
abbrev Calc := StateT (List Tok) (ExceptT Octets Sh)

/-- The message for a text that is no number. -/
def noNumber (s : Octets) : Octets := "Illegal number: " ++ s

/-- The number that the value of a variable is. -/
def numberOf (s : Octets) : Except Octets Int :=
  let cs := s.toList.dropWhile Octets.isSpace
  let (negative, body) := match cs with
    | '-' :: r => (true, r)
    | '+' :: r => (false, r)
    | r => (false, r)
  let (value, size) := numberAt body
  let rest := if size = 0 then s.toList else body.drop size
  if (rest.dropWhile Octets.isSpace) = [] then .ok (if negative then limited (-value) else value)
  else .error (noNumber s)

/-- The number that a variable holds. -/
def valueOf (name : Octets) : Calc Int := do
  match numberOf (← Sh.scalar name) with
  | .ok n => return n
  | .error e => throw e

/-- Fails with a cause. -/
def refuse {α : Type} (whole cause : Octets) : Calc α :=
  throw ("arithmetic expression: " ++ cause ++ ": \"" ++ whole ++ "\"")

/-- Takes the next token if it is some operator. -/
def takes (o : Octets) : Calc Bool := do
  match ← get with
  | t :: r =>
    if t = .op o then
      set r
      return true
    return false
  | [] => return false

/-- The value of an operation. -/
def operate (whole o : Octets) (a b : Int) : Calc Int := do
  if (o = "/" || o = "%") && b = 0 then refuse whole "division by zero"
  return apply o a b

/-- How loosely an operator of two operands binds. -/
def looseness? (o : Octets) : Option Nat :=
  [["*", "/", "%"], ["+", "-"], ["<<", ">>"], ["<", "<=", ">", ">="], ["==", "!="], ["&"], ["^"], ["|"]].findIdx?
    (·.elem o)

/-- What is read of an expression. -/
inductive Level where
  | assignment
  | choice
  | disjunction
  | conjunction
  /-- Operations that bind more tightly than some number says. -/
  | operation (most : Nat)
  | primary
  deriving DecidableEq

/-- Goes on with operations that bind more tightly than some number says. -/
def operationsFrom (whole : Octets) (operand : Nat → Calc Int) (idle : Bool) (most : Nat) : Nat → Int → Calc Int
  | 0, a => return a
  | n + 1, a => do
    match ← get with
    | .op o :: r =>
      match (looseness? o).filter (· < most) with
      | none => return a
      | some k =>
        set r
        let b ← operand k
        operationsFrom whole operand idle most n (← if idle then pure b else operate whole o a b)
    | _ => return a

/-- The value of a part of an expression, which has no effects if it is idle. The number bounds the depth. -/
def expression (whole : Octets) : Nat → Level → Bool → Calc Int
  | 0, _, _ => refuse whole "expecting primary"
  | n + 1, level, idle => do
    let part := expression whole n
    match level with
    | .assignment =>
      match ← get with
      | .name name :: .op o :: r =>
        let operator := String.ofList o.toList.dropLast
        if o = "=" || (o.toList.getLast? = some '=' && (looseness? operator).isSome && (looseness? o).isNone) then
          set r
          let v ← part .assignment idle
          if idle then return v
          let v ← if o = "=" then pure v else operate whole operator (← valueOf name) v
          if ← Sh.isReadonly name then throw (name ++ ": is read only")
          Sh.store name (Octets.ofInt v)
          return v
        else part .choice idle
      | _ => part .choice idle
    | .choice =>
      let test ← part .disjunction idle
      if ← takes "?" then
        let a ← part .assignment (idle || test = 0)
        if !(← takes ":") then refuse whole "expecting ':'"
        let b ← part .choice (idle || test ≠ 0)
        return if test ≠ 0 then a else b
      else return test
    | .disjunction =>
      let a ← part .conjunction idle
      if ← takes "||" then
        let b ← part .disjunction (idle || a ≠ 0)
        return if a ≠ 0 || b ≠ 0 then 1 else 0
      else return a
    | .conjunction =>
      let a ← part (.operation 8) idle
      if ← takes "&&" then
        let b ← part .conjunction (idle || a = 0)
        return if a ≠ 0 && b ≠ 0 then 1 else 0
      else return a
    | .operation most =>
      let a ← part .primary idle
      operationsFrom whole (fun k => part (.operation k) idle) idle most (n + 1) a
    | .primary =>
      let ts ← get
      set (ts.drop 1)
      match ts with
      | .number v :: _ => return v
      | .name name :: _ => if idle then return 0 else valueOf name
      | .op "(" :: _ =>
        let v ← part .assignment idle
        if !(← takes ")") then refuse whole "expecting ')'"
        return v
      | .op "+" :: _ => part .primary idle
      | .op "-" :: _ => return Octets.wrap (-(← part .primary idle))
      | .op "!" :: _ => return if (← part .primary idle) = 0 then 1 else 0
      | .op "~" :: _ => return -(← part .primary idle) - 1
      | _ => refuse whole "expecting primary"

/-- The value of an expression, or the message of what is wrong with it. -/
def evaluate (s : Octets) : Sh (Except Octets Int) := do
  let ts := tokens (s.length + 1) s.toList
  let body : Calc Int := do
    let v ← expression s (10 * s.length + 20) .assignment false
    if (← get) ≠ [] then refuse s "expecting EOF"
    return v
  return (← (body.run ts).run).map (·.1)

end ShellCoverage.Shell.Arithmetic.Plain
