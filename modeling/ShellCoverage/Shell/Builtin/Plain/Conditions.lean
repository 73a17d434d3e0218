import ShellCoverage.Shell.Builtin.Plain

/-!
# Conditions of the plain shell

`test` reads its arguments as an expression with alternatives, conjunctions and negations; an argument is an operator
only where it has operands.

* `Condition.Operator.of?` : the operator that an argument is;
* `Condition.alternatives` : an expression, with the arguments that are left;
* `Plain.test` : the command.
-/

namespace ShellCoverage.Shell.Builtin.Plain

namespace Condition

/-- What an argument means by itself. -/
inductive Operator where
  /-- It has one operand. -/
  | unary
  /-- It has two operands. -/
  | binary
  | opening
  | closing
  | negation
  | conjunction
  | alternative
  deriving DecidableEq

/-- The operators with one operand. -/
def unaryNames : List Octets :=
  ["-r", "-w", "-x", "-e", "-f", "-d", "-c", "-b", "-p", "-u", "-g", "-k", "-s", "-t", "-z", "-n", "-h", "-O", "-G",
    "-L", "-S"]

/-- The operators with two operands. -/
def binaryNames : List Octets :=
  ["=", "!=", "<", ">", "-eq", "-ne", "-ge", "-gt", "-le", "-lt", "-nt", "-ot", "-ef"]

/-- The operator that an argument is by itself. -/
def Operator.of? (s : Octets) : Option Operator :=
  if unaryNames.elem s then some .unary
  else if binaryNames.elem s then some .binary
  else
    match s with
    | "!" => some .negation
    | "-a" => some .conjunction
    | "-o" => some .alternative
    | "(" => some .opening
    | ")" => some .closing
    | _ => none

/-- An operator with one operand is an operand itself if nothing follows, or if an operator with two operands and
its second operand do. -/
def isOperand : List Octets → Bool
  | [] => true
  | [_] => false
  | b :: _ => Operator.of? b = some .binary

/-- What the first argument is among those that follow; nothing if it is an operand. -/
def leading? : List Octets → Option Operator
  | [] => none
  | a :: rest =>
    match Operator.of? a with
    | some .unary => if isOperand rest then none else some .unary
    | some .opening => if rest = [] then none else some .opening
    | o => o

/-- Refuses an expression because of an argument. -/
def refuse {α : Type} (arg cause : Octets) : Sh α :=
  Sh.fault ((if arg = "" then "" else arg ++ ": ") ++ cause)

/-- The number that an operand stands for. -/
def operand (s : Octets) : Sh Int := do
  match Octets.machineInteger? s with
  | some n => return n
  | none => refuseNumber s

/-- The condition of an operator with two operands. -/
def compare (a op b : Octets) : Sh Bool := do
  match Testing.comparison? op with
  | some f =>
    let x ← operand a
    return f x (← operand b)
  | none => return (← Testing.binary? op a b).getD false

/-- The condition of an operator with one operand. -/
def check (op a : Octets) : Sh Bool := do
  if op = "-t" then discard (operand a)
  return (← Testing.unary? op a).getD false

/-- The truth of what begins an expression, and the arguments that are left; the first one is read as an operand if
`plainly` is set. -/
abbrev Part := Bool → List Octets → Sh (Bool × List Octets)

/-- A term: a string, a condition, or an expression between parentheses. -/
def term (expression : Part) : Part := fun plainly args => do
  match args with
  | [] => return (false, [])
  | a :: rest =>
    match if plainly then none else leading? args with
    | some .opening =>
      if leading? rest = some .closing then return (false, rest.drop 1)
      match ← expression false rest with
      | (t, ")" :: rest) => return (t, rest)
      | _ => refuse "" "closing paren expected"
    | some .unary =>
      match rest with
      | [] => refuse a "argument expected"
      | b :: rest => return (← check a b, rest)
    | _ =>
      match leading? rest, rest with
      | some .binary, op :: b :: rest => return (← compare a op b, rest)
      | some .binary, op :: [] => refuse op "argument expected"
      | _, _ => return (a ≠ "", rest)

/-- A term after any number of negations. -/
def negated (part : Part) : Nat → Part
  | 0, _, args => return (false, args)
  | n + 1, plainly, args => do
    match (if plainly then none else leading? args), args with
    | some .negation, _ :: rest =>
      let (t, rest) ← if rest = [] then pure (false, []) else negated part n false rest
      return (!t, rest)
    | _, _ => part plainly args

/-- Parts with an operator between them. -/
def joined (operator : Operator) (join : Bool → Bool → Bool) (part : Part) : Nat → Part
  | 0, _, args => return (false, args)
  | n + 1, plainly, args => do
    let (t, rest) ← part plainly args
    if leading? rest = some operator then
      let (u, rest) ← joined operator join part n false (rest.drop 1)
      return (join t u, rest)
    else return (t, rest)

/-- An expression in which parentheses nest at most so deep. -/
def alternatives : Nat → Part
  | 0 => fun _ args => return (false, args)
  | n + 1 =>
    let terms := negated (term (alternatives n)) (n + 1)
    joined .alternative (· || ·) (joined .conjunction (· && ·) terms (n + 1)) (n + 1)

/-- The truth of a whole expression, which may be negated. An argument after it is blamed on the one before. -/
def whole (negates plainly : Bool) (args : List Octets) : Sh Bool := do
  match ← alternatives (args.length + 1) plainly args with
  | (t, []) => return t != negates
  | (_, rest) => refuse ((args[args.length - rest.length - 1]?).getD "") "unexpected operator"

/-- The truth of three arguments. -/
def three (negates : Bool) (a op b : Octets) : Sh Bool :=
  if Operator.of? op = some .binary then whole negates true [a, op, b]
  else if a = "(" && b = ")" then whole negates false [op]
  else if a = "!" then whole true false [op, b]
  else whole negates false [a, op, b]

/-- The truth of some arguments, which for few of them is decided by their number. -/
def holds (args : List Octets) : Sh Bool := do
  match args with
  | [] => return false
  | [a, op, b] => three false a op b
  | [a, b, c, d] =>
    if a = "(" && d = ")" then whole false false [b, c]
    else if a = "!" then three true b c d
    else whole false false [a, b, c, d]
  | args => whole false false args

end Condition

/-- `test` and `[` -/
def test (name : Octets) : Builtin := fun args => do
  let args ←
    if name = "[" then
      if args.getLast? = some "]" then pure args.dropLast else Sh.fault "missing ]"
    else pure args
  return statusOf (← Condition.holds args)

end ShellCoverage.Shell.Builtin.Plain
