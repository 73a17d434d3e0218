import ShellCoverage.Shell.Arithmetic

/-!
# Tests

The conditions of `test` and of `[[ … ]]` on strings, numbers and files.

* `Testing.unary?`, `Testing.binary?` : conditions with one and two operands;
* `Testing.evaluate` : the expression of `test`, which is read by the number of its arguments.
-/

namespace ShellCoverage.Shell.Testing

/-- The node at a path satisfies a condition. -/
def onNode (follow : Bool) (path : Octets) (p : Node → Bool) : Sh Bool := do
  if (Sh.namedDescriptor? path).isSome then
    return ((← Sh.openFile? ((Sh.namedDescriptor? path).getD 0)).isSome) && p .device
  match ← Sh.node? follow path with
  | .ok (_, x) => return p x
  | .error _ => return false

/-- A file that has something in it. When files are read is not kept, so that this stands for the condition that a
file was changed after it was read: a file is empty when it is made. -/
def hasContent : Node → Bool
  | .file _ c => !c.isEmpty
  | _ => false

/-- An element of a list is set. -/
def isElementSet (name sub : Octets) (v : Value) : Sh Bool := do
  if sub = "@" || sub = "*" then return !v.elements.isEmpty
  match ← Arithmetic.elementIndex? name (← Arithmetic.subscript sub) with
  | some i => return (v.elements.lookup (Octets.ofNat i)).isSome
  | none =>
    Sh.report (name ++ ": bad array subscript")
    return false

/-- A variable, an element of one, or a positional parameter is set. -/
def isSet (name : Octets) : Sh Bool := do
  let base := String.ofList (name.toList.takeWhile (· ≠ '['))
  Sh.warnCircular base 1
  if base.length = name.length then
    match Octets.natural? name with
    | some n => return n ≤ (← Sh.parameters).length
    | none => return (← Sh.scalar? name).isSome
  else
    let sub := String.ofList ((name.toList.drop (base.length + 1)).dropLast)
    match ← Sh.lookup? base with
    | some (.keyed es) => return Table.has sub es
    | some v => isElementSet base sub v
    | none => return false

/-- The condition of an operator with one operand; none if it is no such operator. -/
def unary? (op arg : Octets) : Sh (Option Bool) := do
  match op with
  | "-n" => return some (arg ≠ "")
  | "-z" => return some (arg = "")
  | "-e" | "-a" => some <$> onNode true arg fun _ => true
  | "-f" => some <$> onNode true arg Node.isFile
  | "-d" => some <$> onNode true arg Node.isDirectory
  | "-h" | "-L" => some <$> onNode false arg fun x => match x with | .link _ => true | _ => false
  | "-r" => some <$> onNode true arg Node.isReadable
  | "-w" => some <$> onNode true arg Node.isWritable
  | "-x" => some <$> onNode true arg Node.isExecutable
  | "-s" => some <$> onNode true arg fun x => x.isDirectory || hasContent x
  | "-c" => some <$> onNode true arg fun x => match x with | .device => true | _ => false
  | "-p" => some <$> onNode true arg fun x => match x with | .fifo _ => true | _ => false
  | "-u" => some <$> onNode true arg fun x => x.mode / 0o4000 % 2 = 1
  | "-g" => some <$> onNode true arg fun x => x.mode / 0o2000 % 2 = 1
  | "-k" => some <$> onNode true arg fun x => x.mode / 0o1000 % 2 = 1
  | "-b" | "-S" => return some false
  | "-O" | "-G" => some <$> onNode true arg fun _ => true
  | "-N" => some <$> onNode true arg hasContent
  | "-t" => return some false
  | "-o" => some <$> Sh.hasOption arg
  | "-v" => some <$> isSet arg
  | "-R" => return some (((← Sh.process).vars.find? arg).any (·.reference))
  | _ => return none

/-- The operators that compare numbers. -/
def comparison? (op : Octets) : Option (Int → Int → Bool) :=
  match op with
  | "-eq" => some fun a b => a = b
  | "-ne" => some fun a b => a ≠ b
  | "-lt" => some fun a b => a < b
  | "-le" => some fun a b => a ≤ b
  | "-gt" => some fun a b => b < a
  | "-ge" => some fun a b => b ≤ a
  | _ => none

/-- The place that a path leads to. -/
def placeOf? (path : Octets) : Sh (Option (List Name)) := do
  match ← Sh.node? true path with
  | .ok (place, _) => return some place
  | .error _ => return none

/-- The file at a path was changed after that at another one, or is there and the other one is not, which the plain
shell does not count. -/
def isNewer (a b : Octets) : Sh Bool := do
  match ← placeOf? a, ← placeOf? b with
  | some x, some y =>
    let times := (← Sh.world).times
    return (Table.get? y times).getD 0 < (Table.get? x times).getD 0
  | x, y => return (← Sh.process).dialect = .full && x.isSome && y.isNone

/-- The condition of an operator that compares strings or files; none if it is no such operator. -/
def binary? (op a b : Octets) : Sh (Option Bool) := do
  match op with
  | "=" | "==" => return some (a = b)
  | "!=" => return some (a ≠ b)
  | "<" => return some (decide (a.toList < b.toList))
  | ">" => return some (decide (b.toList < a.toList))
  | "-ef" => do
    match ← placeOf? a, ← placeOf? b with
    | some x, some y => return some (((← Sh.world).namesOf x).elem y)
    | _, _ => return some false
  | "-nt" => some <$> isNewer a b
  | "-ot" => some <$> isNewer b a
  | _ => return none

/-- The name is an operator with two operands. -/
def isBinary (op : Octets) : Bool :=
  ["=", "==", "!=", "<", ">", "-ef", "-nt", "-ot"].elem op || (comparison? op).isSome

/-- The name is an operator with one operand. -/
def isUnary (op : Octets) : Bool :=
  match op.toList with
  | ['-', c] => "abcdefghknoprstuvwxzGLNORS".toList.elem c
  | _ => false

/-- A condition, or a complaint. -/
abbrev Verdict := Except Octets Bool

/-- The condition of an operator with two operands. -/
def compare (a op b : Octets) : Sh Verdict := do
  match comparison? op with
  | some f =>
    match Octets.machineInteger? a, Octets.machineInteger? b with
    | some x, some y => return .ok (f x y)
    | none, _ => return .error (a ++ ": integer expression expected")
    | _, none => return .error (b ++ ": integer expression expected")
  | none =>
    match ← binary? op a b with
    | some t => return .ok t
    | none => return .error (op ++ ": binary operator expected")

/-- The condition of an operator with one operand. -/
def check (op a : Octets) : Sh Verdict := do
  match ← unary? op a with
  | some t => return .ok t
  | none => return .error (op ++ ": unary operator expected")

/-- Negates a verdict. -/
def deny (v : Verdict) : Verdict := v.map (!·)

/-- A longer expression: alternatives if `level` is zero, conjunctions if it is one, a term otherwise;
the result has the arguments left. -/
def longer : Nat → Nat → List Octets → Sh (Except Octets (Bool × List Octets))
  | 0, _, _ => return .error "argument expected"
  | n + 1, 0, args => do
    match ← longer n 1 args with
    | .ok (a, "-o" :: rest) =>
      match ← longer n 0 rest with
      | .ok (b, rest) => return .ok (a || b, rest)
      | e => return e
    | r => return r
  | n + 1, 1, args => do
    match ← longer n 2 args with
    | .ok (a, "-a" :: rest) =>
      match ← longer n 1 rest with
      | .ok (b, rest) => return .ok (a && b, rest)
      | e => return e
    | r => return r
  | n + 1, level, args => do
    match args with
    | [] => return .error "argument expected"
    | "!" :: rest =>
      match ← longer n level rest with
      | .ok (b, rest) => return .ok (!b, rest)
      | e => return e
    | "(" :: rest =>
      match ← longer n 0 rest with
      | .ok (b, ")" :: rest) => return .ok (b, rest)
      | .ok _ => return .error "\x60)' expected"
      | e => return e
    | a :: op :: b :: rest =>
      if isBinary op then
        match ← compare a op b with
        | .ok t => return .ok (t, rest)
        | .error e => return .error e
      else if isUnary a then
        match ← check a op with
        | .ok t => return .ok (t, b :: rest)
        | .error e => return .error e
      else return .ok (a ≠ "", op :: b :: rest)
    | [a, b] =>
      if isUnary a then
        match ← check a b with
        | .ok t => return .ok (t, [])
        | .error e => return .error e
      else return .ok (a ≠ "", [b])
    | [a] => return .ok (a ≠ "", [])

/-- An expression of more arguments than the rules by number cover. -/
def general (args : List Octets) : Sh Verdict := do
  match ← longer (4 * args.length + 8) 0 args with
  | .ok (t, []) => return .ok t
  | .ok _ => return .error "too many arguments"
  | .error e => return .error e

/-- Two arguments. -/
def two (a b : Octets) : Sh Verdict := do
  if a = "!" then return .ok (b = "")
  else if isUnary a then check a b
  else return .error (a ++ ": unary operator expected")

/-- Three arguments. -/
def three (a b c : Octets) : Sh Verdict := do
  if isBinary b then compare a b c
  else if b = "-a" then return .ok (a ≠ "" && c ≠ "")
  else if b = "-o" then return .ok (a ≠ "" || c ≠ "")
  else if a = "!" then return deny (← two b c)
  else if a = "(" && c = ")" then return .ok (b ≠ "")
  else return .error (b ++ ": binary operator expected")

/-- The expression of `test`. -/
def evaluate (args : List Octets) : Sh Verdict := do
  match args with
  | [] => return .ok false
  | [a] => return .ok (a ≠ "")
  | [a, b] => two a b
  | [a, b, c] => three a b c
  | ["!", a, b, c] => return deny (← three a b c)
  | ["(", a, b, ")"] => two a b
  | args => general args

/-- The status of `test`, with the message for an expression that is wrong. -/
def run (name : Octets) (args : List Octets) (complain : Octets → Sh Unit) : Sh Nat := do
  let args? : Option (List Octets) :=
    if name = "[" then (if args.getLast? = some "]" then some args.dropLast else none) else some args
  match args? with
  | none => complain "[: missing \x60]'"; return 2
  | some args =>
    match ← evaluate args with
    | .ok t => return if t then 0 else 1
    | .error e => complain (name ++ ": " ++ e); return 2

end ShellCoverage.Shell.Testing
