import ShellCoverage.Shell.Arithmetic.Plain
import ShellCoverage.Shell.Glob
import ShellCoverage.Shell.Parameter
import ShellCoverage.Shell.Prompt
import ShellCoverage.Shell.Running

/-!
# Values of parameters

What a parameter stands for, and how it becomes part of a word. Texts inside parameter expansions are
expanded by the argument `expand`.

* `Context` : what surrounds a text that is expanded;
* `Found` : the value of a parameter; `valueOf` finds it, `emit` makes items of it;
* `assignTo` : gives a parameter a value;
* `requireSet` : refuses a parameter without a value where one is asked for.
-/

namespace ShellCoverage.Shell.Expansion

/-- What surrounds a text that is expanded. -/
inductive Context where
  /-- Nothing: quotes have their meaning. -/
  | bare
  /-- Double quotes. -/
  | quoted
  /-- Double quotes, and a word inside an expansion, in which double quotes have no effect. -/
  | quotedWord
  /-- The text of a redirection. -/
  | document
  deriving DecidableEq

/-- The origin of what is expanded in a context. -/
def Context.origin : Context → Origin
  | .bare => .expanded
  | _ => .quoted

/-- The value that a parameter has. -/
inductive Found where
  | unset
  | one (s : Octets)
  /-- The values of a list; it is one string in quotes if `star` is set. -/
  | many (ss : List Octets) (star : Bool)

/-- Fails: the shell ends if `ends` is set, and goes on with its next line otherwise. -/
def fail {α : Type} (message : Octets) (ends : Bool) : Sh α := do
  if (← Sh.process).dialect = .plain then Sh.fault message
  Sh.report message
  throw (if ends then .exited 1 else .discarded 1)

/-- The items of a value. -/
def emit (ctx : Context) (f : Found) : Sh (List Item) := do
  match f with
  | .unset => return []
  | .one s => return Field.chars ctx.origin s.toList
  | .many ss star =>
    let between ← if star || (← Sh.process).dialect = .plain then Sh.firstSeparator else pure [' ']
    if ctx = .bare then
      return (ss.map fun s => Field.chars .expanded s.toList).intersperse [.separation between] |>.flatten
    else if star then
      return Field.chars .quoted (List.intercalate between (ss.map String.toList))
    else if ss = [] then return [.absent]
    else
      return (ss.map fun s => .present :: Field.chars .quoted s.toList).intersperse [.separation between]
        |>.flatten

/-- Literal characters, where they stand for the value of an expansion. -/
def asValue (is : List Item) : List Item :=
  is.map fun i => match i with | .char c .literal => .char c .expanded | i => i


/-- The directory that a tilde and the name after it mean. -/
def tilde? (name : List Char) : Sh (Option Octets) := do
  let plain := (← Sh.process).dialect = .plain
  if plain && name.any (fun c => c = '+' || c = '-') then return none
  match name with
  | [] =>
    match ← Sh.scalar? "HOME" with
    | some home => return some home
    | none => return if plain then none else some defaultHome
  | ['+'] => Sh.scalar? "PWD"
  | ['-'] => Sh.scalar? "OLDPWD"
  | _ =>
    let p ← Sh.process
    let stack := p.cwdPath :: p.directories
    let (fromEnd, digits) : Bool × List Char :=
      match name with
      | '+' :: ds => (false, ds)
      | '-' :: ds => (true, ds)
      | ds => (false, ds)
    match Octets.natural? (String.ofList digits), p.dialect with
    | some n, .full => return (if fromEnd then stack.reverse else stack)[n]?
    | _, _ => return if name = "root".toList then some defaultHome else none

/-- The value of a list or table as the values of its elements. -/
def elementsOf (v : Option Value) (star : Bool) : Found :=
  .many (((v.map Value.elements).getD []).map (·.2)) star

/-- The value of an expression, the text of which was expanded; the name of a command stands before
its errors, by default that of the one that is running. -/
def evaluate (name : Octets) (s : Octets) : Sh Int := do
  if (← Sh.process).dialect = .plain then
    match ← Arithmetic.Plain.evaluate s with
    | .ok n => return n
    | .error message => fail message true
  match ← Arithmetic.evaluate s with
  | .ok n => return n
  | .error e =>
    let running := (← Sh.process).command
    match e.message? with
    | some m => fail (e.heading (if name = "" then running else name) ++ m) e.ends
    | none => throw (.discarded 1)

/-- An expansion of a text in a context. -/
abbrev Expands := Context → List Char → Sh (List Item)

variable (expand : Expands)

/-- The expansion of a text as one string. -/
def stringOf (cs : List Char) : Sh Octets := do
  return Field.text (← expand .bare cs)

/-- The expansion of the text of an arithmetic expression. -/
def expressionOf (cs : List Char) : Sh Octets := do
  return Field.text (← expand .quotedWord cs)

/-- The value of an expression that stands for its value. A wrong one ends a shell that keeps to the
standard. -/
def numberOf (cs : List Char) : Sh Int := do
  let text ← expressionOf expand cs
  match ← Sh.attempt (evaluate "" text) with
  | .error (.discarded n line) => throw (if ← Sh.isStandard then .exited n else .discarded n line)
  | r => Sh.conclude r

/-- The number that a subscript means. -/
def subscriptOf (cs : List Char) : Sh Int := do Arithmetic.subscript (← expressionOf expand cs)

/-- The value of an expression that concerns a parameter. -/
def numberFor (p : Parameter) (cs : List Char) : Sh Int := do
  evaluate (Parameter.text p) (← expressionOf expand cs)

/-- The pattern in a text. -/
def patternOf (cs : List Char) : Sh (List Pattern) := do
  let is ← expand .bare cs
  return (← Sh.charset).pattern (← Sh.hasFeature "extglob") (Field.flatten is)

/-- The element of a value that has some number. -/
def elementAt (v : Option Value) (i : Nat) : Found :=
  match v with
  | some (.indexed es) => (es.lookup i).elim .unset .one
  | some (.scalar s) => if i = 0 then .one s else .unset
  | _ => .unset

/-- The value of an element of a variable, or of all elements. Some action follows where a subscript would
stand before the first element. -/
def valueOfElement (name : Octets) (sub : List Char) (refuse : Sh Unit) : Sh Found := do
  if (← Sh.process).dialect = .plain then fail "Bad substitution" true
  if sub = ['@'] || sub = ['*'] then
    return elementsOf (← Sh.lookup? name) (sub = ['*'])
  else
    match ← Sh.lookup? name with
    | some (.keyed es) =>
      let key ← stringOf expand sub
      if key = "" then Sh.report (name ++ ": bad array subscript")
      return (Table.get? key es).elim .unset .one
    | v =>
      match ← Arithmetic.elementIndex? name (← subscriptOf expand sub) with
      | some i => return elementAt v i
      | none =>
        refuse
        return .unset

/-- The value of an element of a variable, or of all elements. A subscript before the first element is
reported. -/
def valueOrRefusal (name : Octets) (sub : List Char) : Sh Found :=
  valueOfElement expand name sub (Sh.report (name ++ ": bad array subscript"))

/-- The value of a parameter. -/
def valueOf (p : Parameter) : Sh Found := do
  match p with
  | .special c =>
    match ← Sh.special? c with
    | some s => return .one s
    | none => return .unset
  | .positional n =>
    match (← Sh.parameters)[n - 1]? with
    | some s => return .one s
    | none => return .unset
  | .all star => return .many (← Sh.parameters) star
  | .variable name none => do
    let target ← Sh.resolveName name
    match if target = name then none else Parameter.read? target.toList with
    | some (.variable base (some sub), []) => valueOrRefusal expand base sub
    | _ =>
      match ← Sh.scalar? name with
      | some s => return .one s
      | none => return .unset
  | .variable name (some sub) => valueOrRefusal expand name sub

/-- Gives a parameter a value. -/
def assignTo (p : Parameter) (s : Octets) : Sh Unit := do
  match p with
  | .variable name sub =>
    if ← Sh.isReadonly name then Sh.refuseReadonly name
    match sub with
    | none => Sh.store name s
    | some sub =>
      if ← Sh.isKeyed name then Sh.storeKey name (← stringOf expand sub) s
      else
        match ← Arithmetic.elementIndex? name (← subscriptOf expand sub) with
        | some i => Sh.storeIndex name i s
        | none => fail (Parameter.text p ++ ": bad array subscript") false
  | p =>
    if (← Sh.process).dialect = .plain then fail (Parameter.text p ++ ": bad variable name") true
    fail ("$" ++ Parameter.text p ++ ": cannot assign in this way") false

/-- The value has no parameter behind it, or, if asked, is empty: several values have something between
them. -/
def isMissing (orEmpty : Bool) : Found → Bool
  | .unset => true
  | .one s => orEmpty && s = ""
  | .many ss _ => ss = [] || (orEmpty && ss = [""])

/-- Fails if a parameter is not set and has to be. A message names one that has no name of letters with
its dollar sign, if it stands without braces. -/
def requireSet (p : Parameter) (braced : Bool) (f : Found) : Sh Unit := do
  match f with
  | .unset =>
    if ← Sh.hasOption "nounset" then
      if (← Sh.process).dialect = .plain then fail (Parameter.text p ++ ": parameter not set") true
      else
        let mark := match p with | .positional _ | .special _ => if braced then "" else "$" | _ => ""
        fail (mark ++ Parameter.text p ++ ": unbound variable") true
  | _ => pure ()

end ShellCoverage.Shell.Expansion
