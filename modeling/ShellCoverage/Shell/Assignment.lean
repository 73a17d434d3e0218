import ShellCoverage.Shell.Tracing

/-!
# Assignments

* `Assignment.read?` : the parts of a word that is an assignment;
* `Sh.assignWord` : performs the assignment in a word;
* `Sh.assignElements` : gives a variable a list or table of elements.
-/

namespace ShellCoverage.Shell

/-- The parts of an assignment. -/
structure Assignment where
  name : Octets
  /-- The text between the brackets. -/
  subscript : Option (List Char) := none
  /-- The value is put after the old one. -/
  appends : Bool := false
  value : List Char
  deriving Repr

namespace Assignment

/-- The parts of a word that is an assignment. -/
def read? (w : Word) : Option Assignment :=
  let cs := w.toList
  let name := cs.takeWhile Octets.isNameChar
  let finish (subscript : Option (List Char)) (rest : List Char) : Option Assignment :=
    match rest with
    | '=' :: value => some ⟨String.ofList name, subscript, false, value⟩
    | '+' :: '=' :: value => some ⟨String.ofList name, subscript, true, value⟩
    | _ => none
  if !Octets.isNameList name then none
  else
    match cs.drop name.length with
    | '[' :: r =>
      match Field.upTo .bracket r with
      | some (sub, rest) => finish (some sub.dropLast) rest
      | none => none
    | rest => finish none rest

/-- The text before the equals sign, the sign for appending included. -/
def left (a : Assignment) : Octets :=
  a.name ++ (match a.subscript with | some s => "[" ++ String.ofList s ++ "]" | none => "") ++
    (if a.appends then "+" else "")

/-- The text between the parentheses, if the value is a list of elements. -/
def elements? (a : Assignment) : Option (List Char) :=
  match a.value with
  | '(' :: r => if r.getLast? = some ')' then some r.dropLast else none
  | _ => none

/-- A string may be the value of a reference: it is the name of a variable or of an element. -/
def isReference (s : Octets) : Bool :=
  match read? (s ++ "=") with
  | some a => !a.appends && a.subscript ≠ some []
  | none => false

end Assignment

/-- An element of a list or table, after expansion. -/
structure Element where
  /-- The subscript, if there is one. -/
  key : Option Octets := none
  appends : Bool := false
  value : Octets
  /-- The word as it was written. -/
  word : Octets := ""
  deriving Repr, Inhabited

/-- The element as a trace shows it. -/
def Element.traced (e : Element) : Octets :=
  match e.key with
  | none => Quoting.single e.value
  | some k => "[" ++ Quoting.single k ++ "]" ++ (if e.appends then "+=" else "=") ++ Quoting.single e.value

/-- The element of a declaration: messages show it as the trace does. -/
def Element.declared (e : Element) : Element := { e with word := e.traced }

namespace Sh
open Expansion

variable (runs : Runs)

/-- The number that an element of a list has for its subscript; none if it would stand before the first
one. -/
def elementNumber? (name sub : Octets) : Sh (Option Nat) := do
  Arithmetic.elementIndex? name (← Arithmetic.subscript sub)

/-- Says that a subscript is none. -/
def refuseSubscript (shown : Octets) : Sh Unit := report (shown ++ ": bad array subscript")

/-- The value that a variable gets: that of an expression if the variable holds integers. -/
def valueFor (name s : Octets) (appends : Bool) (old : Octets) : Sh Octets := do
  if ((← findVariable name).map (·.integer)).getD false then
    let n ← evaluate "" s
    if appends then return Octets.ofInt (Octets.wrap ((← evaluate "" old) + n))
    else return Octets.ofInt n
  else return if appends then old ++ s else s

/-- Gives an element of a variable a string, after what it has if asked; the result says whether there is such
an element. -/
def assignElement? (name sub : Octets) (appends : Bool) (s : Octets) : Sh Bool := do
  match ← lookup? name with
  | some (.keyed es) =>
    if sub = "" then return false
    storeKey name sub (← valueFor name s appends ((Table.get? sub es).getD ""))
    return true
  | v =>
    match ← elementNumber? name sub with
    | none => return false
    | some i =>
      let old := match v with
        | some (.indexed es) => (es.lookup i).getD ""
        | some (.scalar t) => if i = 0 then t else ""
        | _ => ""
      storeIndex name i (← valueFor name s appends old)
      return true

/-- Gives a variable, or an element of it, a string; the result says whether there is such an element. A
reference may name an element too. -/
def assignScalar? (name : Octets) (sub : Option Octets) (appends : Bool) (s : Octets) : Sh Bool := do
  warnCircular name (if sub.isSome then 2 else 1)
  let target ← target name
  if ← isReadonly name then refuseReadonly target.name
  let (name, sub) ← match sub, Assignment.read? (target.name ++ "=") with
    | some sub, _ => pure (name, some sub)
    | none, some ⟨base, some sub, _, _⟩ => pure (base, some (String.ofList sub))
    | none, _ => pure (name, none)
  match sub with
  | none =>
    if target = .nowhere target.name then return false
    let isUnsetReference := (Variables.at? target (← process).vars).any (·.reference)
    if isUnsetReference && !(Assignment.isReference s) then
      report ("\x60" ++ s ++ "': not a valid identifier")
      return false
    store name (← valueFor name s appends (← scalar name))
    return true
  | some sub =>
    if sub ≠ "" then
      if ← assignElement? name sub appends s then return true
    refuseSubscript (name ++ "[" ++ sub ++ "]")
    return false

/-- Gives a variable, or an element of it, a string. The shell goes on with its next line if there is no such
element. -/
def assignScalar (name : Octets) (sub : Option Octets) (appends : Bool) (s : Octets) : Sh Unit := do
  if !(← assignScalar? name sub appends s) then throw (.discarded 1)

/-- A subscript after expansion. -/
def expandSubscript (sub : List Char) : Sh Octets := do
  return Field.text (← items runs false false .bare sub)

/-- The element that a word with a subscript gives. -/
def subscribed? (w : Word) : Sh (Option Element) := do
  match w.toList with
  | '[' :: r =>
    match Field.upTo .bracket r with
    | some (sub, '=' :: value) =>
      return some ⟨some (← expandSubscript runs sub.dropLast), false, ← expandValue runs value, w⟩
    | some (sub, '+' :: '=' :: value) =>
      return some ⟨some (← expandSubscript runs sub.dropLast), true, ← expandValue runs value, w⟩
    | _ => return none
  | _ => return none

/-- The elements that a word of a list gives. -/
def elementsOfWord (w : Word) : Sh (List Element) := do
  match ← subscribed? runs w with
  | some e => return [e]
  | none => return (← fieldsOf runs w).map fun s => { value := s, word := w }

/-- The elements of a table: either all words have subscripts, or none of them has. -/
def elementsOfTable (ws : List Word) : Sh (List Element) := do
  let simple (w : Word) : Sh Element := return { value := ← expandText runs w, word := w }
  match ws with
  | [] => return []
  | w :: ws =>
    match ← subscribed? runs w with
    | none => do
      let e ← simple w
      return e :: (← ws.mapM simple)
    | some e =>
      let es ← ws.mapM fun w => do
        match ← subscribed? runs w with
        | some e => return e
        | none => return { value := w, word := w }
      return e :: es

/-- The elements in the text between parentheses, for a list or a table. -/
def elementsOfText (isTable : Bool) (cs : List Char) : Sh (List Element) := do
  match Reader.elementWords cs with
  | .ok ws => if isTable then elementsOfTable runs ws else return (← ws.mapM (elementsOfWord runs)).flatten
  | .error _ =>
    report "syntax error near unexpected token in list"
    throw (.discarded 1)

/-- Gives an element of a table a string, unless its name is empty. -/
def storeElement (name : Octets) (e : Element) (key value : Octets) : Sh Unit := do
  if !(← assignElement? name key e.appends value) then refuseSubscript e.word

/-- Puts elements without subscripts into a table: names and values take turns. -/
def storePairs (name : Octets) : List Element → Sh Unit
  | [] => pure ()
  | [e] => storeElement name e e.value ""
  | e :: f :: es => do
    storeElement name e e.value f.value
    storePairs name es

/-- Puts elements with subscripts into a table. -/
def storeKeyed (name : Octets) : List Element → Sh Unit
  | [] => pure ()
  | e :: es => do
    match e.key with
    | some k => storeElement name e k e.value
    | none => report (name ++ ": " ++ e.word ++ ": must use subscript when assigning associative array")
    storeKeyed name es

/-- Puts elements into a list, from a number on. -/
def storeList (name : Octets) : Nat → List Element → Sh Unit
  | _, [] => pure ()
  | i, e :: es => do
    let i? ← match e.key with
      | some k => elementNumber? name k
      | none => pure (some i)
    match i? with
    | none =>
      refuseSubscript e.word
      storeList name i es
    | some i =>
      let old := match ← lookup? name with
        | some (.indexed es) => (es.lookup i).getD ""
        | _ => ""
      storeIndex name i (← valueFor name e.value e.appends old)
      storeList name (i + 1) es

/-- Gives a variable a list or table of elements. -/
def assignElements (name : Octets) (appends : Bool) (es : List Element) : Sh Unit := do
  if ← isReadonly name then refuseReadonly name
  match ← lookup? name with
  | some (.keyed old) =>
    storeValue name (.keyed (if appends then old else []))
    if es.head?.any (·.key.isSome) then storeKeyed name es else storePairs name es
  | v =>
    let kept : List (Nat × Octets) :=
      match appends, v with
      | true, some (.indexed old) => old
      | true, some (.scalar s) => [(0, s)]
      | _, _ => []
    storeValue name (.indexed kept)
    storeList name ((kept.getLast?.map (·.1 + 1)).getD 0) es

/-- Performs an assignment that stands on its own. -/
def assign (a : Assignment) : Sh Unit := do
  match a.elements?, a.subscript with
  | some cs, none =>
    trace runs (a.left ++ "=" ++ String.ofList a.value)
    warnCircular a.name 1
    assignElements a.name a.appends (← elementsOfText runs (← isKeyed a.name) cs)
  | _, none =>
    let s ← expandValue runs a.value
    traceAssignment runs a.left s
    assignScalar a.name none a.appends s
  | _, some written =>
    let s ← expandValue runs a.value
    traceAssignment runs a.left s
    let sub ← expandSubscript runs written
    warnCircular a.name 2
    let name ← resolveName a.name
    if !(Octets.isName name) then
      report ("\x60" ++ name ++ "': not a valid identifier")
      throw (.discarded 1)
    if ← isReadonly a.name then refuseReadonly name
    if written ≠ [] then
      if ← assignElement? a.name sub a.appends s then return
    refuseSubscript (a.name ++ "[" ++ String.ofList written ++ "]")
    throw (.discarded 1)

/-- Performs the assignment in a word. -/
def assignWord (w : Word) : Sh Unit := do
  match Assignment.read? w with
  | some a => assign runs a
  | none => pure ()

end Sh

end ShellCoverage.Shell
