import ShellCoverage.Shell.Assignment
import ShellCoverage.Shell.Builtin.Basic
import ShellCoverage.Shell.Listing

/-!
# Commands on variables

`declare`, `typeset`, `local`, `export`, `readonly`, `unset`, `let`, `alias`, `unalias`.

* `Builtin.declareOne` : gives a variable attributes, in a new scope where one is asked for;
* `Builtin.declaration?` : what a command declares; its words are expanded in a way of their own.
-/

namespace ShellCoverage.Shell.Builtin
open Expansion

variable (runs : Runs)

/-! ## Listing -/

/-- A variable as `declare -p` shows it. -/
def declarationText (k : Charset) (name : Octets) (v : Variable) : Octets :=
  let letters := attributeLetters v
  let head := "declare -" ++ (if letters = "" then "-" else letters) ++ " " ++ name
  match v.value with
  | none => head
  | some (.scalar s) => head ++ "=" ++ Quoting.listed k s
  | some x => if v.isBare then head else head ++ "=" ++ declaredElements k x

/-- A variable with its value as `set` shows it. -/
def assignmentText (k : Charset) (name : Octets) (v : Variable) : Octets :=
  match v.value with
  | none => ""
  | some (.indexed []) | some (.keyed []) => if v.isBare then "" else name ++ "=()\n"
  | some (.scalar s) => name ++ "=" ++ (if s = "" then "" else Quoting.reusable k s) ++ "\n"
  | some x => name ++ "=" ++ declaredElements k x ++ "\n"

/-- The variables, those with computed values included, by name. -/
def allVariables : Sh (List (Octets × Variable)) := do
  let p ← Sh.process
  let vs := Variables.visible p.vars
  let computed ← Sh.computedNames.filterMapM fun n => do
    if p.dialect = .plain || !Sh.isComputed p n then return none
    let isAsked := p.askedNames.elem n
    let readonly : Bool := n = "SHELLOPTS" || n = "BASHOPTS"
    let integer : Bool := ["BASHPID", "HISTCMD", "RANDOM", "SRANDOM"].elem n || (n = "SECONDS" && isAsked)
    let exported := (Table.get? n vs).any (·.exported)
    let declared : Variable := { readonly, integer, exported }
    if Sh.lazyNames.elem n && !isAsked then
      return some (n, { declared with value := if n = "GROUPS" then some (.indexed []) else none })
    match ← Sh.computed? n with
    | some x => return some (n, { declared with value := some x })
    | none => return if n = "FUNCNAME" then some (n, { value := some (.indexed []), isBare := true }) else none
  let vs := (vs.filter fun v => !(computed.any fun c => c.1 = v.1)) ++ computed
  return vs.mergeSort fun a b => le a.1 b.1

/-- Writes the declarations of the variables that satisfy a condition. -/
def listDeclarations (p : Variable → Bool) : Sh Unit := do
  let k ← Sh.charset
  for v in ← allVariables do
    if p v.2 then Sh.write (declarationText k v.1 v.2 ++ "\n")

/-- A variable as the standard has a command show it that gives variables an attribute. -/
def standardText (k : Charset) (command name : Octets) (v : Variable) : Octets :=
  let array := (attributeLetters v).toList.filter fun c => c = 'a' || c = 'A'
  let plain := declarationText k name { value := v.value }
  let rest := String.ofList (((plain.toList.dropWhile (· ≠ ' ')).drop 1).dropWhile (· ≠ ' '))
  command ++ (if array = [] then "" else " -" ++ String.ofList array) ++ rest

/-- Writes the declarations of the variables with an attribute, for a command that gives it. -/
def listMarked (command : Octets) (letter : Char) : Sh Unit := do
  let isStandard ← Sh.isStandard
  let k ← Sh.charset
  for v in ← allVariables do
    if Octets.has letter (attributeLetters v.2) then
      let text := if isStandard then standardText k command v.1 v.2 else declarationText k v.1 v.2
      Sh.write (text ++ "\n")

/-- Writes the definition of a function. -/
def listFunction (name : Octets) (f : Function) : Sh Unit := do
  Sh.write (Listing.function (← bodyText) name f.body ++ "\n")

/-- The attributes of a function as letters. -/
def functionLetters (f : Function) : Octets :=
  (if f.readonly then "r" else "") ++ (if f.traced then "t" else "") ++ (if f.exported then "x" else "")

/-- Writes the declaration of a function without its body. -/
def listFunctionName (name : Octets) (f : Function) : Sh Unit :=
  Sh.write ("declare -f" ++ functionLetters f ++ " " ++ name ++ "\n")

/-- Writes the definition of a function, and its attributes if it has any. -/
def listFunctionFully (name : Octets) (f : Function) : Sh Unit := do
  listFunction name f
  if functionLetters f ≠ "" then listFunctionName name f

/-- Writes variables and functions, as `set` does. -/
def listAll : Sh Unit := do
  let k ← Sh.charset
  for v in ← allVariables do
    Sh.write (assignmentText k v.1 v.2)
  if ← Sh.isStandard then return
  for f in (← Sh.process).functions.mergeSort fun a b => le a.1 b.1 do
    listFunction f.1 f.2

/-! ## Attributes -/

/-- A variable with the attributes that letters stand for. -/
def withAttributes (on off : List Char) (v : Variable) : Variable :=
  let flag (c : Char) (old : Bool) : Bool := on.elem c || (old && !(off.elem c))
  let value :=
    if on.elem 'A' then
      match v.value with
      | some (.keyed es) => some (Value.keyed es)
      | some (.scalar s) => some (.keyed [("0", s)])
      | _ => some (.keyed [])
    else if on.elem 'a' then
      match v.value with
      | some (.indexed es) => some (Value.indexed es)
      | some (.keyed es) => some (.keyed es)
      | some (.scalar s) => some (.indexed [(0, s)])
      | none => some (.indexed [])
    else v.value
  { v with
    value
    isBare := v.isBare || (v.value.isNone && value.isSome)
    exported := flag 'x' v.exported
    readonly := flag 'r' v.readonly
    integer := flag 'i' v.integer
    lower := flag 'l' v.lower && !(on.elem 'u' || on.elem 'c')
    upper := flag 'u' v.upper && !(on.elem 'l' || on.elem 'c')
    capital := flag 'c' v.capital && !(on.elem 'l' || on.elem 'u')
    traced := flag 't' v.traced
    reference := flag 'n' v.reference }

/-- Changes a variable without following references. -/
def changeVariable (name : Octets) (f : Variable → Variable) : Sh Unit :=
  Sh.change fun p => { p with vars := Variables.update name f p.vars }

/-- A function is running. -/
def inFunction : Sh Bool := return (← Sh.process).frames.any fun f => !f.reads

/-- The command declares variables of the running function. -/
def isLocal (command : Octets) (on : List Char) : Sh Bool := do
  if command = "local" then return true
  return (command = "declare" || command = "typeset") && !(on.elem 'g') && (← inFunction)

/-- Why a variable cannot become a list or table, or cease to be one, if it cannot. -/
def conversionFault? (on off : List Char) (name : Octets) (v : Option Variable) : Option Octets :=
  let destroys := name ++ ": cannot destroy array variables in this way"
  match v.bind (·.value) with
  | some (.keyed _) =>
    if off.elem 'A' then some destroys
    else if on.elem 'a' && !on.elem 'A' then some (name ++ ": cannot convert associative to indexed array")
    else none
  | some (.indexed _) =>
    if off.elem 'a' then some destroys
    else if on.elem 'A' then some (name ++ ": cannot convert indexed to associative array")
    else none
  | _ => none

/-- Why a variable cannot become a reference, if it cannot. -/
def referenceFault? (name : Octets) (v : Variable) : Option Octets :=
  match v.value with
  | some (.scalar s) =>
    if v.reference || s = "" || Assignment.isReference s then none
    else some ("\x60" ++ s ++ "': invalid variable name for name reference")
  | some _ => some (name ++ ": reference variable cannot be an array")
  | none => none

/-- A variable may become a reference with some value. One that refers to itself is warned of inside a
function, and refused elsewhere. -/
def mayRefer (command name s : Octets) : Sh Bool := do
  if String.ofList (s.toList.takeWhile (· ≠ '[')) = name then
    if !(← inFunction) then
      complain command (name ++ ": nameref variable self references not allowed")
      return false
    complain command ("warning: " ++ name ++ ": circular name reference")
    Sh.report ("warning: " ++ name ++ ": circular name reference")
  if s = "" then refuseName command s
  else if Assignment.isReference s then return true
  else
    complain command ("\x60" ++ s ++ "': invalid variable name for name reference")
    return false

/-- Gives a variable attributes; the result says whether the command may go on with it. -/
def declareOne (command : Octets) (on off : List Char) (name : Octets) : Sh Bool := do
  let inScope ← isLocal command on
  let p ← Sh.process
  if inScope && (Variables.local? name p.vars).isNone then
    if ((Variables.find? name p.vars).map (·.readonly)).getD false then
      complain command (name ++ ": readonly variable")
      return false
    let inherits : Bool := on.elem 'I' || p.features.elem "localvar_inherit"
    let given := match p.vars with
      | s :: _ => if s.temporary then Table.get? name s.entries else none
      | [] => none
    let outer := if inherits then (Variables.find? name p.vars).map fun v => { v with reference := false }
      else none
    let passedOn := ((Variables.find? name p.vars).map (·.exported)).getD false
    Sh.change fun p => { p with
      vars := Variables.declareLocal name ((given <|> outer).getD { exported := passedOn }) p.vars }
  let isFixed := ((Variables.find? name (← Sh.process).vars).map (·.readonly)).getD false
  if isFixed && off.elem 'r' then
    complain command (name ++ ": readonly variable")
    return false
  let concernsReference : Bool := on.elem 'n' || off.elem 'n'
  if !concernsReference then
    Sh.warnCircular name (if command = "export" || command = "readonly" then 1 else 0)
  let target ← if concernsReference then pure (Variables.Target.innermost name) else Sh.target name
  let old? := Variables.at? target (← Sh.process).vars
  if let some m := conversionFault? on off name old? then
    complain command m
    return false
  if on.elem 'n' then
    if let some m := old?.bind (referenceFault? name) then
      complain command m
      return false
  let on := on.filter (· ≠ 'r')
  if on ≠ [] || off ≠ [] || command = "local" || command = "declare" || command = "typeset" then
    Sh.change fun p => { p with
      vars := Variables.updateAt target (withAttributes on off) p.vars }
  return true

/-- Forbids to change a variable, or a reference. -/
def protect (isReference : Bool) (name : Octets) : Sh Unit := do
  let target ← if isReference then pure (Variables.Target.innermost name) else Sh.target name
  Sh.change fun p => { p with
    vars := Variables.updateAt target (fun v => { v with readonly := true }) p.vars }

/-- Gives a declared variable a value; the result says whether that was allowed. -/
def declareValue (command : Octets) (on : List Char) (a : Assignment) (traces : Bool) : Sh Bool := do
  let s := String.ofList a.value
  if ← Sh.isReadonly a.name then
    if traces then
      Sh.traceAssignment runs a.left s
      Sh.reportReadonly a.name
      if ← Sh.isStandard then throw (.refused 1)
    else complain command (a.name ++ ": readonly variable")
    return false
  if on.elem 'n' then
    changeVariable a.name fun v => { v with value := some (.scalar s) }
  else
    match a.elements?, on.elem 'a' || on.elem 'A' with
    | some cs, true => Sh.assignElements a.name a.appends (← Sh.elementsOfText runs (on.elem 'A' || (← Sh.isKeyed a.name)) cs)
    | _, _ =>
      if traces then Sh.traceAssignment runs a.left s
      return ← Sh.assignScalar? a.name (a.subscript.map String.ofList) a.appends s
  return true

/-- Declares what an argument asks for. -/
def declareArgument (command : Octets) (on off : List Char) (traces : Bool) (arg : Octets) : Sh Bool := do
  match Assignment.read? arg with
  | some a =>
    if on.elem 'n' then
      if !(← mayRefer command a.name (String.ofList a.value)) then return false
      if (Variables.find? a.name (← Sh.process).vars).any (·.readonly) then
        complain command (a.name ++ ": readonly variable")
        return false
    if !(← declareOne command on off a.name) then return false
    let good ← declareValue runs command on a traces
    if on.elem 'r' then protect (on.elem 'n') a.name
    return good
  | none =>
    let base := String.ofList (arg.toList.takeWhile (· ≠ '['))
    if !Octets.isName base then refuseName command arg
    else
      let good ← declareOne command on off base
      if good && on.elem 'r' then protect (on.elem 'n') base
      return good

/-- The options are set again at the end of the running function. -/
def keepOptions : Sh Unit :=
  Sh.change fun p =>
    let outer := p.frames.takeWhile (·.reads)
    let frames := match p.frames.drop outer.length with
      | f :: fs => outer ++ { f with options := f.options <|> some p.options } :: fs
      | [] => p.frames
    { p with frames }

/-! ## Declarations -/

/-- The letters of options with a minus sign and of those with a plus sign, and the other arguments. -/
def declareLetters : List Octets → List Char × List Char × List Octets
  | [] => ([], [], [])
  | a :: r =>
    match a.toList with
    | ['-', '-'] => ([], [], r)
    | '-' :: c :: cs =>
      let (on, off, rest) := declareLetters r
      (c :: cs ++ on, off, rest)
    | '+' :: c :: cs =>
      let (on, off, rest) := declareLetters r
      (on, c :: cs ++ off, rest)
    | _ => ([], [], a :: r)

/-- A function with the attributes that letters stand for. -/
def withFunctionAttributes (on off : List Char) (f : Function) : Function :=
  let flag (c : Char) (old : Bool) : Bool := on.elem c || (old && !(off.elem c))
  { f with exported := flag 'x' f.exported, readonly := flag 'r' f.readonly, traced := flag 't' f.traced }

/-- Writes the functions with some attributes, by name; their names alone if only those are asked for. -/
def listFunctions (onlyNames : Bool) (letters : List Char) : Sh Nat := do
  for f in (← Sh.process).functions.mergeSort fun a b => le a.1 b.1 do
    if letters.all fun c => Octets.has c (functionLetters f.2) then
      if onlyNames then listFunctionName f.1 f.2 else listFunctionFully f.1 f.2
  return 0

/-- Writes a function that is asked for by name. -/
def showFunction (onlyName fully : Bool) (name : Octets) (f : Function) : Sh Unit := do
  if fully then
    if onlyName then listFunctionName name f else listFunctionFully name f
  else if onlyName then
    if ← Sh.hasFeature "extdebug" then
      Sh.write (name ++ " " ++ Octets.ofNat f.line ++ " " ++ f.source ++ "\n")
    else Sh.write (name ++ "\n")
  else listFunction name f

/-- Writes functions, or gives those of some names attributes. -/
def declareFunctions (command : Octets) (on off : List Char) (names : List Octets) : Sh Nat := do
  let letters := on.filter fun c => c = 'r' || c = 't' || c = 'x'
  if names = [] then listFunctions (on.elem 'F') letters
  else
    onEach names fun n => do
      match Table.get? n (← Sh.process).functions with
      | none =>
        if Octets.has '=' n then
          complain command "cannot use \x60-f' to make functions"
        else if command = "export" || command = "readonly" then complain command (n ++ ": not a function")
        else if on.elem 'p' then complain command (n ++ ": not found")
        return false
      | some f =>
        if off.elem 'r' && f.readonly then
          complain command (n ++ ": readonly function")
          return false
        if on.elem 'p' || (letters = [] && off = []) then showFunction (on.elem 'F') (on.elem 'p') n f
        else
          Sh.change fun p => { p with
            functions := Table.insert n (withFunctionAttributes letters off f) p.functions }
        return true

/-- Writes the declarations of the variables of the function that is running. -/
def listLocals : Sh Unit := do
  let k ← Sh.charset
  if ((← Sh.process).frames.find? fun f => !f.reads).any (·.options.isSome) then Sh.write "local -\n"
  let scope := (List.find? (fun s : Scope => !s.temporary) (← Sh.process).vars).getD {}
  for v in scope.entries.mergeSort fun a b => le a.1 b.1 do
    Sh.write (declarationText k v.1 v.2 ++ "\n")

/-- `declare`, `typeset` and `local` -/
def declare (command : Octets) : Builtin := fun args => do
  let (on, off, names) := declareLetters args
  match (on ++ off).find? fun c => !("aAcfFgiIlnrtuxp".toList.elem c) with
  | some c => refuseOption command ("-" ++ c.toString)
  | none =>
    if command = "local" && !(← inFunction) then
      refuse 1 command "can only be used in a function"
    else if on.elem 'f' || on.elem 'F' then declareFunctions command on off names
    else if on.elem 'p' then
      if names = [] && command = "local" then
        listLocals
        return 0
      if names = [] then
        listDeclarations fun v => (on.filter (· ≠ 'p')).all fun c => Octets.has c (attributeLetters v)
        return 0
      for n in names do
        discard (Sh.lookup? n)
      let vs ← allVariables
      onEach names fun n => do
        match vs.find? fun v => v.1 = n with
        | some v => Sh.write (declarationText (← Sh.charset) v.1 v.2 ++ "\n"); return true
        | none => complain command (n ++ ": not found"); return false
    else if names = [] then
      if command = "local" then listLocals
      else if on = [] then listAll
      else listDeclarations fun v => on.all fun c => Octets.has c (attributeLetters v)
      return 0
    else
      onEach names fun n => do
        if command = "local" && n = "-" then
          keepOptions
          return true
        else declareArgument runs command on off false n

/-- `export` and `readonly` -/
def mark (command : Octets) (letter : Char) : Builtin := fun args => do
  match ← options? command (if letter = 'x' then "fnp" else "aAfp") "" args with
  | none => return 2
  | some (os, names) =>
    let (on, off) : List Char × List Char :=
      if has os 'n' then ([], [letter])
      else (letter :: (if has os 'a' then ['a'] else []) ++ (if has os 'A' then ['A'] else []), [])
    if has os 'f' then
      if has os 'n' then declareFunctions command [] [letter] names
      else declareFunctions command [letter] [] names
    else if names = [] then
      if (← Sh.process).dialect = .plain then
        for v in ← allVariables do
          if Octets.has letter (attributeLetters v.2) then
            match v.2.value with
            | some (.scalar s) => Sh.write (command ++ " " ++ v.1 ++ "=" ++ Quoting.single s ++ "\n")
            | _ => Sh.write (command ++ " " ++ v.1 ++ "\n")
      else listMarked command letter
      return 0
    else
      let traces := (← Sh.process).dialect = .full
      onEach names fun n => do
        match Assignment.read? n with
        | some ⟨base, some sub, _, _⟩ => refuseName command (base ++ "[" ++ String.ofList sub ++ "]")
        | _ => declareArgument runs command on off traces n

/-- The commands that declare variables. -/
def isDeclaration (name : Octets) : Bool :=
  ["declare", "typeset", "local", "export", "readonly"].elem name

/-- The words of a declaration after expansion; the words done so far begin with the command. Lists of
elements are assigned at once, and the name stays as an argument. -/
def declarationWords (command : Octets) : List Word → List Octets → Sh (List Octets)
  | [], done => return done
  | w :: ws, done => do
    match Assignment.read? w with
    | none =>
      let fields ← Sh.fieldsOf runs w
      declarationWords command ws (done ++ fields)
    | some a =>
      match a.elements?, a.subscript with
      | some cs, none =>
        let (on, off, _) := declareLetters done.tail
        let here ← if ← isLocal command on then do
            pure (Variables.local? a.name (← Sh.process).vars)
          else Sh.findVariable a.name
        if let some m := conversionFault? on [] a.name here then
          Sh.report m
          throw (.discarded 1)
        let isTable := on.elem 'A' || (match here.bind (·.value) with | some (.keyed _) => true | _ => false)
        let es := (← Sh.elementsOfText runs isTable cs).map Element.declared
        Sh.trace runs (a.left ++ "=(" ++ Octets.join " " (es.map Element.traced) ++ ")")
        let on := on.filter fun c => c ≠ 'p' && c ≠ 'f' && c ≠ 'F'
        let good ← if command = "local" && !(← inFunction) then pure false
          else declareOne command (if on.elem 'A' then on else 'a' :: on) off a.name
        if good then
          if ← Sh.isReadonly a.name then Sh.refuseReadonly a.name
          Sh.assignElements a.name a.appends es
        declarationWords command ws (done ++ [a.name])
      | _, _ =>
        let value ← Sh.expandValue runs a.value
        declarationWords command ws (done ++ [a.left ++ "=" ++ value])

/-! ## Other commands -/

/-- Takes a variable, or an element of it, away. -/
def unsetVariable (name : Octets) : Sh Bool := do
  Sh.warnCircular name 2
  let name ← if ← Sh.isCircular name then pure name else Sh.resolveName name
  let base := String.ofList (name.toList.takeWhile (· ≠ '['))
  if ← Sh.isReadonly base then
    complain "unset" (base ++ ": cannot unset: readonly variable")
    return false
  if base ≠ name then
    let sub := String.ofList ((name.toList.drop (base.length + 1)).dropLast)
    match ← Sh.lookup? base with
    | some (.keyed es) => Sh.storeValue base (.keyed (Table.erase sub es))
    | some (.indexed es) =>
      if sub = "@" || sub = "*" then Sh.storeValue base (.indexed [])
      else
        match ← Sh.elementNumber? base sub with
        | some i => Sh.storeValue base (.indexed (es.filter fun e => e.1 ≠ i))
        | none =>
          complain "unset" ("[" ++ sub ++ "]: bad array subscript")
          return false
    | _ => pure ()
    return true
  let target ← Sh.resolveName base
  if (← Sh.process).dialect = .full && Sh.lastingNames.elem target then
    complain "unset" (target ++ ": cannot unset")
    return false
  Sh.change fun p => { p with
    vars := Variables.remove target (!p.frames.isEmpty) p.vars
    plainNames := if Sh.removableNames.elem target && Sh.isComputed p target then target :: p.plainNames
      else p.plainNames
    options := if target = standardName then p.options.filter (· ≠ "posix") else p.options
    hashed := if target = "PATH" then [] else p.hashed
    traceDescriptor := if target = "BASH_XTRACEFD" then none else p.traceDescriptor }
  if Sh.localeNames.elem target && (← Sh.process).dialect = .full then Sh.changeLocale target
  return true

/-- `unset` -/
def unset : Builtin := fun args => do
  match ← options? "unset" "vfn" "" args with
  | none => return 2
  | some (os, names) =>
    if has os 'f' && has os 'v' then
      return ← refuse 1 "unset" "cannot simultaneously unset a function and a variable"
    onEach names fun n => do
      let p ← Sh.process
      let isVariable := (Variables.find? (String.ofList (n.toList.takeWhile (· ≠ '['))) p.vars).isSome
      if has os 'f' || (!(has os 'v') && !isVariable && Table.has n p.functions) then
        if ((Table.get? n p.functions).map (·.readonly)).getD false then
          complain "unset" (n ++ ": cannot unset: readonly function")
          return false
        Sh.change fun p => { p with functions := Table.erase n p.functions }
        return true
      else if has os 'n' then
        Sh.change fun p => { p with vars := Variables.remove n (!p.frames.isEmpty) p.vars }
        return true
      else unsetVariable n

/-- The value of an expression; nothing, after a message, if it has none. -/
def evaluated? (name s : Octets) : Sh (Option Int) := do
  match ← Arithmetic.evaluate s with
  | .ok n => return some n
  | .error e =>
    if let some m := e.message? then
      if e.ends then Expansion.fail (e.heading name ++ m) true
      complain name m
    return none

/-- `let` -/
def letCommand : Builtin := fun args => do
  match withoutMark args with
  | [] => refuse 1 "let" "expression expected"
  | args =>
    let mut last : Int := 0
    for a in args do
      match ← evaluated? "let" a with
      | some n => last := n
      | none => return 1
    return statusOf (last ≠ 0)

/-- `alias` -/
def aliasCommand : Builtin := fun args => do
  let plain := (← Sh.process).dialect = .plain
  let show_ (a : Octets × Octets) : Sh Unit :=
    Sh.write ((if plain then "" else "alias ") ++ a.1 ++ "=" ++ Quoting.single a.2 ++ "\n")
  match ← (if plain then pure (some ([], args)) else options? "alias" "p" "" args) with
  | none => return 2
  | some (os, names) =>
    if names = [] || has os 'p' then
      for a in (← Sh.process).aliases.mergeSort fun a b => le a.1 b.1 do
        show_ a
    onEach names fun a => do
      let name := String.ofList (a.toList.takeWhile (· ≠ '='))
      if name ≠ "" && name.length < a.length then
        if !plain && name.toList.any fun c => "()<>;&| \t\n'\"\x60\\$/".toList.elem c then
          complain "alias" ("\x60" ++ name ++ "': invalid alias name")
          return false
        let text := String.ofList (a.toList.drop (name.length + 1))
        Sh.change fun p => { p with aliases := Table.insert name text p.aliases }
        return true
      else
        match Table.get? a (← Sh.process).aliases with
        | some text => show_ (a, text); return true
        | none => complain "alias" (a ++ ": not found"); return false

/-- `unalias` -/
def unaliasCommand : Builtin := fun args => do
  match ← options? "unalias" "a" "" args with
  | none => return 2
  | some (os, names) =>
    if has os 'a' then
      Sh.change fun p => { p with aliases := [] }
      return 0
    else if names = [] then usage "unalias"
    else
      onEach names fun n => do
        if Table.has n (← Sh.process).aliases then
          Sh.change fun p => { p with aliases := Table.erase n p.aliases }
          return true
        else
          complain "unalias" (n ++ ": not found")
          return false

end ShellCoverage.Shell.Builtin
