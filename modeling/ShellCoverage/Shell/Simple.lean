import ShellCoverage.Shell.Commands

/-!
# Simple commands

A simple command has assignments, words and redirections. In the plain shell the redirections come first, and the
assignments belong to the trace of the command.

* `Sh.inScope` : an action in a scope for the assignments of a command;
* `Sh.simple` : runs a simple command.
-/

namespace ShellCoverage.Shell

namespace Sh

variable (runs : Runs)

/-- Makes the assignment before a command, for the command only. It has its effect on the shell if it
concerns a command of the shell. -/
def assignTemporary (concernsShell : Bool) (w : Word) : Sh Unit := do
  match Assignment.read? w with
  | none => pure ()
  | some a =>
    let s ← expandValue runs a.value
    let name ← resolveName a.name
    if ← isReadonly a.name then
      reportReadonly a.name
      if ← isStandard then throw (.refused 1)
    else
      let old ← scalar a.name
      let s := if a.appends then old ++ s else s
      traceAssignment runs a.name s
      change fun p => { p with
        vars := match p.vars with
          | scope :: vs =>
            { scope with entries := Table.insert name (exportedVariable s) scope.entries } :: vs
          | [] => [] }
      if concernsShell then afterStore name s

/-- Runs an action in a scope for assignments, and gives the scope at its end. -/
def inScope (scope : Scope) (body : Sh Unit) : Sh Scope := do
  let depth := (← process).vars.length
  let innermost (vs : Variables) : Variables := vs.drop (vs.length - depth - 1)
  change fun p => { p with vars := scope :: p.vars }
  let r ← attempt body
  let last := ((innermost (← process).vars).head?).getD scope
  change fun p => { p with vars := (innermost p.vars).drop 1 }
  conclude r
  return last

/-- The words are in the form of an assignment for the shell that runs. -/
def isAssignmentWord (d : Dialect) (w : Word) : Bool :=
  match d with
  | .full => Reader.isAssignment w
  | .plain =>
    let cs := w.toList
    let name := cs.takeWhile (· ≠ '=')
    name.length < cs.length && Octets.isNameList name

/-- The fields of the words of a command. -/
def commandFields (d : Dialect) (ws : List Word) : Sh (List Octets) := do
  match ws with
  | [] => return []
  | w :: rest =>
    let declares := Builtin.isDeclaration w && (d = .full || w = "export" || w = "readonly" || w = "local")
    if declares then Builtin.declarationWords runs w rest [w]
    else
      match d, ws with
      | .full, "command" :: c :: rest | .full, "builtin" :: c :: rest =>
        if Builtin.isDeclaration c then
          return w :: (← Builtin.declarationWords runs c rest [c])
        else fields runs ws
      | _, _ => fields runs ws

/-- Redirections that stay unless one of them fails, which ends a shell that keeps to the standard. -/
def redirectForGood (rs : List Redirect) : Sh Unit := do
  let old := (← process).descriptors
  for d in old do
    changeWorld (·.retain d.2)
  let done ← attempt (redirect runs rs)
  if !(done matches .ok true) then
    restoreDescriptors old (changedDescriptors old (← process).descriptors)
  for d in old do
    release d.2
  if ← conclude done then setStatus 0
  else
    let status ← redirectionStatus
    if (← process).dialect = .plain then throw (.refused status)
    if ← isStandard then throw (.exited status)
    setStatus status

/-- Makes the assignments before a command, for the command only. In a shell that keeps to the standard one
that is refused ends the shell before a special command, and else makes it go on with its next line. -/
def temporaryScope (isSpecial concernsShell : Bool) (assigned : List Word) : Sh Scope := do
  if assigned = [] then return {}
  match ← attempt (inScope { temporary := true } (assigned.forM (assignTemporary runs concernsShell))) with
  | .ok scope => return scope
  | .error (.refused n) => throw (if isSpecial then .exited n else .discarded n)
  | .error j => throw j

/-- Runs a simple command of the full shell. -/
def simpleFull (ws : List Word) (rs : List Redirect) : Sh Unit := do
  change fun p => { p with substituted := none, command := "" }
  let assigned := ws.takeWhile (isAssignmentWord .full)
  let words ← commandFields runs .full (ws.drop assigned.length)
  match words with
  | [] =>
    for w in assigned do
      assignWord runs w
    redirected runs rs (do setStatus (((← process).substituted).getD 0))
    change fun p => { p with lastArgument := "" }
  | name :: args =>
    let isOwn ← isBuiltin runs name
    let concernsShell := isOwn || Table.has name (← process).functions
    let isSpecial : Bool := isOwn && Builtin.specialNames.elem name && (← isStrict)
    let scope ← temporaryScope runs isSpecial concernsShell assigned
    traceWords runs words
    if isSpecial then
      for v in scope.entries do
        store v.1 ((v.2.value.bind Value.toScalar?).getD "")
    if name = "exec" && args = [] then redirectForGood runs rs
    else if !concernsShell then
      external runs words rs (if assigned = [] then none else some scope)
    else
      let refused : Sh Unit := do
        if isSpecial then throw (.exited 1) else setStatus 1
      let act : Sh Unit := do
        if assigned = [] then invoke runs words
        else ensuring (discard (inScope scope (invoke runs words))) (leaveLocales [scope])
      redirectedOr runs rs act refused
    change fun p => { p with lastArgument := (args.getLast?).getD name }

/-! ## The plain shell -/

/-- Makes an assignment of the plain shell in some way, and gives its text. -/
def assignPlain (keep : Octets → Octets → Sh Unit) (w : Word) : Sh Octets := do
  let (name, value?) := Builtin.Plain.cutArgument w
  let s ← expandValue runs (value?.getD "").toList
  if ← isReadonly name then reportReadonly name
  keep name s
  return name ++ "=" ++ s

/-- Stores a string in a variable of the innermost scope, which is passed on. -/
def storeInnermost (name s : Octets) : Sh Unit := do
  change fun p => { p with
    vars := match p.vars with
      | scope :: vs => { scope with entries := Table.insert name (exportedVariable s) scope.entries } :: vs
      | [] => [] }
  afterStore name s

/-- Stores a string in a variable that is passed on. -/
def storeExported (name s : Octets) : Sh Unit := do
  store name s
  change fun p => { p with vars := Variables.update name (fun v => { v with exported := true }) p.vars }

/-- Runs a simple command of the plain shell. The trace goes where errors went before the redirections. -/
def simplePlain (ws : List Word) (rs : List Redirect) : Sh Unit := do
  change fun p => { p with substituted := none }
  let assigned := ws.takeWhile (isAssignmentWord .plain)
  let words ← commandFields runs .plain (ws.drop assigned.length)
  let errors? := Table.get? 2 (← process).descriptors
  let put (s : Octets) : Sh Unit := do
    if let some i := errors? then discard (writeFile i s)
  let assigning (keep : Octets → Octets → Sh Unit) : Sh Unit := do
    let texts ← assigned.mapM (assignPlain runs keep)
    traceWith runs put (Octets.join " " (texts ++ words))
  match words with
  | [] =>
    redirected runs rs do
      assigning store
      setStatus (((← process).substituted).getD 0)
  | ["exec"] =>
    redirectForGood runs rs
    assigning store
  | name :: _ =>
    let isSpecial : Bool := Builtin.isSpecial .plain name
    let act : Sh Unit := do
      if isSpecial then
        assigning (if name = "exec" then storeExported else store)
        invoke runs words
      else if assigned = [] then
        assigning store
        invoke runs words
      else
        discard (inScope { temporary := true } do
          assigning storeInnermost
          invoke runs words)
    redirectedOr runs rs act (if isSpecial then throw (.refused 2) else setStatus 2)

/-- Runs a simple command. -/
def simple (ws : List Word) (rs : List Redirect) : Sh Unit := do
  match (← process).dialect with
  | .full => simpleFull runs ws rs
  | .plain => simplePlain runs ws rs

end Sh

end ShellCoverage.Shell
