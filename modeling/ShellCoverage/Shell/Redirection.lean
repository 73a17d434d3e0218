import ShellCoverage.Shell.Assignment

/-!
# Redirections

* `Sh.redirect` : performs redirections, from left to right; the result says whether all succeeded;
* `Sh.redirected` : an action between performing redirections and taking them back.
-/

namespace ShellCoverage.Shell

namespace Sh

variable (runs : Runs)

/-- The descriptor that a kind of redirection implies. -/
def impliedDescriptor : RedirectKind → Nat
  | .input | .readWrite | .copyInput | .hereDocument _ _ | .hereString => 0
  | _ => 1

/-- Reports that a redirection failed. -/
def refuse (message : Octets) : Sh Bool := do
  report message
  return false

/-- Reports that a file could not be opened. -/
def refuseFile (path : Octets) (writes : Bool) (e : Errno) : Sh Bool := do
  if (← process).dialect = .plain then
    let cause : Octets :=
      match e with
      | .noEntry => if writes then "Directory nonexistent" else "No such file"
      | e => e.description
    refuse ((if writes then "cannot create " else "cannot open ") ++ path ++ ": " ++ cause)
  else refuse (path ++ ": " ++ e.description)

/-- The number of a descriptor that a variable, or an element of one, holds. -/
def storedDescriptor? (target : Octets) : Sh (Option Nat) := do
  return Octets.natural? (← expandText runs ("$\x7b" ++ target ++ "\x7d"))

/-- The descriptor that a redirection changes. A new one is stored in its variable. -/
def targetDescriptor (r : Redirect) : Sh Nat := do
  match r.target with
  | .implied => return impliedDescriptor r.kind
  | .descriptor n => return n
  | .variable name =>
    let closes := (r.kind = .copyInput || r.kind = .copyOutput) && r.word = "-"
    if closes then return (← storedDescriptor? runs name).getD 0
    else
      let fd ← freeDescriptor 10
      match Assignment.read? (name ++ "=") with
      | some ⟨base, some sub, _, _⟩ =>
        assignScalar base (some (← expandSubscript runs sub)) false (Octets.ofNat fd)
      | _ => store name (Octets.ofNat fd)
      return fd

/-- The one path that a word means; none if there are several or none. -/
def redirectPath? (w : Word) : Sh (Option Octets) := do
  if ← isStrict then return some (← expandText runs w)
  else
    match ← fieldsOf runs w with
    | [path] => return some path
    | _ => return none

/-- Makes a descriptor mean the file at a path. A restricted shell writes no files. -/
def redirectFile (fd : Nat) (path : Octets) (mode : OpenMode) : Sh Bool := do
  if mode.writes && (← hasOption "restricted") then
    return ← refuse (path ++ ": restricted: cannot redirect output")
  match ← openFile path mode with
  | .ok i =>
    moveToDescriptor fd i
    return true
  | .error e => refuseFile path mode.writes e

/-- A file is there that may not be emptied. -/
def isProtected (path : Octets) : Sh Bool := do
  if !(← hasOption "noclobber") then return false
  match ← node? true path with
  | .ok (_, .file _ _) => return true
  | _ => return false

/-- Sends the output and the errors to a file. -/
def redirectBoth (path : Octets) (mode : OpenMode) : Sh Bool := do
  if (← isProtected path) && mode ≠ .appending then
    refuse (path ++ ": cannot overwrite existing file")
  else if ← redirectFile 1 path mode then
    match Table.get? 1 (← process).descriptors with
    | some i => setDescriptor 2 i
    | none => pure ()
    return true
  else return false

/-- Makes a descriptor mean a text that can be read. -/
def redirectContent (fd : Nat) (content : Octets) : Sh Bool := do
  moveToDescriptor fd (← addFile { channel := .text content, writable := false })
  return true

/-- Refuses a word that names no descriptor in the plain shell, where it is a digit. -/
def checkDescriptor (s : Octets) : Sh Unit := do
  let p ← process
  if p.dialect = .plain && !(s.toList.all Char.isDigit && s.length = 1) then
    reportAt p.readLine "Syntax error: Bad fd number"
    throw (.refused 2)

/-- Copies, moves or closes a descriptor. -/
def redirectCopy (r : Redirect) : Sh Bool := do
  match ← redirectPath? runs r.word with
  | none => refuse (r.word ++ ": ambiguous redirect")
  | some "-" =>
    closeDescriptor (← targetDescriptor runs r)
    return true
  | some s =>
    checkDescriptor s
    let (digits, moves) :=
      match s.toList.getLast? with
      | some '-' => (String.ofList s.toList.dropLast, true)
      | _ => (s, false)
    match Octets.natural? digits with
    | some n =>
      let fd ← targetDescriptor runs r
      match Table.get? n (← process).descriptors with
      | none =>
        if (← process).dialect = .plain then refuse (Octets.ofNat n ++ ": Bad file descriptor")
        else refuse ((if r.word = s then s else r.word) ++ ": Bad file descriptor")
      | some i =>
        setDescriptor fd i
        if moves && n ≠ fd then closeDescriptor n
        return true
    | none =>
      if r.kind = .copyOutput && (r.target = .implied || r.target = .descriptor 1) then
        redirectBoth s (.writing true)
      else refuse (r.word ++ ": ambiguous redirect")

/-- Performs a redirection. -/
def redirectOne (r : Redirect) : Sh Bool := do
  match r.kind with
  | .hereDocument n expands =>
    let text := ((← world).bodies[n]?).getD ""
    let content ← if expands then expandDocument runs text else pure text
    redirectContent (← targetDescriptor runs r) content
  | .hereString => do
    let content ← expandText runs r.word
    redirectContent (← targetDescriptor runs r) (content ++ "\n")
  | .copyInput | .copyOutput => redirectCopy runs r
  | kind =>
    match ← redirectPath? runs r.word with
    | none => refuse (r.word ++ ": ambiguous redirect")
    | some path =>
      match kind with
      | .both => redirectBoth path (.writing true)
      | .bothAppend => redirectBoth path .appending
      | .input => redirectFile (← targetDescriptor runs r) path .reading
      | .append => redirectFile (← targetDescriptor runs r) path .appending
      | .readWrite => redirectFile (← targetDescriptor runs r) path .both
      | .clobber => redirectFile (← targetDescriptor runs r) path (.writing true)
      | _ =>
        if ← isProtected path then
          if (← process).dialect = .plain then refuse ("cannot create " ++ path ++ ": File exists")
          else refuse (path ++ ": cannot overwrite existing file")
        else redirectFile (← targetDescriptor runs r) path (.writing true)

/-- Performs redirections, from left to right, until one fails. -/
def redirect : List Redirect → Sh Bool
  | [] => return true
  | r :: rs => do
    if ← redirectOne runs r then redirect rs else return false

/-- The descriptors that mean something else in two tables. -/
def changedDescriptors (old new : Table Nat Nat) : List Nat :=
  ((Table.keys old ++ Table.keys new).eraseDups).filter fun fd =>
    Table.get? fd old ≠ Table.get? fd new

/-- Gives descriptors the meaning that they have in a table. -/
def restoreDescriptors (old : Table Nat Nat) (fds : List Nat) : Sh Unit := do
  for fd in fds do
    match Table.get? fd old with
    | some i => setDescriptor fd i
    | none => closeDescriptor fd

/-- The descriptors that redirections leave open, because their numbers are stored in variables. -/
def lastingDescriptors (rs : List Redirect) : Sh (List Nat) :=
  rs.filterMapM fun r => do
    match r.target with
    | .variable name => storedDescriptor? runs name
    | _ => return none

/-- Runs an action with redirections, which are taken back afterwards. If one of them fails another
action is run. -/
def redirectedOr (rs : List Redirect) (body failed : Sh Unit) : Sh Unit := do
  if rs = [] then body
  else
    let old := (← process).descriptors
    for d in old do
      changeWorld (·.retain d.2)
    let done ← attempt (redirect runs rs)
    let lasting ← if ← hasFeature "varredir_close" then pure [] else lastingDescriptors runs rs
    let fds := (changedDescriptors old (← process).descriptors).filter fun fd => !lasting.elem fd
    let act : Sh Unit :=
      match done with
      | .ok true => body
      | .ok false => failed
      | .error j => throw j
    ensuring act do
      restoreDescriptors old fds
      for d in old do
        release d.2

/-- The status of a redirection that fails. -/
def redirectionStatus : Sh Nat := return if (← process).dialect = .plain then 2 else 1

/-- Runs an action with redirections, which are taken back afterwards. If one of them fails the action
is not run. -/
def redirected (rs : List Redirect) (body : Sh Unit) : Sh Unit :=
  redirectedOr runs rs body (do setStatus (← redirectionStatus))

end Sh

end ShellCoverage.Shell
