import ShellCoverage.Shell.Builtin.Basic
import ShellCoverage.Shell.Program.Starting

/-!
# The search for commands

Names of programs are looked for in the directories of the search path. A shell remembers where it found a
program until the search path changes.

* `Sh.programPath?` : the path of the program that a name means;
* `Sh.rememberedPath?` : the path under which it was found before; `Sh.remember` : notes a path;
* `Sh.knownPath?` : the remembered path, or else one that is found and remembered;
* `Sh.hash` : the command that lists and changes what is remembered.
-/

namespace ShellCoverage.Shell.Sh

/-- The directories of the search path. -/
def searchPath : Sh (List Octets) := do
  match ← scalar? "PATH" with
  | none | some "" => return []
  | some s => return Octets.pieces ':' s

/-- The path of the program that a name means. -/
def programPath? (name : Octets) : Sh (Option Octets) := do
  if Octets.has '/' name then return some name
  match ← scalar? "PATH" with
  | none | some "" => return none
  | some search => Program.pathOf? search name

/-- Remembers the path of a program, with the number of times that it was looked up. -/
def remember (name path : Octets) (times : Nat) : Sh Unit :=
  change fun p => { p with hashed := Table.insert name (path, times) p.hashed }

/-- Forgets all paths. -/
def forgetPaths : Sh Unit := change fun p => { p with hashed := [] }

/-- The path under which a program was found before. One that does not begin at the root leads from the
current directory if there is a program. -/
def rememberedPath? (name : Octets) : Sh (Option Octets) := do
  match Table.get? name (← process).hashed with
  | none => return none
  | some (path, times) =>
    if (← hasFeature "checkhash") && !(← Program.isProgram path) then
      change fun p => { p with hashed := Table.erase name p.hashed }
      return none
    remember name path (times + 1)
    if !Octets.startsWith "/" path && !Octets.startsWith "./" path && (← Program.isProgram ("./" ++ path)) then
      return some ("./" ++ path)
    return some path

/-- The search path is that of a command only. -/
def hasOwnSearchPath : Sh Bool := do
  return (← process).vars.any fun s => s.temporary && Table.has "PATH" s.entries

/-- The path of the program that a name means: the remembered one, or else one that is found and then
remembered. -/
def knownPath? (name : Octets) : Sh (Option Octets) := do
  if Octets.has '/' name then return some name
  if ← hasOwnSearchPath then return ← programPath? name
  match ← rememberedPath? name with
  | some path => return some path
  | none =>
    match ← programPath? name with
    | none => return none
    | some path =>
      if (← process).dialect = .plain || (← hasOption "hashall") then remember name path 1
      return some path

/-! ## Listing -/

/-- The number of buckets of what the full shell remembers. -/
def hashBuckets : Nat := 256

/-- The number of buckets of what the plain shell remembers. -/
def plainHashBuckets : Nat := 31

/-- The bucket in which the plain shell remembers a name. -/
def plainBucket (name : Octets) : Nat := plainBucketSum name % 0x8000 % plainHashBuckets

/-- What is remembered, in the order in which it is listed. -/
def rememberedEntries : Sh (List (Octets × Octets × Nat)) := do
  let p ← process
  match p.dialect with
  | .full => return Value.inBuckets hashBuckets p.hashed
  | .plain => return p.hashed.mergeSort fun a b => decide (plainBucket a.1 ≤ plainBucket b.1)

/-- Lists what is remembered; in a form that a shell reads again if `reusable` is set. -/
def listRemembered (reusable : Bool) : Sh Unit := do
  let entries ← rememberedEntries
  if (← process).dialect = .plain then
    for e in entries do
      write (e.2.1 ++ "\n")
  else if reusable then
    for e in entries do
      write ("builtin hash -p " ++ e.2.1 ++ " " ++ e.1 ++ "\n")
  else if entries = [] then write "hash: hash table empty\n"
  else
    write "hits\tcommand\n"
    for e in entries do
      let n := Octets.ofNat e.2.2
      write (String.ofList (List.replicate (4 - n.length) ' ') ++ n ++ "\t" ++ e.2.1 ++ "\n")

/-- Complains that a name is not remembered, or not found. -/
def refuseUnknown (name : Octets) : Sh Bool := do
  Builtin.complain "hash" (name ++ ": not found")
  return false

/-- Shows the remembered path of a name. -/
def showRemembered (reusable several : Bool) (name : Octets) : Sh Bool := do
  match ← rememberedPath? name with
  | none => refuseUnknown name
  | some path =>
    if reusable then write ("builtin hash -p " ++ path ++ " " ++ name ++ "\n")
    else write ((if several then name ++ "\t" else "") ++ path ++ "\n")
    return true

/-- Looks for a program and remembers where it is, unless the name means something else. -/
def findAgain (isOther : Octets → Sh Bool) (name : Octets) : Sh Bool := do
  if (← isOther name) || Table.has name (← process).functions then return true
  change fun p => { p with hashed := Table.erase name p.hashed }
  match ← programPath? name with
  | some path =>
    if ← Program.isProgram path then
      remember name path 0
      return true
    else refuseUnknown name
  | none => refuseUnknown name

/-- `hash`, given what names of commands of the shell are. -/
def hash (isOther : Octets → Sh Bool) : Builtin := fun args => do
  let p ← process
  if p.dialect = .full && !p.options.elem "hashall" then
    return ← Builtin.refuse 1 "hash" "hashing disabled"
  let (letters, valued) : Octets × Octets := if p.dialect = .plain then ("r", "") else ("lrdt", "p")
  match ← Builtin.options? "hash" letters valued args with
  | none => return 2
  | some (os, names) =>
    let path? := os.lookup 'p'
    if names = [] && Builtin.has os 't' then
      return ← Builtin.refuse 1 "hash" "-t: option requires an argument"
    if names = [] && Builtin.has os 'd' then
      return ← Builtin.refuse 1 "hash" "-d: option requires an argument"
    if Builtin.has os 'r' then forgetPaths
    else if names = [] then listRemembered (Builtin.has os 'l')
    if Builtin.has os 't' then
      return ← Builtin.onEach names (showRemembered (Builtin.has os 'l') (1 < names.length))
    Builtin.onEach names fun name => do
      if Octets.has '/' name then return true
      match path? with
      | some path =>
        if ← Testing.onNode true path Node.isDirectory then
          Builtin.complain "hash" (path ++ ": Is a directory")
          return false
        else
          remember name path 0
          return true
      | none =>
        if Builtin.has os 'd' then
          if Table.has name (← process).hashed then
            change fun p => { p with hashed := Table.erase name p.hashed }
            return true
          else refuseUnknown name
        else findAgain isOther name

end ShellCoverage.Shell.Sh
