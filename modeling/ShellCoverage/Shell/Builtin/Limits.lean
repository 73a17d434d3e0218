import ShellCoverage.Shell.Builtin.Basic

/-!
# The command for limits

A process may use only so much of a resource. Of its two limits for a resource the soft one holds; it may be
raised up to the hard one, which may only be lowered.

* `Resource` : what is limited, and in which unit it is counted;
* `Builtin.ulimit` : shows or changes limits.
-/

namespace ShellCoverage.Shell

/-- What is limited, with its limits at the start; without a number there is no limit. -/
structure Resource where
  letter : Char
  name : Octets
  /-- The unit in which it is counted. -/
  unit : Octets := ""
  soft : Option Nat := none
  hard : Option Nat := none
  /-- It cannot be changed. -/
  isFixed : Bool := false
  deriving Inhabited

namespace Resource

/-- The resources, in the order of lists. -/
def all : List Resource :=
  [{ letter := 'R', name := "real-time non-blocking time", unit := "microseconds" },
    { letter := 'c', name := "core file size", unit := "blocks" },
    { letter := 'd', name := "data seg size", unit := "kbytes" },
    { letter := 'e', name := "scheduling priority", soft := some 0, hard := some 0 },
    { letter := 'f', name := "file size", unit := "blocks" },
    { letter := 'i', name := "pending signals", soft := some 128604, hard := some 128604 },
    { letter := 'l', name := "max locked memory", unit := "kbytes", soft := some 8192, hard := some 8192 },
    { letter := 'm', name := "max memory size", unit := "kbytes" },
    { letter := 'n', name := "open files", soft := some 1048576, hard := some 1048576 },
    { letter := 'p', name := "pipe size", unit := "512 bytes", soft := some 8, hard := some 8, isFixed := true },
    { letter := 'q', name := "POSIX message queues", unit := "bytes", soft := some 819200, hard := some 819200 },
    { letter := 'r', name := "real-time priority", soft := some 0, hard := some 0 },
    { letter := 's', name := "stack size", unit := "kbytes", soft := some 8192 },
    { letter := 't', name := "cpu time", unit := "seconds" },
    { letter := 'u', name := "max user processes" },
    { letter := 'v', name := "virtual memory", unit := "kbytes" },
    { letter := 'x', name := "file locks" }]

/-- The resource that a letter names. -/
def ofLetter? (c : Char) : Option Resource := all.find? (·.letter = c)

/-- The head of a line of a list. -/
def heading (r : Resource) : Octets :=
  let unit := if r.unit = "" then "" else r.unit ++ ", "
  Octets.padRight 20 r.name ++ " " ++ Octets.padLeft 20 ("(" ++ unit ++ "-" ++ r.letter.toString ++ ") ")

/-- The soft and the hard limit of a process. -/
def limits (p : Process) (r : Resource) : Option Nat × Option Nat :=
  (Table.get? r.letter p.limits).getD (r.soft, r.hard)

end Resource

namespace Builtin

/-- What a command is to do with a resource: show its limit, or change it. -/
structure LimitRequest where
  resource : Resource
  value? : Option Octets

/-- What the arguments of `ulimit` ask for. -/
structure LimitArguments where
  soft : Bool := false
  hard : Bool := false
  all : Bool := false
  requests : List LimitRequest := []

/-- Reads the arguments; the letter of a resource may be followed by a value. The result is the letter that is
refused, if one is, or what was read with the other arguments. -/
def readLimits : Nat → LimitArguments → List Octets → Except Char (LimitArguments × List Octets)
  | 0, a, args => .ok (a, args)
  | _, a, [] => .ok (a, [])
  | n + 1, a, w :: ws =>
    match w.toList with
    | ['-', '-'] => .ok (a, ws)
    | '-' :: c :: cs =>
      let rest := if cs = [] then ws else ("-" ++ String.ofList cs) :: ws
      if c = 'S' then readLimits n { a with soft := true } rest
      else if c = 'H' then readLimits n { a with hard := true } rest
      else if c = 'a' then readLimits n { a with all := true } rest
      else
        match Resource.ofLetter? c, cs, ws with
        | none, _, _ => .error c
        | some r, [], v :: vs =>
          if Octets.startsWith "-" v then readLimits n { a with requests := a.requests ++ [⟨r, none⟩] } ws
          else readLimits n { a with requests := a.requests ++ [⟨r, some v⟩] } vs
        | some r, [], [] => .ok ({ a with requests := a.requests ++ [⟨r, none⟩] }, [])
        | some r, cs, ws => readLimits n { a with requests := a.requests ++ [⟨r, some (String.ofList cs)⟩] } ws
    | _ => .ok (a, w :: ws)

/-- The text of a limit. -/
def limitText (n : Option Nat) : Octets :=
  match n with
  | some n => Octets.ofNat n
  | none => "unlimited"

/-- Shows a limit, with the name of the resource if `named` is set. -/
def showLimit (hard named : Bool) (r : Resource) : Sh Unit := do
  let (soft, most) := r.limits (← Sh.process)
  Sh.write ((if named then r.heading else "") ++ limitText (if hard then most else soft) ++ "\n")

/-- A limit is higher than another one. -/
def isAbove : Option Nat → Option Nat → Bool
  | none, some _ => true
  | some a, some b => b < a
  | _, none => false

/-- Changes the limits that are asked for, both of them by default; the result says whether that was
allowed. -/
def setLimit (a : LimitArguments) (r : Resource) (value : Octets) : Sh Bool := do
  let (soft, hard) := r.limits (← Sh.process)
  let number? : Option (Option Nat) :=
    if value = "unlimited" then some none
    else if value = "soft" then some soft
    else if value = "hard" then some hard
    else (Octets.natural? value).map some
  let refuse (cause : Octets) : Sh Bool := do
    complain "ulimit" (r.name ++ ": cannot modify limit: " ++ cause)
    return false
  match number? with
  | none =>
    complain "ulimit" (value ++ ": invalid number")
    return false
  | some n =>
    let both := a.soft = a.hard
    let soft := if a.soft || both then n else soft
    let most := if a.hard || both then n else hard
    if r.isFixed || isAbove soft most then refuse "Invalid argument"
    else if isAbove most hard then refuse "Operation not permitted"
    else
      Sh.change fun p => { p with limits := Table.insert r.letter (soft, most) p.limits }
      return true

/-- `ulimit` -/
def ulimit : Builtin := fun args => do
  match readLimits ((args.map String.length).sum + args.length + 1) {} args with
  | .error c => refuseOption "ulimit" ("-" ++ c.toString)
  | .ok (a, rest) =>
    let hard := a.hard && !a.soft
    if a.all then
      for r in Resource.all do
        showLimit hard true r
      return 0
    let requests ← match a.requests, rest with
      | [], _ => pure ((Resource.ofLetter? 'f').toList.map fun r => ⟨r, rest.head?⟩)
      | rs, _ => pure rs
    for q in requests do
      match q.value? with
      | none => showLimit hard (1 < requests.length) q.resource
      | some v => if !(← setLimit a q.resource v) then return 1
    return 0

end Builtin

end ShellCoverage.Shell
