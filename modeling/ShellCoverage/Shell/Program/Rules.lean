import ShellCoverage.Shell.Program.Rules.Evaluation

/-!
# Rules for records

The rules of a script are carried out for each record of the files among the arguments, and those for the start
and the end before and after that.

* `Rules.perform` : carries out a script;
* `Program.awk` : the program with its options.
-/

namespace ShellCoverage.Shell.Rules

open Program

/-- Nested statements and rounds of loops are at most so many. -/
def maxSteps : Nat := 1000000000000

/-- The rule is for the record. -/
def isFor (i : Nat) (choice : Choice) : Act Bool := do
  match choice with
  | .atStart | .atEnd => return false
  | .every => return true
  | .matching e => return (← evaluate maxSteps e).holds
  | .range first last =>
    let wasIn := (← get).ranges.elem i
    let isIn ← if wasIn then pure true else pure (← evaluate maxSteps first).holds
    if !isIn then return false
    let isLast := (← evaluate maxSteps last).holds
    modify fun s =>
      let others := s.ranges.filter (· ≠ i)
      { s with ranges := if isLast then others else i :: others }
    return true

/-- Carries out the action of a rule. -/
def carryOut (r : Rule) : Act Unit :=
  execute maxSteps (r.action.getD (.print [] .standard))

/-- The rules for a record. -/
def forRecord (rules : List (Rule × Nat)) : Act Unit := do
  for (r, i) in rules do
    if ← isFor i r.choice then carryOut r

/-- Carries out the rules for all records, of which there are so many at most. -/
def forRecords (rules : List (Rule × Nat)) : Nat → Act Unit
  | 0 => onMachine (throw .stopped)
  | n + 1 => do
    match ← nextRecord? with
    | none => return ()
    | some r =>
      setRecord (.input r)
      tryCatch (forRecord rules) fun j => do
        modify fun s => { s with frames := [] }
        match j with
        | .nextRecord => return ()
        | .nextFile => leaveFile
        | j => throw j
      forRecords rules n

/-- The rules for the start or the end. -/
def frameRules (script : Script) (atStart : Bool) : List Rule :=
  script.rules.filter fun r => match r.choice with
    | .atStart => atStart
    | .atEnd => !atStart
    | _ => false

/-- Runs an action that may end the script early; whether it did. -/
def endsEarly (act : Act Unit) : Act Bool :=
  tryCatch (do
    act
    return false) fun j => do
      modify fun s => { s with frames := [] }
      match j with
      | .failed m => throw (.failed m)
      | .abandoned => throw .abandoned
      | .exit => return true
      | _ => return false

/-- Carries out a script up to its end. -/
def perform : Act Unit := do
  let script := (← get).script
  let rules := script.rules.zipIdx
  let hasRules := script.rules.any fun r => match r.choice with
    | .atStart => false
    | _ => true
  let ended ← endsEarly do
    for r in frameRules script true do carryOut r
  if hasRules then
    if !ended then discard (endsEarly (forRecords rules Sh.maxReads))
    discard (endsEarly do
      for r in frameRules script false do carryOut r)

/-- Carries out a script and closes what is open; mistakes are told. -/
def performAll : Act Unit := do
  tryCatch perform fun j => do
    match j with
    | .failed m =>
      let name ← globalText "FILENAME"
      let fnr ← globalText "FNR"
      let nr ← globalText "NR"
      onMachine (Program.complain ("run time error: " ++ m ++ "\n\tFILENAME=\"" ++ name ++ "\" FNR=" ++ fnr ++
        " NR=" ++ nr))
      modify fun s => { s with status := 2 }
    | _ => return ()
  closeAll

/-- The values of variables at the start. -/
def startingValues : List (Octets × Cell) :=
  [("CONVFMT", .text "%.6g"), ("OFMT", .text "%.6g"), ("FS", .text " "), ("OFS", .text " "), ("ORS", .text "\n"),
    ("RS", .text "\n"), ("SUBSEP", .text "\x1c"), ("NR", .number 0), ("FNR", .number 0), ("RSTART", .number 0),
    ("RLENGTH", .number (-1)), ("FILENAME", .missing)]

/-- The state at the start, with the arguments of the script and the environment. -/
def Workspace.start (script : Script) (args : List Octets) (env : Table Octets Octets) : Workspace :=
  let argv : Elements := (args.zipIdx.map fun (a, i) => (Octets.ofNat i, Cell.input a)).reverse
  let environ : Elements := (env.map fun e => (e.1, Cell.input e.2)).reverse
  { script
    globals := startingValues.map (fun v => (v.1, Slot.cell v.2)) ++
      [("ARGC", .cell (.ofNat args.length)), ("ARGV", .array 0), ("ENVIRON", .array 1)]
    arrays := #[argv, environ]
    outlets := [(standardName, { fd := 1 })] }

/-! ## Options -/

/-- What the options say. -/
structure Options where
  files : List Octets := []
  /-- Variables and their values, in order. -/
  values : List (Octets × Octets) := []

/-- The options at the head of arguments, and the arguments left; or a message. -/
def readOptions : Nat → Options → List Octets → Except Octets (Options × List Octets)
  | 0, o, args => .ok (o, args)
  | _, o, [] => .ok (o, [])
  | n + 1, o, a :: r =>
    match a.toList with
    | ['-', '-'] => .ok (o, r)
    | '-' :: letter :: cs =>
      let value? : Option (Octets × List Octets) := match cs, r with
        | [], v :: r => some (v, r)
        | [], [] => none
        | cs, r => some (String.ofList cs, r)
      if !("fFvW".toList.elem letter) then .error ("not an option: " ++ a)
      else
        match value? with
        | none => .error ("option -" ++ letter.toString ++ " lacks argument")
        | some (v, r) =>
          match letter, assignmentIn? v with
          | 'f', _ => readOptions n { o with files := o.files ++ [v] } r
          | 'F', _ => readOptions n { o with values := o.values ++ [("FS", v)] } r
          | 'v', some p => readOptions n { o with values := o.values ++ [p] } r
          | 'v', none => .error ("improper assignment: -v " ++ v)
          | _, _ => readOptions n o r
    | _ => .ok (o, a :: r)

end Rules

namespace Program

open Rules

/-- The text of a script from files and operands, with the operands left; nothing if a file cannot be read,
which is told. -/
def scriptText? (files operands : List Octets) : Sh (Option (Octets × List Octets)) := do
  if files = [] then return some ((operands.headD "") ++ "\n", operands.tail)
  let mut text := ""
  for f in files do
    match ← input f with
    | .ok s => text := text ++ s
    | .error e =>
      complain ("cannot open " ++ f ++ " (" ++ e.description ++ ")")
      return none
  return some (text, operands)

/-- `awk` -/
def awk (launch : Launch) : Program := fun args => do
  if args.head? = some "--version" || args.take 2 = ["-W", "version"] then
    Sh.write "mawk 1.3.4 20200120\n"
    return 0
  match readOptions (args.length + 1) {} args with
  | .error m =>
    complain m
    return 2
  | .ok (o, operands) =>
    if o.files = [] && operands = [] then
      Sh.complain "Usage: mawk [Options] [Program] [file ...]\n"
      return 2
    match ← scriptText? o.files operands with
    | none => return 2
    | some (text, operands) =>
      match readScript text with
      | .error messages =>
        let place := match o.files.getLast? with
          | some f => f ++ ": "
          | none => ""
        for m in messages do complain (place ++ m)
        return 2
      | .ok script =>
        let start := Workspace.start script ((← ownName) :: operands) (← environment)
        let act : Act Unit := do
          for (name, value) in o.values do assignArgument name value
          performAll
        let (_, w) ← ((act.run.run launch).run start)
        return w.status

end Program

end ShellCoverage.Shell
