import ShellCoverage.Shell.Program.Basic

/-!
# What programs read

Programs read the files that are named, or the standard input, for which a minus sign stands. A program that
reads line by line gets the lines of a pipe as they come.

* `Program.complainInput` : what is said when an input cannot be read;
* `Program.onPieces`, `Program.foldLines` : pieces and lines as they come;
* `Program.input`, `Program.inputs` : whole contents.
-/

namespace ShellCoverage.Shell.Program

/-! ## Inputs that cannot be read -/

/-- What a program says of its standard input: what stands before the reason when it cannot be read, and what
stands before the reason once more when it is not open, since then it cannot be closed either. -/
structure StandardWords where
  reading : Octets := "-"
  closing : Option Octets := none

/-- The words of a program. -/
def standardWords (program : Octets) : StandardWords :=
  match program with
  | "wc" => ⟨"'standard input'", some "-"⟩
  | "head" | "tail" => ⟨"error reading 'standard input'", some "-"⟩
  | "sort" => ⟨"read failed: -", none⟩
  | "uniq" => ⟨"error reading '-'", none⟩
  | "cut" | "nl" | "fold" | "paste" | "expand" | "unexpand" | "join" | "comm" => ⟨"-", some "-"⟩
  | "tr" | "base64" | "base32" | "basenc" | "shuf" | "csplit" => ⟨"read error", none⟩
  | "tsort" => ⟨"-: read error", none⟩
  | "od" => ⟨"'standard input'", some "standard input"⟩
  | "tee" => ⟨"read error", some "standard input"⟩
  | "tac" => ⟨"'standard input': read error", some "-"⟩
  | "grep" | "egrep" | "fgrep" => ⟨"(standard input)", none⟩
  | "dd" => ⟨"error reading 'standard input'", some "closing input file 'standard input'"⟩
  | "factor" | "numfmt" => ⟨"error reading input", none⟩
  | "cksum" | "sum" | "b2sum" => ⟨"-", some "standard input"⟩
  | _ => if "sum".toList.isSuffixOf program.toList then ⟨"-", some "standard input"⟩ else {}

/-- Complains that the standard input cannot be read. -/
def complainStandard (e : Errno) : Sh Unit := do
  let name ← ownName
  let w := standardWords name
  let e := if name = "tac" && e = .isDirectory then Errno.invalidArgument else e
  complain (w.reading ++ ": " ++ e.description)
  if e = .badDescriptor then
    if let some c := w.closing then complain (c ++ ": " ++ e.description)

/-- Complains that the input that an operand names cannot be read; files other than the standard input have words of
their own. -/
def complainInputOr (file : Octets → Errno → Sh Unit) (path : Octets) (e : Errno) : Sh Unit :=
  if path = "-" then complainStandard e else file path e

/-- Complains that the input that an operand names cannot be read. -/
def complainInput (path : Octets) (e : Errno) : Sh Unit := complainInputOr complainOf path e

/-! ## Reading -/

/-- Reading from a descriptor starts at any place. -/
def isSeekable (fd : Nat) : Sh Bool := do
  match ← Sh.openFile? fd with
  | some (_, f) => return match f.channel with | .file _ => true | _ => false
  | none => return false

/-- Why a descriptor cannot be read, if it cannot. -/
def refusal? (fd : Nat) : Sh (Option Errno) := do
  match ← Sh.openFile? fd with
  | none => return some .badDescriptor
  | some (_, f) =>
    if !f.readable then return some .badDescriptor
    return match f.channel with | .directory => some .isDirectory | _ => none

/-- Opens the file at a path under a descriptor of its own, or takes the standard input for a minus sign;
runs an action on the descriptor, and closes it. -/
def onDescriptor {α : Type} (path : Octets) (act : Nat → Sh α) : Sh (Except Errno α) := do
  if path = "-" then
    match ← refusal? 0 with
    | some e => return .error e
    | none => return .ok (← act 0)
  else
    match ← Sh.openFile path .reading with
    | .error e => return .error e
    | .ok i =>
      let fd ← Sh.freeDescriptor 3
      Sh.moveToDescriptor fd i
      match ← refusal? fd with
      | some e =>
        Sh.closeDescriptor fd
        return .error e
      | none =>
        let r ← Sh.attempt (act fd)
        Sh.closeDescriptor fd
        return .ok (← Sh.conclude r)

/-- The next piece that can be read; nothing at the end. -/
def piece? (fd : Nat) : Sh (Option Octets) := do
  let piece ← Sh.takeFrom fd false none fun cs isLast =>
    if cs = [] && !isLast then none else some (String.ofList cs, cs.length)
  return piece.filter (· ≠ "")

variable {σ : Type}

/-- Goes with an action through the pieces that can be read, until it is done. -/
def foldPieces (fd : Nat) (act : σ → Octets → Sh (ForInStep σ)) : Nat → σ → Sh σ
  | 0, _ => throw .stopped
  | n + 1, s => do
    match ← piece? fd with
    | none => return s
    | some piece =>
      match ← act s piece with
      | .done s => return s
      | .yield s => foldPieces fd act n s

/-- Runs an action on the content of the file at a path piece by piece as it comes. -/
def onPieces (path : Octets) (act : Octets → Sh Unit) : Sh (Option Errno) := do
  let r ← onDescriptor path fun fd =>
    foldPieces fd (fun () piece => do
      act piece
      return .yield ()) Sh.maxReads ()
  return match r with | .ok _ => none | .error e => some e

/-- Goes with an action through some lines until it is done: whether it is, what it has come to, and the lines
that are left. -/
def runLines (act : σ → Octets → Sh (ForInStep σ)) : List Octets → σ → Sh (Bool × σ × List Octets)
  | [], s => return (false, s, [])
  | l :: ls, s => do
    match ← act s l with
    | .done s => return (true, s, ls)
    | .yield s => runLines act ls s

/-- The lines of a text up to the last delimiter, each with its own, and what follows that. -/
def completeLines (delimiter : Char) (text : Octets) : List Octets × Octets :=
  let parts := Octets.splitAt delimiter text.toList
  (parts.dropLast.map fun l => String.ofList (l ++ [delimiter]), String.ofList (parts.getLastD []))

/-- Goes with an action through the lines of what comes, after a line that is not complete. -/
def foldLinesOf (fd : Nat) (delimiter : Char) (act : σ → Octets → Sh (ForInStep σ)) :
    Nat → Octets → σ → Sh σ
  | 0, _, _ => throw .stopped
  | n + 1, start, s => do
    match ← piece? fd with
    | none =>
      if start = "" then return s
      match ← act s start with
      | .done s | .yield s => return s
    | some piece =>
      let (lines, last) := completeLines delimiter (start ++ piece)
      let (stops, s, _) ← runLines act lines s
      if stops then return s else foldLinesOf fd delimiter act n last s

/-- Goes with an action through the lines of a descriptor, each with its delimiter, until it is done. If
`returns` is set, the lines that are left of a file can be read again. -/
def foldLinesAt (fd : Nat) (delimiter : Char) (returns : Bool) (s : σ)
    (act : σ → Octets → Sh (ForInStep σ)) : Sh σ := do
  if ← isSeekable fd then
    match ← piece? fd with
    | none => return s
    | some piece =>
      let (lines, last) := completeLines delimiter piece
      let (_, s, left) ← runLines act (if last = "" then lines else lines ++ [last]) s
      if returns then
        let size := (left.map String.length).sum
        if let some (i, _) ← Sh.openFile? fd then
          Sh.changeFile i fun f => { f with position := f.position - size }
      return s
  else foldLinesOf fd delimiter act Sh.maxReads "" s

/-- Goes with an action through the lines of an input, each with its line feed, until it is done. -/
def foldLines (path : Octets) (returns : Bool) (s : σ) (act : σ → Octets → Sh (ForInStep σ)) :
    Sh (Except Errno σ) :=
  onDescriptor path fun fd => foldLinesAt fd '\n' returns s act

/-- The content of the file at a path, or of the standard input for a minus sign. -/
def input (path : Octets) : Sh (Except Errno Octets) :=
  onDescriptor path fun fd => return (← Sh.readAll fd).getD ""

/-- The inputs that operands name: the standard input if there are none. -/
def orStandard (paths : List Octets) : List Octets := if paths = [] then ["-"] else paths

/-- The contents of the inputs that operands name, with their names, and whether all could be read. -/
def inputsOr (refusing : Octets → Errno → Sh Unit) (paths : List Octets) :
    Sh (List (Octets × Octets) × Bool) := do
  let mut out := []
  let mut good := true
  for path in orStandard paths do
    match ← input path with
    | .ok s => out := (path, s) :: out
    | .error e =>
      refusing path e
      good := false
  return (out.reverse, good)

/-- The contents of the inputs that operands name, with their names, and whether all could be read. -/
def inputs (paths : List Octets) : Sh (List (Octets × Octets) × Bool) := inputsOr complainInput paths

/-- Writes a text to the file at a path, or complains. -/
def writeOutput (path text : Octets) : Sh Bool := do
  match ← Sh.openFile path (.writing true) with
  | .ok i =>
    discard (Sh.writeFile i text)
    Sh.release i
    return true
  | .error e =>
    complainOf path e
    return false

end ShellCoverage.Shell.Program
