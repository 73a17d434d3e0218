import ShellCoverage.Shell.Program.Feed
import ShellCoverage.Shell.Program.Rules.Reader
import ShellCoverage.Shell.Program.Starting
import ShellCoverage.Shell.Regex.Reader

/-!
# The state of a script of rules

* `Rules.Workspace` : variables, arrays, the record with its fields, inputs and outputs;
* `Rules.Act` : what changes it; `Rules.Flow` : why a statement ends early;
* `Rules.variable`, `Rules.assign` : the values of variables; `Rules.arrayOf` : the array of a name;
* `Rules.splitRecord`, `Rules.field`, `Rules.setField` : the fields of the record.
-/

namespace ShellCoverage.Shell.Rules

open Program

/-- What a variable stands for. -/
inductive Slot where
  /-- Nothing yet. If it becomes an array, it is the one with this number. -/
  | unset (array : Option Nat)
  | cell (c : Cell)
  | array (n : Nat)
  deriving Inhabited

/-- The elements of an array, those that were used last first. -/
abbrev Elements := Table Octets Cell

/-- Where a script writes to. -/
structure Outlet where
  fd : Nat
  /-- The command that reads it. -/
  pid : Option Nat := none
  /-- What was not written yet, the last first. -/
  waiting : List Octets := []
  size : Nat := 0
  /-- Nothing waits. -/
  immediate : Bool := false

/-- Where a script reads from: a file, or what a command writes. -/
structure Source where
  feed : Feed
  pid : Option Nat := none

/-- The state of a script. -/
structure Workspace where
  script : Script
  globals : Table Octets Slot := []
  arrays : Array Elements := #[]
  /-- The parameters of the functions that are called, those of the last one first. -/
  frames : List (Array Slot) := []
  record : Cell := .missing
  /-- The fields of the record, if it was split. -/
  fields : Option (Array Cell) := some #[]
  /-- The rules in whose ranges the record is. -/
  ranges : List Nat := []
  outlets : Table Octets Outlet := []
  sources : Table Octets Source := []
  /-- The file from which records are taken. -/
  main : Option Feed := none
  /-- The number of the argument that names the next one. -/
  argument : Nat := 1
  /-- A file was named among the arguments. -/
  hasFile : Bool := false
  /-- No more records come. -/
  isOver : Bool := false
  patterns : Table Octets Regex := []
  seed : Nat := 1
  status : Nat := 0

/-- Why a statement ends early. -/
inductive Flow where
  | leave
  | proceed
  | nextRecord
  | nextFile
  | exit
  | giveBack (c : Cell)
  /-- Something went wrong, with a message. -/
  | failed (message : Octets)
  /-- Something went wrong, and was told. -/
  | abandoned

/-- An action of a script. -/
abbrev Act := ExceptT Flow (ReaderT Launch (StateT Workspace Sh))

/-- An action of the process. -/
def onMachine {α : Type} (act : Sh α) : Act α := fun _ s => do return (.ok (← act), s)

/-- Ends because something went wrong while the script was carried out. -/
def crash {α : Type} (message : Octets) : Act α := throw (.failed message)

/-! ## Variables -/

/-- What a variable stands for. -/
def slotOf (v : Variable) : Act Slot := do
  let s ← get
  match v with
  | .global name => return (Table.get? name s.globals).getD (.unset none)
  | .parameter i => return ((s.frames.head?.bind fun f => f[i]?).getD (.unset none))

/-- Makes a variable stand for something. -/
def setSlot (v : Variable) (x : Slot) : Act Unit := modify fun s =>
  match v with
  | .global name => { s with globals := Table.insert name x s.globals }
  | .parameter i =>
    match s.frames with
    | f :: frames => { s with frames := f.setIfInBounds i x :: frames }
    | [] => s

/-- A new array. -/
def newArray : Act Nat := do
  let n := (← get).arrays.size
  modify fun s => { s with arrays := s.arrays.push [] }
  return n

/-- The number of the array that a variable stands for. -/
def arrayOf (v : Variable) : Act Nat := do
  match ← slotOf v with
  | .array n => return n
  | .unset (some n) =>
    setSlot v (.array n)
    return n
  | .unset none =>
    let n ← newArray
    setSlot v (.array n)
    return n
  | .cell _ => crash "scalar in array context"

/-- The elements of an array. -/
def elementsOf (n : Nat) : Act Elements := return ((← get).arrays[n]?).getD []

/-- Changes the elements of an array. -/
def changeElements (n : Nat) (f : Elements → Elements) : Act Unit :=
  modify fun s => { s with arrays := s.arrays.modify n f }

/-- The element of a key, which is made if it is not there. -/
def elementOf (n : Nat) (key : Octets) : Act Cell := do
  let es ← elementsOf n
  match es with
  | (k, c) :: _ => if k = key then return c
  | [] => pure ()
  let c := (Table.get? key es).getD .missing
  changeElements n fun es => (key, c) :: Table.erase key es
  return c

/-- Sets the element of a key. -/
def setElement (n : Nat) (key : Octets) (c : Cell) : Act Unit :=
  changeElements n fun es => (key, c) :: Table.erase key es

/-- A number that depends on a key, by which the keys of an array are ordered. -/
def weightOf (key : Octets) : Nat :=
  let cs := key.toList
  let size := cs.length
  let picked :=
    if size ≤ 10 then cs
    else ((cs.take 5).zip (cs.drop (size - 5))).flatMap fun p => [p.1, p.2]
  let (_, total) := picked.foldl (fun (a, b) c =>
    let a := (2 * a + c.toNat) % 2 ^ 32
    (a, (a + b) % 2 ^ 32)) (size, size)
  total

/-- The keys of an array in the order in which a loop goes through them: they are in groups, and in each of
these those come first that were used last. -/
def keysOf (es : Elements) : List Octets :=
  let groups := groupCount es.length 64 64
  ((List.range groups).map fun g => (es.filter fun e => weightOf e.1 % groups = g).map (·.1)).flatten
where
  /-- The number of groups: there are more if there are many elements. -/
  groupCount (size : Nat) : Nat → Nat → Nat
    | 0, n => n
    | k + 1, n => if 12 * n < size then groupCount size k (2 * n) else n

/-- The value of a variable of the script. -/
def globalCell (name : Octets) : Act Cell := do
  match Table.get? name (← get).globals with
  | some (.cell c) => return c
  | _ => return .missing

/-- Sets a variable of the script. -/
def setGlobal (name : Octets) (c : Cell) : Act Unit :=
  modify fun s => { s with globals := Table.insert name (.cell c) s.globals }

/-- The format for numbers that are used as texts. -/
def conversion : Act Octets := do
  return (← globalCell "CONVFMT").toText "%.6g"

/-- A value as a text. -/
def textOf (c : Cell) : Act Octets := do
  match c with
  | .text s | .input s => return s
  | .missing => return ""
  | c => return c.toText (← conversion)

/-- The text of a variable of the script. -/
def globalText (name : Octets) : Act Octets := do textOf (← globalCell name)

/-! ## Searching -/

/-- What an expression to search for means. -/
def regexOf (s : Octets) : Act Regex := do
  match Table.get? s (← get).patterns with
  | some r => return r
  | none =>
    let cs := s.toList
    match Regex.read Regex.Form.looseExtended (searchCharacters (cs.length + 1) cs) with
    | .ok r =>
      modify fun w => { w with patterns := (s, r) :: w.patterns }
      return r
    | .error _ => crash ("regular expression compile failed\n" ++ s)

/-- Where a text has its leftmost match. -/
def find? (pattern : Octets) (text : List Char) : Act (Option (Nat × Nat)) := do
  let r ← regexOf pattern
  return (Regex.search? {} r text 0).map fun m => (m.start, m.length)

/-- The parts of a text between the matches of an expression that are not empty, of which there are so many at
most. -/
def partsBetween (r : Regex) : Nat → List Char → List (List Char)
  | 0, cs => [cs]
  | n + 1, cs =>
    match nonEmpty? cs.length 0 cs with
    | none => [cs]
    | some (start, length) => cs.take start :: partsBetween r n (cs.drop (start + length))
where
  /-- The leftmost match from a position on that is not empty; so many are tried. -/
  nonEmpty? : Nat → Nat → List Char → Option (Nat × Nat)
    | 0, _, _ => none
    | k + 1, start, cs =>
      match Regex.search? {} r cs start with
      | none => none
      | some m => if m.length = 0 then nonEmpty? k (m.start + 1) cs else some (m.start, m.length)

/-- The words of a text between blanks and line feeds. -/
def wordsOf : List Char → List Char → List (List Char)
  | [], acc => if acc = [] then [] else [acc.reverse]
  | c :: r, acc =>
    if Octets.isSpace c then (if acc = [] then wordsOf r [] else acc.reverse :: wordsOf r [])
    else wordsOf r (c :: acc)

/-- The parts of a text by a separator. -/
def partsOf (sep : Octets) (text : Octets) : Act (List Octets) := do
  let cs := text.toList
  if cs = [] then return []
  match sep.toList with
  | [' '] => return (wordsOf cs []).map String.ofList
  | [] => return cs.map Char.toString
  | [c] => return (Octets.splitAt c cs).map String.ofList
  | _ =>
    let r ← regexOf sep
    return (partsBetween r (cs.length + 1) cs).map String.ofList

/-! ## The record -/

/-- The fields of the record. -/
def splitRecord : Act (Array Cell) := do
  match (← get).fields with
  | some fs => return fs
  | none =>
    let text ← textOf (← get).record
    let fs := ((← partsOf (← globalText "FS") text).map Cell.input).toArray
    modify fun s => { s with fields := some fs }
    return fs

/-- The record gets new fields, and is written anew from them. -/
def rebuild (fs : Array Cell) : Act Unit := do
  let sep ← globalText "OFS"
  let mut parts := []
  for c in fs do
    parts := (← textOf c) :: parts
  let record := Cell.input (Octets.join sep parts.reverse)
  modify fun s => { s with fields := some fs, record }

/-- The record becomes a text. -/
def setRecord (c : Cell) : Act Unit := modify fun s => { s with record := c, fields := none }

/-- The greatest number of a field. -/
def maxField : Int := 1000000

/-- The number of a field that a value means. -/
def fieldNumber (c : Cell) : Act Nat := do
  let i := integerOf c.toNumber
  if i < 0 then crash ("negative field index $" ++ Octets.ofInt i)
  else if maxField < i then crash ("program limit exceeded: maximum number of fields size=" ++ Octets.ofInt maxField)
  else return i.toNat

/-- A field; the record has the number 0. -/
def field (i : Nat) : Act Cell := do
  if i = 0 then return (← get).record else return ((← splitRecord)[i - 1]?).getD .missing

/-- Changes the number of fields. -/
def setFieldCount (n : Nat) : Act Unit := do
  let fs ← splitRecord
  rebuild ((fs.toList.take n) ++ List.replicate (n - fs.size) Cell.missing).toArray

/-- Sets a field; the record has the number 0. -/
def setField (i : Nat) (c : Cell) : Act Unit := do
  if i = 0 then
    setRecord (match c with
      | .input s | .text s => .input s
      | c => c)
  else
    let fs ← splitRecord
    let fs := (fs.toList ++ List.replicate (i - fs.size) Cell.missing).toArray
    rebuild (fs.setIfInBounds (i - 1) c)

/-! ## Values of variables -/

/-- The value of a variable. -/
def valueOf (v : Variable) : Act Cell := do
  if v = .global "NF" then return .ofNat (← splitRecord).size
  match ← slotOf v with
  | .cell c => return c
  | .unset _ => return .missing
  | .array _ => crash "array in scalar context"

/-- Sets a variable. -/
def assign (v : Variable) (c : Cell) : Act Unit := do
  match v with
  | .global "NF" => setFieldCount (← fieldNumber c)
  | .global "FS" =>
    discard splitRecord
    setSlot v (.cell c)
  | _ => setSlot v (.cell c)

end ShellCoverage.Shell.Rules
