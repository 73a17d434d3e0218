import ShellCoverage.Shell.Program.Files
import ShellCoverage.Shell.Program.Rules.Channels

/-!
# Carrying out rules

* `Rules.formatted` : the text of `printf`;
* `Rules.substitute` : the text with others in place of matches;
* `Rules.evaluate`, `Rules.execute` : the value of an expression, and what a statement does.
-/

namespace ShellCoverage.Shell.Rules

open Program

/-! ## Texts -/

/-- The text of one conversion. -/
def converted? (c : Printing.Conversion) (x : Cell) (text : Octets) : Option (List Char) :=
  match c.letter with
  | 'd' | 'i' | 'o' | 'x' | 'X' | 'u' => some (Printing.integer c (integerOf x.toNumber))
  | 'e' | 'E' | 'f' | 'F' | 'g' | 'G' => some (converted c x.toNumber)
  | 's' => some (Printing.textOf c text.toList)
  | 'c' =>
    let isNumber : Bool := match x with
      | .number _ => true
      | .input s => (looksLike? s).isSome
      | _ => false
    let shown := if isNumber then Char.ofNat ((integerOf x.toNumber).emod 256).toNat else
      text.toList.head?.getD '\x00'
    some (Printing.pad c [shown])
  | _ => none

/-- A width or a precision at the head of some characters, which may be the next value, and what is left of
both; nothing if there is no such value. -/
def measured? (cs : List Char) (args : List Cell) : Option (Option Int × List Char × List Cell) :=
  match cs, args with
  | '*' :: _, [] => none
  | '*' :: r, a :: args => some (some (integerOf a.toNumber), r, args)
  | _, _ =>
    let ds := cs.takeWhile Char.isDigit
    if ds = [] then some (none, cs, args)
    else some (some (Octets.ofDigits ds : Int), cs.drop ds.length, args)

/-- The text of a format with values for its conversions, of which so many characters are read, and what is
wrong, if something is. The number of conversions so far is for messages. -/
def formatFrom (name form : Octets) (shown : Cell → Octets) :
    Nat → Nat → List Char → List Cell → List Char × Option Octets
  | 0, _, _, _ => ([], none)
  | _, _, [], _ => ([], none)
  | n + 1, count, '%' :: '%' :: r, args =>
    let (cs, e) := formatFrom name form shown n count r args
    ('%' :: cs, e)
  | n + 1, count, '%' :: r, args =>
    let missing : List Char × Option Octets :=
      ([], some ("not enough arguments passed to " ++ name ++ "(\"" ++ form ++ "\")"))
    let flags := r.takeWhile fun c => "-+ #0".toList.elem c
    match measured? (r.drop flags.length) args with
    | none => missing
    | some (width, rest, args) =>
      let precision? : Option (Option Int × List Char × List Cell) := match rest with
        | '.' :: r => (measured? r args).map fun m => (some (m.1.getD 0), m.2)
        | r => some (none, r, args)
      match precision? with
      | none => missing
      | some (precision, rest, args) =>
        let rest := rest.dropWhile fun c => c = 'h' || c = 'l'
        match rest, args with
        | [], _ => ('%' :: r, none)
        | letter :: rest, args =>
          if !("diouxXeEfFgGsc".toList.elem letter) then
            ([], some ("improper conversion(number " ++ Octets.ofNat (count + 1) ++ ") in " ++ name ++ "(\"" ++
              form ++ "\")"))
          else
            match args with
            | [] => missing
            | a :: args =>
              let cs := (converted? { flags, width, precision, letter } a (shown a)).getD []
              let (more, e) := formatFrom name form shown n (count + 1) rest args
              (cs ++ more, e)
  | n + 1, count, c :: r, args =>
    let (cs, e) := formatFrom name form shown n count r args
    (c :: cs, e)

/-- The text of a format with values for its conversions; what is before a mistake is given to an action. -/
def formatted (name : Octets) (cs : List Cell) (before : Octets → Act Unit) : Act Octets := do
  match cs with
  | [] => return ""
  | f :: args =>
    let form ← textOf f
    let number ← conversion
    match formatFrom name form (·.toText number) (form.length + 1) 0 form.toList args with
    | (out, none) => return String.ofList out
    | (out, some e) =>
      before (String.ofList out)
      crash e

/-- What is put in place of a match, after so many backslashes. Before an ampersand two of them mean one, and
one that is left protects it. -/
def replacement (found : List Char) : Nat → List Char → List Char
  | n, [] => List.replicate n '\\'
  | n, '\\' :: r => replacement found (n + 1) r
  | n, '&' :: r =>
    List.replicate (n / 2) '\\' ++ (if n % 2 = 0 then found else ['&']) ++ replacement found 0 r
  | n, c :: r => List.replicate n '\\' ++ c :: replacement found 0 r

/-- A text with others in place of the matches, from a position on. -/
def substituteFrom (new text : List Char) : Nat → List Regex.Match → List Char
  | position, [] => text.drop position
  | position, m :: ms =>
    (text.drop position).take (m.start - position) ++
      replacement ((text.drop m.start).take m.length) 0 new ++ substituteFrom new text (m.start + m.length) ms

/-- A text with others in place of the matches, or of the first one, and how many there are. -/
def substitute (isGlobal : Bool) (r : Regex) (new text : List Char) : List Char × Nat :=
  let all := if isGlobal then Regex.allMatches {} r text else (Regex.search? {} r text 0).toList
  (substituteFrom new text 0 all, all.length)

/-- A part of a text: from the character with a number on, of so many; these may be outside. -/
def part (text : List Char) (start : Int) (count : Option Int) : List Char :=
  let text := text.drop (start - 1).toNat
  match count with
  | none => text
  | some n => text.take (if start < 1 then n + start - 1 else n).toNat

/-- Where the part of a text is at which another one begins: the number of the character, or zero. -/
def positionOf (what : List Char) : Nat → List Char → Nat
  | _, [] => 0
  | i, c :: r => if what.isPrefixOf (c :: r) then i else positionOf what (i + 1) r

/-! ## Numbers -/

/-- An operation on numbers. -/
def Arithmetic.apply (o : Arithmetic) (x y : Float) : Float :=
  match o with
  | .add => x + y
  | .subtract => x - y
  | .multiply => x * y
  | .divide => x / y
  | .remainder => Rules.remainder x y
  | .power => Float.pow x y

/-- The next state of the generator of random numbers. -/
def nextSeed (n : Nat) : Nat := (n * 6364136223846793005 + 1442695040888963407) % 2 ^ 64

/-- The moment that a text with six numbers means: the year, the month, the day and the time of day. -/
def momentOf? (s : Octets) : Option Int :=
  match (wordsOf s.toList []).map fun w => Octets.integer? (String.ofList w) with
  | [some y, some mo, some d, some h, some mi, some sec] =>
    let months := y * 12 + (mo - 1)
    let start := Moment.toSeconds
      { year := months.fdiv 12, month := (months.fmod 12).toNat + 1, day := 1, hour := 0, minute := 0, second := 0 }
    some (start + (d - 1) * 86400 + h * 3600 + mi * 60 + sec)
  | _ => none

/-! ## Targets -/

/-- Where a value can be put. -/
inductive Target where
  | variable (v : Variable)
  | element (array : Nat) (key : Octets)
  | field (i : Nat)

/-- The value that is there. -/
def Target.load : Target → Act Cell
  | .variable v => valueOf v
  | .element n key => elementOf n key
  | .field i => Rules.field i

/-- Puts a value there. -/
def Target.store (t : Target) (c : Cell) : Act Unit :=
  match t with
  | .variable v => assign v c
  | .element n key => setElement n key c
  | .field i => setField i c

/-! ## Expressions -/

/-- A value from a record that was taken, and where it goes: the answer tells how that went. -/
def receive (target : Option Target) (r : Int × Octets) : Act Cell := do
  if r.1 = 1 then
    match target with
    | none => setRecord (.input r.2)
    | some t => t.store (.input r.2)
  return .number (ofInt r.1)

/-- A function of a number. -/
def numberFunction? (name : Octets) : Option (Float → Float) :=
  match name with
  | "sin" => some Float.sin
  | "cos" => some Float.cos
  | "exp" => some Float.exp
  | "log" => some Float.log
  | "sqrt" => some Float.sqrt
  | "int" => some withoutFraction
  | _ => none

/-- The value of a function that is always there, if it needs nothing but values. -/
def plainFunction (name : Octets) (args : List Cell) : Act Cell := do
  match name, args with
  | "length", [] => return .ofNat (← textOf (← field 0)).length
  | "length", [c] => return .ofNat (← textOf c).length
  | "substr", [s, m] =>
    return .text (String.ofList (part (← textOf s).toList (integerOf m.toNumber) none))
  | "substr", [s, m, n] =>
    return .text (String.ofList (part (← textOf s).toList (integerOf m.toNumber) (some (integerOf n.toNumber))))
  | "index", [s, t] =>
    let s := (← textOf s).toList
    let t := (← textOf t).toList
    return .ofNat (if t = [] then 1 else positionOf t 1 s)
  | "atan2", [y, x] => return .number (Float.atan2 y.toNumber x.toNumber)
  | "tolower", [s] => return .text (String.ofList ((← textOf s).toList.map Char.toLower))
  | "toupper", [s] => return .text (String.ofList ((← textOf s).toList.map Char.toUpper))
  | "sprintf", cs => return .text (← formatted "sprintf" cs fun _ => return ())
  | "system", [c] => return .ofNat (← runSystem (← textOf c))
  | "close", [c] => return .number (ofInt (← closeChannel (← textOf c)))
  | "fflush", _ =>
    flushAll
    return .ofNat 0
  | "rand", _ =>
    let seed := nextSeed (← get).seed
    modify fun s => { s with seed }
    return .number ((seed / 2 ^ 33).toFloat / (2 ^ 31 : Nat).toFloat)
  | "srand", args =>
    let old := (← get).seed
    let seed ← match args with
      | [c] => pure (integerOf c.toNumber).natAbs
      | _ => pure (← onMachine presentTime).toNat
    modify fun s => { s with seed }
    return .ofNat old
  | "systime", _ => return .number (ofInt (← onMachine presentTime))
  | "strftime", args =>
    let format ← match args with
      | f :: _ => textOf f
      | [] => pure "%c"
    let moment ← match args with
      | _ :: t :: _ => pure (integerOf t.toNumber)
      | _ => onMachine presentTime
    return .text (Moment.format (Moment.ofSeconds moment) format)
  | "mktime", c :: _ => return .number (ofInt ((momentOf? (← textOf c)).getD (-1)))
  | name, [c] =>
    match numberFunction? name with
    | some f => return .number (f c.toNumber)
    | none => return .missing
  | _, _ => return .missing

/-- Texts as a key of an array. -/
def keyOf (cs : List Cell) : Act Octets := do
  let mut parts := []
  for c in cs do
    parts := (← textOf c) :: parts
  match parts with
  | [s] => return s
  | _ => return Octets.join (← globalText "SUBSEP") parts.reverse

/-- Writes values one after the other. -/
def printedText (cs : List Cell) : Act Octets := do
  let format := (← globalCell "OFMT").toText "%.6g"
  let sep ← globalText "OFS"
  let feed ← globalText "ORS"
  return Octets.join sep (cs.map (·.toText format)) ++ feed

/-- What is written where a conversion fails has come before that. -/
def toStandard (s : Octets) : Act Unit := put standardName s

mutual

/-- The value of an expression. -/
def evaluate : Nat → Expression → Act Cell
  | 0, _ => onMachine (throw .stopped)
  | n + 1, e => do
    match e with
    | .number x => return .number x
    | .text s => return .text s
    | .pattern s => return .ofBool (← find? s (← textOf (← field 0)).toList).isSome
    | .variable _ | .element _ _ | .field _ => (← targetOf n e).load
    | .assign target o e =>
      let t ← targetOf n target
      let c ← evaluate n e
      let c ← match o with
        | none => pure (match c with
          | .missing => Cell.missing
          | c => c)
        | some o => pure (Cell.number (o.apply (← t.load).toNumber c.toNumber))
      t.store c
      return c
    | .step target amount before =>
      let t ← targetOf n target
      let old := (← t.load).toNumber
      let new := old + ofInt amount
      t.store (.number new)
      return .number (if before then new else old)
    | .conditional c a b => if (← evaluate n c).holds then evaluate n a else evaluate n b
    | .or a b =>
      if (← evaluate n a).holds then return .ofBool true
      return .ofBool (← evaluate n b).holds
    | .and a b =>
      if !(← evaluate n a).holds then return .ofBool false
      return .ofBool (← evaluate n b).holds
    | .not e => return .ofBool !(← evaluate n e).holds
    | .negate e => return .number (-(← evaluate n e).toNumber)
    | .affirm e => return .number (← evaluate n e).toNumber
    | .isIn subscripts v =>
      let key ← keyOf (← evaluateAll n subscripts)
      return .ofBool (Table.has key (← elementsOf (← arrayOf v)))
    | .matching negated e pattern =>
      let text ← textOf (← evaluate n e)
      let isFound := (← find? (← patternOf n pattern) text.toList).isSome
      return .ofBool (isFound != negated)
    | .compare o a b =>
      let a ← evaluate n a
      let b ← evaluate n b
      return .ofBool (o.ofCells (← conversion) a b)
    | .concatenate a b =>
      let a ← textOf (← evaluate n a)
      let b ← textOf (← evaluate n b)
      return .text (a ++ b)
    | .compute o a b =>
      let a ← evaluate n a
      let b ← evaluate n b
      return .number (o.apply a.toNumber b.toNumber)
    | .call name args => call n name args
    | .builtin name args => builtin n name args
    | .read target =>
      let t ← optionalTarget n target
      match ← nextRecord? with
      | some r => receive t (1, r)
      | none => receive t (0, "")
    | .readFile path target =>
      let name ← textOf (← evaluate n path)
      let t ← optionalTarget n target
      receive t (← recordFrom false name)
    | .readCommand command target =>
      let name ← textOf (← evaluate n command)
      let t ← optionalTarget n target
      receive t (← recordFrom true name)
    | .grouped e => evaluate n e

/-- The values of expressions. -/
def evaluateAll : Nat → List Expression → Act (List Cell)
  | 0, _ => onMachine (throw .stopped)
  | _, [] => return []
  | n + 1, e :: es => do
    let c ← evaluate n e
    return c :: (← evaluateAll n es)

/-- Where an expression says that a value can be put. -/
def targetOf : Nat → Expression → Act Target
  | 0, _ => onMachine (throw .stopped)
  | n + 1, e => do
    match e with
    | .variable v => return .variable v
    | .element v subscripts =>
      let key ← keyOf (← evaluateAll n subscripts)
      return .element (← arrayOf v) key
    | .field e => return .field (← fieldNumber (← evaluate n e))
    | _ => return .field 0

/-- Where an expression says that a value can be put, if there is one. -/
def optionalTarget : Nat → Option Expression → Act (Option Target)
  | 0, _ => onMachine (throw .stopped)
  | _, none => return none
  | n + 1, some e => return some (← targetOf n e)

/-- What an expression says to search for. -/
def patternOf : Nat → Expression → Act Octets
  | 0, _ => onMachine (throw .stopped)
  | n + 1, e => do
    match e with
    | .pattern s => return s
    | e => textOf (← evaluate n e)

/-- The value of a function that is always there. -/
def builtin : Nat → Octets → List Expression → Act Cell
  | 0, _, _ => onMachine (throw .stopped)
  | n + 1, name, args => do
    match name, args with
    | "length", [.variable v] =>
      match ← slotOf v with
      | .array i => return .ofNat (← elementsOf i).length
      | .unset (some i) => return .ofNat (← elementsOf i).length
      | _ => plainFunction name [← valueOf v]
    | "split", s :: .variable v :: more =>
      let text ← textOf (← evaluate n s)
      let parts ← match more with
        | [] => partsOf (← globalText "FS") text
        | .pattern p :: _ =>
          let r ← regexOf p
          let cs := text.toList
          pure (if cs = [] then [] else (partsBetween r (cs.length + 1) cs).map String.ofList)
        | e :: _ => partsOf (← textOf (← evaluate n e)) text
      let array ← arrayOf v
      changeElements array fun _ =>
        (parts.zipIdx.map fun (p, i) => (Octets.ofNat (i + 1), Cell.input p)).reverse
      return .ofNat parts.length
    | "match", [s, p] =>
      let text ← textOf (← evaluate n s)
      let (start, length) : Int × Int := match ← find? (← patternOf n p) text.toList with
        | some (start, length) => (start + 1, length)
        | none => (0, -1)
      setGlobal "RSTART" (.number (ofInt start))
      setGlobal "RLENGTH" (.number (ofInt length))
      return .number (ofInt start)
    | "sub", p :: s :: more => replace n false p s more.head?
    | "gsub", p :: s :: more => replace n true p s more.head?
    | _, _ => plainFunction name (← evaluateAll n args)

/-- Puts a text in place of the matches of an expression. -/
def replace : Nat → Bool → Expression → Expression → Option Expression → Act Cell
  | 0, _, _, _, _ => onMachine (throw .stopped)
  | n + 1, isGlobal, pattern, new, place => do
    let pattern ← patternOf n pattern
    let new ← textOf (← evaluate n new)
    let place := match place with
      | some (.grouped e) => e
      | some e => e
      | none => .field (.number 0)
    let t ← targetOf n place
    let text ← if place.isTarget then textOf (← t.load) else textOf (← evaluate n place)
    let r ← regexOf pattern
    let (out, count) := substitute isGlobal r new.toList text.toList
    if 0 < count && place.isTarget then t.store (.text (String.ofList out))
    return .ofNat count

/-- The value of a function of the script. -/
def call : Nat → Octets → List Expression → Act Cell
  | 0, _, _ => onMachine (throw .stopped)
  | n + 1, name, args => do
    let some f := Table.get? name (← get).script.functions | return .missing
    let slots ← slotsOf n args
    let frame := (slots ++ List.replicate (f.parameters.length - slots.length) (Slot.unset none)).toArray
    modify fun s => { s with frames := frame :: s.frames }
    let result ← tryCatch (do
      execute n f.body
      return Cell.missing) fun j => do
        match j with
        | .giveBack c => return c
        | j => throw j
    modify fun s => { s with frames := s.frames.tail }
    return result

/-- What the values for a function stand for. -/
def slotsOf : Nat → List Expression → Act (List Slot)
  | 0, _ => onMachine (throw .stopped)
  | _, [] => return []
  | n + 1, e :: es => do
    let x ← match e with
      | .variable v =>
        if v = .global "NF" then pure (Slot.cell (← valueOf v))
        else
          match ← slotOf v with
          | .unset none =>
            let i ← newArray
            setSlot v (.unset (some i))
            pure (.unset (some i))
          | x => pure x
      | e => pure (Slot.cell (← evaluate n e))
    return x :: (← slotsOf n es)

/-- Carries out a statement. -/
def execute : Nat → Statement → Act Unit
  | 0, _ => onMachine (throw .stopped)
  | n + 1, s => do
    match s with
    | .block ss => executeAll n ss
    | .evaluate e => discard (evaluate n e)
    | .print args sink =>
      let cs ← evaluateAll n args
      let cs ← if args.isEmpty then pure [← field 0] else pure cs
      let name ← outletOf n sink
      put name (← printedText cs)
    | .format args sink =>
      let cs ← evaluateAll n args
      let name ← outletOf n sink
      put name (← formatted "printf" cs (put name))
    | .choose c yes no =>
      if (← evaluate n c).holds then execute n yes
      else if let some no := no then execute n no
    | .whileLoop c body => repeatWhile n (some c) body (.block [])
    | .untilLoop body c =>
      if ← once n body then repeatWhile n (some c) body (.block [])
    | .forLoop start c step body =>
      execute n start
      repeatWhile n c body step
    | .forKeys key v body =>
      let keys := keysOf (← elementsOf (← arrayOf v))
      executeFor n key keys body
    | .leave => throw .leave
    | .proceed => throw .proceed
    | .nextRecord => throw .nextRecord
    | .nextFile => throw .nextFile
    | .exit e =>
      if let some e := e then
        let status := ((integerOf (← evaluate n e).toNumber).emod 256).toNat
        modify fun s => { s with status }
      throw .exit
    | .giveBack none => throw (.giveBack .missing)
    | .giveBack (some e) => throw (.giveBack (← evaluate n e))
    | .deleteAll v => changeElements (← arrayOf v) fun _ => []
    | .delete v subscripts =>
      let key ← keyOf (← evaluateAll n subscripts)
      changeElements (← arrayOf v) (Table.erase key)

/-- Carries out statements one after the other. -/
def executeAll : Nat → List Statement → Act Unit
  | 0, _ => onMachine (throw .stopped)
  | _, [] => return ()
  | n + 1, s :: ss => do
    execute n s
    executeAll n ss

/-- Carries out the body of a loop once; whether the loop goes on. -/
def once : Nat → Statement → Act Bool
  | 0, _ => onMachine (throw .stopped)
  | n + 1, body =>
    tryCatch (do
      execute n body
      return true) fun j => do
        match j with
        | .leave => return false
        | .proceed => return true
        | j => throw j

/-- Carries out a loop while its condition holds. -/
def repeatWhile : Nat → Option Expression → Statement → Statement → Act Unit
  | 0, _, _, _ => onMachine (throw .stopped)
  | n + 1, c, body, step => do
    let holds ← match c with
      | some c => pure (← evaluate n c).holds
      | none => pure true
    if holds then
      if ← once n body then
        execute n step
        repeatWhile n c body step

/-- Carries out a loop for some keys. -/
def executeFor : Nat → Variable → List Octets → Statement → Act Unit
  | 0, _, _, _ => onMachine (throw .stopped)
  | _, _, [], _ => return ()
  | n + 1, key, k :: ks, body => do
    assign key (.input k)
    if ← once n body then executeFor n key ks body

/-- The name of what a statement writes to, which is opened if it is not. -/
def outletOf : Nat → Sink → Act Octets
  | 0, _ => onMachine (throw .stopped)
  | n + 1, sink => do
    let provide (mode : Mode) (e : Expression) : Act Octets := do
      let name ← textOf (← evaluate n e)
      let name := if name = "-" && mode ≠ .command then standardName else name
      provideOutlet mode name
      return name
    match sink with
    | .standard => return standardName
    | .file e => provide .file e
    | .atEnd e => provide .atEnd e
    | .command e => provide .command e

end

end ShellCoverage.Shell.Rules
