import ShellCoverage.Shell.Program.Input

/-!
# Programs that pair the lines of two ordered files

`comm` and `join` go through two files at once and step in the one whose line comes first. Both expect lines in
order, and notice where they are not.

* `Program.Side` : the lines of one file that are left; `Program.Side.step` : goes on to the next one;
* `Program.Pairing` : what comes out: a line with or without a partner, or a line out of order;
* `Program.merge` : the way of `comm`, line by line;
* `Program.matchKeys` : the way of `join`, which pairs all lines with the same key.
-/

namespace ShellCoverage.Shell.Program

/-- A line with its number and its key. -/
structure Row where
  number : Nat
  text : Octets
  key : Octets
  fields : List Octets := []
  deriving Inhabited, DecidableEq

/-- What comes out when lines are paired. -/
inductive Pairing where
  | pair (a b : Row)
  | onlyFirst (a : Row)
  | onlySecond (b : Row)
  /-- A line of a file comes before the one above it. -/
  | disorder (second : Bool) (r : Row)

/-- The lines of a file that are left; the first of them is the current one. -/
structure Side where
  second : Bool
  rows : List Row
  /-- The line before the current one. -/
  previous : Option Row := none
  /-- A line out of order was reported. -/
  warned : Bool := false

namespace Side

/-- The report for two lines that follow each other, if they are out of order and that counts. -/
def check (s : Side) (counts : Bool) (above r : Row) : Side × List Pairing :=
  if counts && !s.warned && decide (r.key < above.key) then ({ s with warned := true }, [.disorder s.second r])
  else (s, [])

/-- Goes on to the next line. -/
def step (s : Side) (counts : Bool) : Side × List Pairing :=
  match s.rows with
  | r :: next :: rest => check { s with rows := next :: rest, previous := some r } counts r next
  | rs => ({ s with rows := [], previous := rs.head? }, [])

/-- Goes on to the next line; at the end the last two lines are looked at again. -/
def stepAgain (s : Side) (counts : Bool) : Side × List Pairing :=
  match s.rows, s.previous with
  | [r], some above =>
    let (t, ps) := s.check counts above r
    ({ t with rows := [], previous := some r }, ps)
  | _, _ => s.step counts

/-- Goes on past some more lines. -/
def steps (counts : Bool) : Nat → Side → Side × List Pairing
  | 0, s => (s, [])
  | n + 1, s =>
    let (s, ps) := s.step counts
    let (s, qs) := s.steps counts n
    (s, ps ++ qs)

end Side

/-- Whether the order of lines counts: always, never, or once a line had no partner. -/
inductive OrderCheck where
  | always
  | never
  | unpaired
  deriving DecidableEq

/-- The order of lines counts. -/
def OrderCheck.counts (c : OrderCheck) (seen : Bool) : Bool :=
  match c with
  | .always => true
  | .never => false
  | .unpaired => seen

/-- Pairs lines one by one; `seen` says that a line had no partner. -/
def merge (order : OrderCheck) : Nat → Bool → Side → Side → List Pairing
  | 0, _, _, _ => []
  | n + 1, seen, s, t =>
    match s.rows, t.rows with
    | [], [] => []
    | a :: _, [] =>
      let (s, ps) := s.stepAgain (order.counts true)
      .onlyFirst a :: ps ++ merge order n true s t
    | [], b :: _ =>
      let (t, qs) := t.stepAgain (order.counts true)
      .onlySecond b :: qs ++ merge order n true s t
    | a :: _, b :: _ =>
      if a.key = b.key then
        let (s, ps) := s.stepAgain (order.counts seen)
        let (t, qs) := t.stepAgain (order.counts seen)
        .pair a b :: ps ++ qs ++ merge order n seen s t
      else if a.key < b.key then
        let (s, ps) := s.stepAgain (order.counts true)
        .onlyFirst a :: ps ++ merge order n true s t
      else
        let (t, qs) := t.stepAgain (order.counts true)
        .onlySecond b :: qs ++ merge order n true s t

/-- The lines of a file that have no other one left to pair with. -/
def remaining (order : OrderCheck) (seen : Bool) (s : Side) : List Pairing :=
  match s.rows with
  | [] => []
  | rows =>
    let alone (r : Row) : Pairing := if s.second then .onlySecond r else .onlyFirst r
    rows.map alone ++ (s.steps (order.counts seen) rows.length).2

/-- Pairs all lines that have the same key; `seen` says that a line had no partner. -/
def matchKeys (order : OrderCheck) : Nat → Bool → Side → Side → List Pairing
  | 0, _, _, _ => []
  | n + 1, seen, s, t =>
    match s.rows, t.rows with
    | [], [] => []
    | [], _ => remaining order seen t
    | _, [] => remaining order seen s
    | a :: _, b :: _ =>
      if a.key = b.key then
        let as := s.rows.takeWhile (·.key = a.key)
        let bs := t.rows.takeWhile (·.key = a.key)
        let (s, ps) := s.steps (order.counts seen) as.length
        let (t, qs) := t.steps (order.counts seen) bs.length
        ps ++ qs ++ (as.flatMap fun a => bs.map (.pair a)) ++ matchKeys order n seen s t
      else if a.key < b.key then
        let (s, ps) := s.step (order.counts seen)
        .onlyFirst a :: ps ++ matchKeys order n true s t
      else
        let (t, qs) := t.step (order.counts seen)
        .onlySecond b :: qs ++ matchKeys order n true s t

/-! ## Programs -/

/-- Two operands for files, and a complaint if there are more or fewer. -/
def twoFiles (operands : List Octets) (act : Octets → Octets → Sh Nat) : Sh Nat := do
  match operands with
  | [a, b] => act a b
  | [] => missingOperand
  | [a] => misuse ("missing operand after " ++ cited a)
  | _ :: _ :: c :: _ => extraOperand c

/-- The contents of two files, or complaints. -/
def readTwo (a b : Octets) (act : Octets → Octets → Sh Nat) : Sh Nat := do
  match ← input a with
  | .error e => complainOf a e; return 1
  | .ok x =>
    match ← input b with
    | .error e => complainOf b e; return 1
    | .ok y => act x y

/-- Lines with their numbers. -/
def numberedRows (ls : List Octets) (key : Octets → Octets) (fields : Octets → List Octets) : List Row :=
  ls.zipIdx.map fun l => { number := l.2 + 1, text := l.1, key := key l.1, fields := fields l.1 }

/-- What the options say about the order of lines. -/
def orderCheck (os : Options) : OrderCheck :=
  if os.has "check-order" then .always else if os.has "nocheck-order" then .never else .unpaired

/-- Handles what comes out, up to the first line out of order if the order always counts; the status says whether
there was such a line. -/
def settle (order : OrderCheck) (ps : List Pairing) (report : Bool → Row → Sh Unit) (act : Pairing → Sh Unit) :
    Sh Nat := do
  let mut good := true
  for p in ps do
    match p with
    | .disorder second r =>
      report second r
      if order = .always then return 1
      good := false
    | p => act p
  if !good then complain "input is not in sorted order"
  return status good

/-- `comm` -/
def comm : Program := fun args =>
  let u : Usage :=
    { letters := "123z"
      words := [("check-order", "check-order"), ("nocheck-order", "nocheck-order"),
        ("output-delimiter", "output-delimiter:"), ("total", "total"), ("zero-terminated", "z")] }
  u.run args fun os operands => twoFiles operands fun a b => readTwo a b fun x y => do
    let gap := (os.value? "output-delimiter").getD "\t"
    let delimiter := if os.has "z" then Char.ofNat 0 else '\n'
    let rows (s : Octets) : List Row := numberedRows (records delimiter s) id fun _ => []
    let order := orderCheck os
    let xs := rows x
    let ys := rows y
    let ps := merge order (xs.length + ys.length + 1) false ⟨false, xs, none, false⟩ ⟨true, ys, none, false⟩
    let shows (i : Nat) : Bool := !os.has (Octets.ofNat (i + 1))
    let write (column : Nat) (r : Row) : Sh Unit := do
      let before := ((List.range column).filter shows).map fun _ => gap
      if shows column then Sh.write (String.join before ++ r.text ++ delimiter.toString)
    let count (p : Pairing → Bool) : Octets := Octets.ofNat (ps.filter p).length
    let total : List Octets :=
      [count fun p => match p with | .onlyFirst _ => true | _ => false,
        count fun p => match p with | .onlySecond _ => true | _ => false,
        count fun p => match p with | .pair .. => true | _ => false, "total"]
    let isWrong (p : Pairing) : Bool := match p with | .disorder .. => true | _ => false
    let report (second : Bool) (_ : Row) : Sh Unit :=
      complain ("file " ++ (if second then "2" else "1") ++ " is not in sorted order")
    let act (p : Pairing) : Sh Unit :=
      match p with
      | .pair _ b => write 2 b
      | .onlyFirst a => write 0 a
      | .onlySecond b => write 1 b
      | .disorder .. => pure ()
    let body := ps.filter fun p => !isWrong p
    if os.has "total" && order ≠ .always then
      body.forM act
      Sh.write (Octets.join gap total ++ "\n")
      settle order (ps.filter isWrong) report act
    else settle order ps report act

/-- A line in fields: between separators, or else between blanks; an empty field follows blanks at the end. -/
def joinFields (separator : Option Char) (l : Octets) : List Octets :=
  match separator with
  | some c => Octets.pieces c l
  | none =>
    let words := Octets.pieces ' ' (l.map fun c => if Octets.isSpace c then ' ' else c)
    let full := words.filter (· ≠ "")
    if full ≠ [] && words.getLast? = some "" then full ++ [""] else full

/-- What `join` writes of a pair of lines. -/
inductive JoinFormat where
  /-- The key, and the other fields of both lines. -/
  | all
  /-- The same, with so many fields of each line. -/
  | counted (first second : Nat)
  /-- Fields by their places: the number of the file, or 0 for the key, and that of the field. -/
  | listed (places : List (Nat × Nat))

/-- How `join` treats lines. -/
structure Joining where
  /-- The places of the keys. -/
  keys : Nat × Nat := (0, 0)
  format : JoinFormat := .all
  /-- What stands for an empty field. -/
  filler : Octets := ""

/-- The fields that `join` writes. -/
def Joining.fields (j : Joining) (a b : Option Row) : List Octets :=
  let orFiller (s : Option Octets) : Octets := match s with | some "" | none => j.filler | some s => s
  let field (r : Option Row) (n : Nat) : Octets := orFiller (r.bind (·.fields[n]?))
  let key := match a with | some _ => field a j.keys.1 | none => field b j.keys.2
  let others (r : Option Row) (k : Nat) (count : Nat) : List Octets :=
    ((List.range count).filter (· ≠ k)).map (field r)
  let size (r : Option Row) : Nat := (r.map (·.fields.length)).getD 0
  match j.format with
  | .all => key :: (others a j.keys.1 (size a) ++ others b j.keys.2 (size b))
  | .counted m n => key :: (others a j.keys.1 m ++ others b j.keys.2 n)
  | .listed places => places.map fun p =>
    if p.1 = 0 then key else field (if p.1 = 1 then a else b) (p.2 - 1)

/-- A place in a list of fields to write. -/
def joinPlace? (s : Octets) : Except Octets (Nat × Nat) :=
  match Octets.pieces '.' s with
  | ["0"] => .ok (0, 0)
  | [f, n] =>
    if f = "0" then .error ("invalid field specifier: " ++ cited s)
    else if f ≠ "1" && f ≠ "2" then .error ("invalid file number in field spec: " ++ cited s)
    else
      match Octets.natural? n with
      | some (k + 1) => .ok (if f = "1" then 1 else 2, k + 1)
      | _ => .error ("invalid field number: " ++ cited n)
  | _ =>
    if ["0", "1", "2"].elem (String.ofList (s.toList.take 1)) then .error ("invalid field specifier: " ++ cited s)
    else .error ("invalid file number in field spec: " ++ cited s)

/-- The place of the key of a file, given by its own option or by one for both files. -/
def joinKey (os : Options) (own : Octets) : Except Octets Nat := do
  let mut key : Option Nat := none
  for o in os do
    if o.1 = own || o.1 = "j" then
      match Octets.natural? o.2 with
      | some (k + 1) =>
        if key.any (· ≠ k) then
          throw ("incompatible join fields " ++ Octets.ofNat (key.getD 0) ++ ", " ++ Octets.ofNat k)
        key := some k
      | _ => throw ("invalid field number: " ++ cited o.2)
  return key.getD 0

/-- The character between fields, if it is not any blank. -/
def joinSeparator (os : Options) : Except Octets (Option Char) :=
  match os.value? "t" with
  | none => .ok none
  | some "" => .ok (some '\n')
  | some "\\0" => .ok (some (Char.ofNat 0))
  | some s =>
    match s.toList with
    | [c] => .ok (some c)
    | _ => .error ("multi-character tab " ++ cited s)

/-- The options of `join` that say how lines are treated; those of the form are read with the first lines. -/
def readJoining (os : Options) : Except Octets (Joining × Option Char) := do
  let keys := (← joinKey os "1", ← joinKey os "2")
  for n in os.values "a" ++ os.values "v" do
    if n ≠ "1" && n ≠ "2" then throw ("invalid field number: " ++ cited n)
  let separator ← joinSeparator os
  let filler := (os.value? "e").getD ""
  match os.values "o" with
  | [] => return ({ keys, filler }, separator)
  | ["auto"] => return ({ keys, filler, format := .counted 0 0 }, separator)
  | lists =>
    let words := lists.flatMap fun s =>
      Octets.pieces ',' (s.map fun c => if Octets.isBlank c then ',' else c)
    return ({ keys, filler, format := .listed (← words.mapM joinPlace?) }, separator)

/-- `join` -/
def join : Program := fun args =>
  let u : Usage :=
    { letters := "a:e:i1:2:j:o:t:v:z"
      words := [("ignore-case", "i"), ("check-order", "check-order"), ("nocheck-order", "nocheck-order"),
        ("header", "header"), ("zero-terminated", "z")] }
  u.run args fun os operands => do
    match readJoining os with
    | .error m =>
      complain m
      return 1
    | .ok (j, separator) =>
      twoFiles operands fun a b => do
        if a = "-" && b = "-" then
          complain "both files cannot be standard input"
          return 1
        readTwo a b fun x y => do
          let delimiter := if os.has "z" then Char.ofNat 0 else '\n'
          let fold (s : Octets) : Octets := if os.has "i" then s.map Char.toLower else s
          let rows (k : Nat) (s : Octets) : List Row :=
            numberedRows (records delimiter s) (fun l => fold (((joinFields separator l)[k]?).getD ""))
              (joinFields separator)
          let xs := rows j.keys.1 x
          let ys := rows j.keys.2 y
          let size (rs : List Row) : Nat := (rs.head?.map (·.fields.length)).getD 0
          let j := match j.format with
            | .counted .. => { j with format := .counted (size xs) (size ys) }
            | _ => j
          let gap := match separator with | some '\n' | none => " " | some c => c.toString
          let write (a b : Option Row) : Sh Unit :=
            Sh.write (Octets.join gap (j.fields a b) ++ delimiter.toString)
          let wants (n : Octets) : Bool := (os.values "a").elem n || (os.values "v").elem n
          let header := os.has "header"
          if header && (xs ≠ [] || ys ≠ []) then write xs.head? ys.head?
          let order := orderCheck os
          let skip := if header then 1 else 0
          let s : Side := { second := false, rows := xs.drop skip }
          let t : Side := { second := true, rows := ys.drop skip }
          let ps := matchKeys order (xs.length + ys.length + 1) false s t
          let report (second : Bool) (r : Row) : Sh Unit :=
            complain ((if second then b else a) ++ ":" ++ Octets.ofNat r.number ++ ": is not sorted: " ++ r.text)
          settle order ps report fun p => do
            match p with
            | .pair a b => if !os.has "v" then write (some a) (some b)
            | .onlyFirst a => if wants "1" then write (some a) none
            | .onlySecond b => if wants "2" then write none (some b)
            | .disorder .. => pure ()

end ShellCoverage.Shell.Program
