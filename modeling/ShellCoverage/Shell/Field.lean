import ShellCoverage.Shell.Charset
import ShellCoverage.Shell.Grammar

/-!
# Fields

The expansion of a word is a list of items: characters that remember where they come from, and marks.
Fields are cut out of it at separators, which count only where they come from an expansion.

* `Item`, `Origin` : the items;
* `Field.split` : the fields of a list of items;
* `Field.text` : the items as one string;
* `Field.braces` : a word for every combination of the alternatives between braces.
-/

namespace ShellCoverage.Shell

/-- Where a character of an expansion comes from. -/
inductive Origin where
  /-- It was quoted, and stands for itself. -/
  | quoted
  /-- It stands in the word itself. -/
  | literal
  /-- It comes from an expansion outside quotes. -/
  | expanded
  deriving DecidableEq, Repr

/-- A part of the expansion of a word. -/
inductive Item where
  | char (c : Char) (origin : Origin)
  /-- Quoted text stands here, so there is a field even if the text is empty. -/
  | present
  /-- A field ends here; the characters stand between the fields where they become one string. -/
  | separation (between : List Char)
  /-- A list of parameters without any stands here. -/
  | absent
  deriving DecidableEq, Repr

namespace Field

/-- Items for characters of some origin. -/
def chars (o : Origin) (cs : List Char) : List Item := cs.map fun c => .char c o

/-- The items without marks, as one string. -/
def flatten (is : List Item) : List Quotable :=
  is.flatMap fun i =>
    match i with
    | .char c o => [(c, o = .quoted)]
    | .separation between => between.map fun c => (c, true)
    | _ => []

/-- The items as one string. -/
def text (is : List Item) : Octets := String.ofList ((flatten is).map (·.1))

/-- The state in the middle of cutting. -/
structure Cut where
  done : List (List Quotable) := []
  current : List Quotable := []
  /-- The current field exists. -/
  exists_ : Bool := false
  /-- White space separated the field before from what comes next. -/
  afterBlank : Bool := false

/-- Ends the current field. -/
def Cut.finish (c : Cut) : Cut :=
  { done := c.current.reverse :: c.done, current := [], exists_ := false, afterBlank := false }

/-- Takes an item. -/
def Cut.take (separators : List Char) (c : Cut) (i : Item) : Cut :=
  match i with
  | .present => { c with exists_ := true, afterBlank := false }
  | .absent => c
  | .separation _ => if c.exists_ then c.finish else { c with afterBlank := false }
  | .char x o =>
    if o = .expanded && separators.elem x then
      if x = ' ' || x = '\t' || x = '\n' then
        if c.exists_ then { c.finish with afterBlank := true } else c
      else if c.exists_ then c.finish
      else if c.afterBlank then { c with afterBlank := false }
      else c.finish
    else
      { c with current := (x, o = .quoted) :: c.current, exists_ := true, afterBlank := false }

/-- The fields of a list of items. -/
def split (separators : List Char) (is : List Item) : List (List Quotable) :=
  let c := is.foldl (Cut.take separators) {}
  let c := if c.exists_ then c.finish else c
  c.done.reverse

/-- Items in which the bytes of a character are one item. -/
def gathered (k : Charset) (is : List Item) : List Item :=
  let marked := is.map fun i => match i with | .char c _ => (c, i) | _ => (Char.ofNat 0, i)
  (k.quotables marked).map fun q => match q.2 with | .char _ o => .char q.1 o | i => i

/-- The fields of a list of items, where the characters of separators may have several bytes. -/
def splitIn (k : Charset) (separators : List Char) (is : List Item) : List (List Quotable) :=
  if separators.all (·.toNat < 0x80) then split separators is
  else
    (split (k.chars separators) (gathered k is)).map fun f =>
      f.flatMap fun q => (k.octets [q.1]).map fun c => (c, q.2)

/-! ## Braces -/

/-- A reader action on characters that are read from the start: what it consumes, and what is left. -/
def consumed (dialect : Dialect) (read : Reads Unit) (cs : List Char) : Option (List Char × List Char) :=
  match read { Reader.ofList cs 0 with rest := cs, dialect } with
  | .ok _ r =>
    let n := cs.length - r.rest.length
    some (cs.take n, cs.drop n)
  | .error _ _ => none

/-- Reads a text up to and with a closing character. -/
def closing (k : Reader.Closer) : Reads Unit := discard (Reader.quotes (Reader.substitution Reader.list) k [])

/-- Reads the commands of a substitution up to and with the parenthesis that closes it. -/
def closingCommands : Reads Unit := discard (Reader.commands (Reader.substitution Reader.list) [])

/-- What is wrong with the commands of a substitution in a text of the full language, if that is what keeps it from
being read. -/
def faultIn? (read : Reads Unit) (cs : List Char) : Option SyntaxError :=
  match read { Reader.ofList cs 0 with rest := cs } with
  | .error (.inCommands e) _ => some e
  | _ => none

/-- The text up to and with a closing character in a dialect, and what is left. -/
def upToIn (dialect : Dialect) (k : Reader.Closer) (cs : List Char) : Option (List Char × List Char) :=
  consumed dialect (closing k) cs

/-- The text up to and with a closing character, and what is left. -/
def upTo (k : Reader.Closer) (cs : List Char) : Option (List Char × List Char) := upToIn .full k cs

/-- The text up to and with the parenthesis that closes a substitution, and what is left. -/
def upToSubstitution (cs : List Char) : Option (List Char × List Char) :=
  consumed .full closingCommands cs

/-- The characters of a word, each alone, but all that is quoted or substituted in one piece. -/
def atoms : Nat → List Char → List (List Char)
  | 0, _ => []
  | _, [] => []
  | n + 1, c :: r =>
    let piece (start : List Char) (p : Option (List Char × List Char)) : List (List Char) :=
      match p with
      | some (a, rest) => (start ++ a) :: atoms n rest
      | none => [c] :: atoms n r
    match c, r with
    | '\\', d :: r' => [c, d] :: atoms n r'
    | '\'', _ =>
      let a := r.takeWhile (· ≠ '\'')
      (c :: a ++ ['\'']) :: atoms n (r.drop (a.length + 1))
    | '"', _ => piece [c] (upTo .double r)
    | '`', _ => piece [c] (upTo .back r)
    | '$', '\x7b' :: r' => piece [c, '\x7b'] (upTo (.brace false) r')
    | '$', '(' :: '(' :: r' => piece [c, '('] (upTo .paren ('(' :: r'))
    | '$', '(' :: r' => piece [c, '('] (upToSubstitution r')
    | '<', '(' :: r' | '>', '(' :: r' => piece [c, '('] (upToSubstitution r')
    | _, _ => [c] :: atoms n r

/-- The pieces of atoms up to the brace that matches, cut at commas outside other braces, and what
follows the brace. -/
def alternatives? (depth : Nat) (current : List (List Char)) :
    List (List Char) → Option (List (List (List Char)) × List (List Char))
  | [] => none
  | a :: r =>
    if a = ['\x7b'] then alternatives? (depth + 1) (a :: current) r
    else if a = ['\x7d'] then
      match depth with
      | 0 => some ([current.reverse], r)
      | d + 1 => alternatives? d (a :: current) r
    else if a = [','] && depth = 0 then
      (alternatives? depth [] r).map fun p => (current.reverse :: p.1, p.2)
    else alternatives? depth (a :: current) r

/-- A number with at least so many digits. -/
def padded (width : Nat) (n : Int) : List Char :=
  let digits := Nat.toDigits 10 n.natAbs
  let sign := if n < 0 then ['-'] else []
  sign ++ List.replicate (width - sign.length - digits.length) '0' ++ digits

/-- The words of a sequence such as `1..5` or `a..e..2`. -/
def sequence? (cs : List Char) : Option (List (List Char)) :=
  let parts := dots cs
  let step? : Option Int := match parts with
    | [_, _] => some 0
    | [_, _, s] => Octets.integer? (String.ofList s)
    | _ => none
  match parts, step? with
  | a :: b :: _, some step =>
    match Octets.integer? (String.ofList a), Octets.integer? (String.ofList b) with
    | some x, some y =>
      let isPadded (ds : List Char) : Bool :=
        match ds with
        | '0' :: _ :: _ => true
        | '-' :: '0' :: _ :: _ => true
        | _ => false
      let width := if isPadded a || isPadded b then max a.length b.length else 0
      some ((range x y step.natAbs).map (padded width))
    | _, _ =>
      match a, b with
      | [x], [y] =>
        if x.isAlpha && y.isAlpha then
          some ((range x.toNat y.toNat step.natAbs).map fun n => [Char.ofNat n.toNat])
        else none
      | _, _ => none
  | _, _ => none
where
  /-- The parts between pairs of dots. -/
  dots : List Char → List (List Char)
    | [] => [[]]
    | '.' :: '.' :: r => [] :: dots r
    | c :: r =>
      match dots r with
      | [] => [[c]]
      | p :: ps => (c :: p) :: ps
  /-- The numbers from one to another. -/
  range (x y : Int) (step : Nat) : List Int :=
    let step := if step = 0 then 1 else step
    (List.range ((y - x).natAbs / step + 1)).map fun (i : Nat) =>
      if x ≤ y then x + (i : Int) * (step : Int) else x - (i : Int) * (step : Int)

/-- The words for the alternatives between braces, given as atoms. -/
def bracesWith : Nat → List (List Char) → List (List Char)
  | 0, as => [as.flatten]
  | _, [] => [[]]
  | n + 1, a :: r =>
    let plain : Unit → List (List Char) := fun _ => (bracesWith n r).map (a ++ ·)
    if a = ['\x7b'] then
      match alternatives? 0 [] r with
      | none => plain ()
      | some ([one], rest) =>
        match sequence? one.flatten with
        | some ws =>
          let tails := bracesWith n rest
          ws.flatMap fun w => tails.map (w ++ ·)
        | none =>
          if one = [] then (bracesWith n rest).map (['\x7b', '\x7d'] ++ ·) else plain ()
      | some (alts, rest) =>
        let tails := bracesWith n rest
        (alts.flatMap (bracesWith n)).flatMap fun w => tails.map (w ++ ·)
    else plain ()

/-- The words that a word with braces stands for. -/
def braces (w : Word) : List Word :=
  let cs := w.toList
  if cs.elem '\x7b' then
    let as := atoms (cs.length + 1) cs
    (bracesWith (as.length + 1) as).map String.ofList
  else [w]

end Field

end ShellCoverage.Shell
