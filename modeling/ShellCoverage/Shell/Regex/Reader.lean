import ShellCoverage.Shell.Regex

/-!
# Written regular expressions

Expressions are written in a basic and in an extended form, and programs differ in what they take for a
fault.

* `Regex.Form` : a way of writing;
* `Regex.Fault` : why a text is no expression; `Regex.Fault.message` : the words for it;
* `Regex.read` : the expression in a text.
-/

namespace ShellCoverage.Shell.Regex

/-- Why a text is no expression. -/
inductive Fault where
  | trailingBackslash
  | badReference
  | badClass
  | badElement
  | openBracket
  | emptyBracket
  | openGroup
  | closedGroup
  | openBounds
  | badBounds
  | badRange
  | nothingToRepeat
  | tooBig
  deriving DecidableEq, Repr, Inhabited

/-- The words for a fault. -/
def Fault.message : Fault → Octets
  | .trailingBackslash => "Trailing backslash"
  | .badReference => "Invalid back reference"
  | .badClass => "Invalid character class name"
  | .badElement => "Invalid collation character"
  | .openBracket => "Unmatched [, [^, [:, [., or [="
  | .emptyBracket => "Invalid regular expression"
  | .openGroup => "Unmatched ( or \\("
  | .closedGroup => "Unmatched ) or \\)"
  | .openBounds => "Unmatched \\\x7b"
  | .badBounds => "Invalid content of \\\x7b\\\x7d"
  | .badRange => "Invalid range end"
  | .nothingToRepeat => "Invalid preceding regular expression"
  | .tooBig => "Regular expression too big"

/-- What an operator means that has nothing to repeat. -/
inductive Bare where
  | fault
  | literal
  | nothing
  deriving DecidableEq

/-- A way of writing expressions. -/
structure Form where
  /-- Operators stand for themselves, and not behind a backslash. -/
  extended : Bool
  /-- What an operator means that has nothing to repeat. -/
  bare : Bare
  /-- So do braces. -/
  bareBounds : Bare
  /-- A repetition cannot be repeated. -/
  single : Bool := false
  /-- Braces that hold no numbers stand for themselves. -/
  looseBounds : Bool := false
  /-- A closing parenthesis without an opening one stands for itself. -/
  looseGroups : Bool := false
  /-- Classes hold characters beyond ASCII too. -/
  wide : Bool := false

namespace Form

/-- The basic form. -/
def basic : Form := { extended := false, bare := .literal, bareBounds := .literal }

/-- The basic form with more faults. -/
def strictBasic : Form := { extended := false, bare := .literal, bareBounds := .fault, single := true }

/-- The extended form. -/
def extend : Form := { extended := true, bare := .fault, bareBounds := .fault, looseGroups := true }

/-- The extended form with more faults. -/
def strictExtended : Form := { extended := true, bare := .fault, bareBounds := .fault }

/-- The extended form with fewer faults. -/
def looseExtended : Form :=
  { extended := true, bare := .nothing, bareBounds := .literal, looseBounds := true, looseGroups := true }

end Form

/-- The state of the reader: the characters that are left, the number of groups, and those that are
closed. -/
structure Source where
  rest : List Quotable
  groups : Nat := 0
  closed : List Nat := []

/-- A reader. -/
abbrev Parse := StateT Source (Except Fault)

/-- Drops characters. -/
def drop (n : Nat) : Parse Unit := modify fun s => { s with rest := s.rest.drop n }

/-- The operator at the head of some characters, and how many it takes. -/
def operator? (extended : Bool) : List Quotable → Option (Char × Nat)
  | ('\\', false) :: (c, _) :: _ =>
    if !extended && "()\x7b\x7d|+?".toList.elem c then some (c, 2) else none
  | (c, false) :: _ =>
    if c = '*' || (extended && "()\x7b|+?".toList.elem c) then some (c, 1) else none
  | _ => none

/-! ## Brackets -/

/-- The characters up to one with a mark behind it, and those after both. -/
def upToMark (mark : Char) (acc : List Char) : List Quotable → Except Fault (Octets × List Quotable)
  | (c, _) :: (']', q) :: r =>
    if c = mark then .ok (String.ofList acc.reverse, r) else upToMark mark (c :: acc) ((']', q) :: r)
  | (c, _) :: r => upToMark mark (c :: acc) r
  | [] => .error .openBracket

/-- A member of a bracket: a class, or a character. -/
def member (wide : Bool) : List Quotable → Except Fault ((List (Char × Char) ⊕ Char) × List Quotable)
  | ('[', false) :: (':', _) :: r => do
    let (name, rest) ← upToMark ':' [] r
    match Pattern.classRanges? wide name with
    | some ranges => if name = "word" then .error .badClass else return (.inl ranges, rest)
    | none => .error .badClass
  | ('[', false) :: ('.', _) :: r => do
    let (name, rest) ← upToMark '.' [] r
    match name.toList with
    | [c] => return (.inr c, rest)
    | _ => .error .badElement
  | ('[', false) :: ('=', _) :: r => do
    let (name, rest) ← upToMark '=' [] r
    match name.toList with
    | [c] => return (.inr c, rest)
    | _ => .error .badElement
  | (c, _) :: r => .ok (.inr c, r)
  | [] => .error .openBracket

/-- The members of a bracket up to its end; the number bounds them. -/
def members (wide first : Bool) : Nat → List Quotable → Except Fault (List (Char × Char) × List Quotable)
  | 0, _ => .error .openBracket
  | n + 1, cs =>
    match cs with
    | [] => .error .openBracket
    | (c, quoted) :: r =>
      if c = ']' && !quoted && !first then .ok ([], r)
      else do
        let (a, rest) ← member wide cs
        match a, rest with
        | .inl ranges, rest =>
          let (more, rest) ← members wide false n rest
          return (ranges ++ more, rest)
        | .inr a, ('-', false) :: (']', false) :: r =>
          return ([(a, a), ('-', '-')], r)
        | .inr a, ('-', false) :: r =>
          match ← member wide r with
          | (.inl _, _) => .error .badRange
          | (.inr b, rest) =>
            if b < a then .error .badRange
            else
              let (more, rest) ← members wide false n rest
              return ((a, b) :: more, rest)
        | .inr a, rest =>
          let (more, rest) ← members wide false n rest
          return ((a, a) :: more, rest)

/-- The bracket expression whose opening bracket came before. -/
def bracketFrom (wide : Bool) (body : List Quotable) : Parse Regex := do
  let (negated, body) := match body with
    | ('^', false) :: r => (true, r)
    | r => (false, r)
  if body = [] then throw .emptyBracket
  match members wide true (body.length + 1) body with
  | .ok (ranges, rest) =>
    modify fun s => { s with rest }
    return .bracket negated ranges
  | .error e => throw e

/-! ## Repetitions -/

/-- The greatest number of repetitions. -/
def maxBound : Nat := 32767

/-- The bounds that some characters denote. -/
def boundsOf? (cs : List Char) : Option (Option Nat × Option Nat) :=
  let number? (ds : List Char) : Option (Option Nat) :=
    if ds = [] then some none
    else if ds.all Char.isDigit then some (some (Octets.ofDigits ds)) else none
  match Octets.splitAt ',' cs with
  | [a] => do
    let n ← number? a
    if n.isNone then none else return (n, n)
  | [a, b] => do
    let least ← number? a
    let most ← number? b
    return (some (least.getD 0), most)
  | _ => none

/-- The bounds whose opening brace came before, and the characters after them. -/
def bounds (extended : Bool) (cs : List Quotable) :
    Except Fault ((Nat × Option Nat) × List Quotable) := do
  let isClose (r : List Quotable) : Bool :=
    match extended, r with
    | true, ('\x7d', _) :: _ => true
    | false, ('\\', _) :: ('\x7d', _) :: _ => true
    | _, _ => false
  let inside := (List.range (cs.length + 1)).find? fun i => isClose (cs.drop i)
  match inside with
  | none =>
    if cs.all fun q => q.1.isDigit || q.1 = ',' then .error .openBounds else .error .badBounds
  | some i =>
    match boundsOf? ((cs.take i).map (·.1)) with
    | some (some least, most) =>
      if most.any (· < least) then .error .badBounds
      else if maxBound < max least (most.getD 0) then .error .tooBig
      else return ((least, most), cs.drop (i + if extended then 1 else 2))
    | _ => .error .badBounds

/-- The repetitions that follow an expression; the number bounds them. -/
def repetitions (form : Form) : Nat → Regex → Parse Regex
  | 0, r => return r
  | n + 1, r => do
    match operator? form.extended (← get).rest with
    | some ('*', k) => drop k; again n (.repetition r 0 none)
    | some ('+', k) => drop k; again n (.repetition r 1 none)
    | some ('?', k) => drop k; again n (.repetition r 0 (some 1))
    | some ('\x7b', k) =>
      match bounds form.extended ((← get).rest.drop k) with
      | .ok ((least, most), rest) =>
        modify fun s => { s with rest }
        again n (.repetition r least most)
      | .error e =>
        if form.looseBounds && (e = .openBounds || e = .badBounds) then
          let inside := ((← get).rest.drop k).takeWhile fun q => q.1.isDigit || q.1 = ','
          match ((← get).rest.drop (k + inside.length)).head? with
          | some ('\x7d', _) => throw e
          | _ => return r
        else throw e
    | _ => return r
where
  /-- Goes on after a repetition. -/
  again (n : Nat) (r : Regex) : Parse Regex := do
    if form.single then
      match operator? form.extended (← get).rest with
      | some ('*', _) | some ('\x7b', _) => throw .nothingToRepeat
      | _ => repetitions form n r
    else repetitions form n r

/-! ## Expressions -/

/-- What a letter behind a backslash means. -/
def escape? (wide : Bool) (c : Char) : Option Regex :=
  let word := ('_', '_') :: (Pattern.classRanges? wide "alnum").getD []
  let space := (Pattern.classRanges? wide "space").getD []
  match c with
  | 'w' => some (.bracket false word)
  | 'W' => some (.bracket true word)
  | 's' => some (.bracket false space)
  | 'S' => some (.bracket true space)
  | 'b' => some (.border .wordEdge)
  | 'B' => some (.border .noEdge)
  | '<' => some (.border .wordStart)
  | '>' => some (.border .wordEnd)
  | '\x60' => some (.border .textStart)
  | '\x27' => some (.border .textEnd)
  | _ => none

/-- A dollar sign means the end of a line before some characters. -/
def endsLine (extended : Bool) (rest : List Quotable) : Bool :=
  extended || rest.isEmpty ||
    (match operator? false rest with
      | some (')', _) | some ('|', _) => true
      | _ => false)

/-- The expression ends before some characters. -/
def stops (form : Form) (nested : Bool) (rest : List Quotable) : Bool :=
  rest.isEmpty ||
    (match operator? form.extended rest with
      | some ('|', _) => true
      | some (')', _) => nested
      | _ => false)

mutual

/-- Alternatives; the number bounds the depth. -/
def alternatives (form : Form) (nested : Bool) : Nat → Parse Regex
  | 0 => return .empty
  | n + 1 => do
    let a ← branch form nested true n
    match operator? form.extended (← get).rest with
    | some ('|', k) =>
      drop k
      return .either a (← alternatives form nested n)
    | _ => return a

/-- A sequence; a caret means the start of a line at its head if `atHead` is set. -/
def branch (form : Form) (nested atHead : Bool) : Nat → Parse Regex
  | 0 => return .empty
  | n + 1 => do
    if stops form nested (← get).rest then return .empty
    let a ← piece form nested atHead n
    let isBorder := match a with | .border _ => true | _ => false
    let a ← if isBorder then pure a else repetitions form ((← get).rest.length + 1) a
    match ← branch form nested isBorder n with
    | .empty => return a
    | b => return if a matches .empty then b else .sequence a b

/-- A single expression. -/
def piece (form : Form) (nested atHead : Bool) : Nat → Parse Regex
  | 0 => return .empty
  | n + 1 => do
    let cs := (← get).rest
    match operator? form.extended cs with
    | some ('(', k) =>
      drop k
      let i := (← get).groups + 1
      modify fun s => { s with groups := i }
      let r ← alternatives form true n
      match operator? form.extended (← get).rest with
      | some (')', k) =>
        drop k
        modify fun s => { s with closed := i :: s.closed }
        return .group i r
      | _ => throw .openGroup
    | some (')', k) =>
      if !form.looseGroups then throw .closedGroup
      drop k
      return .char ')'
    | some (c, k) =>
      match if c = '\x7b' then form.bareBounds else form.bare with
      | .fault => throw .nothingToRepeat
      | .literal => drop k; return .char c
      | .nothing =>
        drop k
        if stops form nested (← get).rest then return .empty else piece form nested atHead n
    | none =>
      match cs with
      | [] => return .empty
      | (c, true) :: _ => drop 1; return .char c
      | [('\\', false)] => throw .trailingBackslash
      | ('\\', false) :: (d, _) :: _ =>
        drop 2
        if d.isDigit && d ≠ '0' then
          let i := d.toNat - 48
          if !(← get).closed.elem i then throw .badReference
          return .reference i
        return (escape? form.wide d).getD (.char d)
      | ('.', false) :: _ => drop 1; return .any
      | ('^', false) :: _ =>
        drop 1
        return if form.extended || atHead then .border .lineStart else .char '^'
      | ('$', false) :: rest =>
        drop 1
        return if endsLine form.extended rest then .border .lineEnd else .char '$'
      | ('[', false) :: body => bracketFrom form.wide body
      | (c, false) :: _ => drop 1; return .char c

end

/-- The expression in a text; quoted characters stand for themselves. -/
def read (form : Form) (cs : List Quotable) : Except Fault Regex :=
  match (alternatives form false (4 * cs.length + 4)).run { rest := cs } with
  | .ok (r, _) => .ok r
  | .error e => .error e

/-- The expression in a text. -/
def ofOctets (form : Form) (s : Octets) : Except Fault Regex :=
  read form (s.toList.map fun c => (c, false))

end ShellCoverage.Shell.Regex
