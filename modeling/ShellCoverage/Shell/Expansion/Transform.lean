import ShellCoverage.Shell.Expansion.Value

/-!
# Changed values of parameters

What an expansion makes of the value of a parameter: a part of it, another case, other quotes, the
attributes of the variable.

* `transformed` : the value that a letter asks for;
* `slice` : a part of a value, or some elements of a list;
* `replacement` : the text that takes the place of a match;
* `declaredElements`, `attributeLetters` : how declarations show variables.
-/

namespace ShellCoverage.Shell.Expansion

/-- A function of characters applied to a value, or to each one of a list. -/
def Found.map (k : Charset) (f : List Char → List Char) : Found → Found
  | .unset => .unset
  | .one s => .one (String.ofList (k.onChars f s.toList))
  | .many ss star => .many (ss.map fun s => String.ofList (k.onChars f s.toList)) star

/-- A value with another case where a pattern matches. -/
def foldCase (k : Charset) (change : CaseChange) (all : Bool) (ps : List Pattern) (cs : List Char) :
    List Char :=
  let f (c : Char) : Char := if Pattern.accepts false ps [c] then change.apply k c else c
  if all then cs.map f
  else
    match cs with
    | [] => []
    | c :: r => f c :: r

/-- The attributes of a variable as letters. -/
def attributeLetters (v : Variable) : Octets :=
  let array := match v.value with | some (.indexed _) => "a" | some (.keyed _) => "A" | _ => ""
  let letter (b : Bool) (s : Octets) : Octets := if b then s else ""
  array ++ letter v.integer "i" ++ letter v.reference "n" ++ letter v.readonly "r" ++ letter v.traced "t" ++
    letter v.exported "x" ++ letter v.capital "c" ++ letter v.lower "l" ++ letter v.upper "u"

/-- A value in quotes, whatever its characters. -/
def reusableValue (k : Charset) (s : Octets) : Octets :=
  if !k.shows s then Quoting.ansi k s
  else "'" ++ String.ofList (s.toList.flatMap fun c =>
    if c = '\'' then ['\'', '\\', '\'', '\''] else [c]) ++ "'"

/-- A key of a table as a declaration shows it. -/
def declaredKey (k : Charset) (key : Octets) : Octets :=
  if !k.shows key then Quoting.ansi k key
  else if key = "" || key = "@" || Quoting.hasSpecial key then Quoting.double key
  else key

/-- The elements of a list or table as a declaration shows them. -/
def declaredElements (k : Charset) (v : Value) : Octets :=
  match v with
  | .keyed _ =>
    "(" ++ String.join (v.elements.map fun e =>
      "[" ++ declaredKey k e.1 ++ "]=" ++ Quoting.listed k e.2 ++ " ") ++ ")"
  | _ =>
    "(" ++ Octets.join " " (v.elements.map fun e => "[" ++ e.1 ++ "]=" ++ Quoting.listed k e.2) ++ ")"

/-- The keys and values of a list or table in one text. -/
def pairText (k : Charset) (v : Value) : Octets :=
  match v with
  | .keyed _ => String.join (v.elements.map fun e => declaredKey k e.1 ++ " " ++ Quoting.listed k e.2 ++ " ")
  | _ => Octets.join " " (v.elements.map fun e => e.1 ++ " " ++ Quoting.listed k e.2)

/-- A declaration of a variable as the value of one of its elements, if one is given. -/
def assignmentOf (k : Charset) (name : Octets) (v : Variable) (value : Option Octets) : Found :=
  let letters := attributeLetters v
  let head := if letters = "" then name else "declare -" ++ letters ++ " " ++ name
  match value with
  | some s => .one (head ++ "=" ++ reusableValue k s)
  | none => if letters = "" then .unset else .one head

/-- The words of a command that sets something, which are one text if `star` is set. -/
def commandWords (ws : List Octets) (star : Bool) : Found :=
  if star then .one (Octets.join " " ws) else .many ws false

/-- A declaration of a variable with all of its elements. -/
def declarationOf (k : Charset) (name : Octets) (v : Variable) (star : Bool) : Found :=
  let letters := attributeLetters v
  match v.value with
  | some (.scalar s) => assignmentOf k name v (some s)
  | none | some (.indexed []) | some (.keyed []) =>
    if letters = "" then .unset else commandWords ["declare", "-" ++ letters, name] star
  | some x => commandWords ["declare", "-" ++ letters, name ++ "=" ++ declaredElements k x] star

/-- The attributes of a variable, once for each of some values. -/
def attributesOf (v : Variable) (f : Found) : Found :=
  let letters := attributeLetters v
  match f with
  | .many (s :: ss) star => .many ((s :: ss).map fun _ => letters) star
  | _ => if letters = "" then .unset else .one letters

/-- The expansion of each value as a prompt. -/
def promptsOf (expand : Expands) (f : Found) : Sh Found := do
  let facts ← Prompt.facts
  let one (s : Octets) : Sh Octets := do
    return Field.text (← expand .quoted (Prompt.replaced facts s).toList)
  match f with
  | .unset => return .unset
  | .one s => return .one (← one s)
  | .many ss star => return .many (← ss.mapM one) star

/-- A value that is transformed as a letter says; nothing if the letter says nothing. -/
def transformed? (expand : Expands) (p : Parameter) (c : Char) (f : Found) : Sh (Option Found) := do
  let v ← match p with
    | .variable n _ => Sh.findVariable n
    | _ => pure none
  let isWhole : Bool := match p with
    | .variable _ (some ['@']) | .variable _ (some ['*']) => true
    | _ => false
  let k ← Sh.charset
  match c, v, p with
  | 'U', _, _ => return some (f.map k fun cs => cs.map k.upper)
  | 'L', _, _ => return some (f.map k fun cs => cs.map k.lower)
  | 'u', _, _ => return some (f.map k (foldCase k .upper false [.any]))
  | 'E', _, _ => return some (f.map .bytes (Quoting.word k))
  | 'P', _, _ => return some (← promptsOf expand f)
  | 'a', some v, _ => return some (attributesOf v f)
  | 'A', some v, .variable n _ =>
    let n ← Sh.resolveName n
    if isWhole then return some (declarationOf k n v (match f with | .many _ star => star | _ => true))
    else return some (assignmentOf k n v (match f with | .one s => some s | _ => none))
  | 'A', _, .all star =>
    let values := match f with | .many ss _ => ss.map (reusableValue k) | _ => []
    return some (commandWords ("set" :: "--" :: values) star)
  | 'a', none, .all _ => return some (f.map .bytes fun _ => [])
  | 'a', none, _ | 'A', _, _ => return some .unset
  | 'Q', _, _ | 'K', _, _ | 'k', _, _ =>
    match v.bind (·.value), isWhole && c ≠ 'Q', f with
    | some (.scalar _), _, _ | none, _, _ | _, false, _ | _, _, .unset =>
      return some (f.map .bytes fun cs => (reusableValue k (String.ofList cs)).toList)
    | some x, true, .one _ => return some (.one (pairText k x))
    | some x, true, .many _ star =>
      if c = 'K' then return some (.one (pairText k x))
      else return some (.many (x.elements.flatMap fun e => [e.1, e.2]) star)
  | _, _, _ => return none

/-- The elements of a list from an offset on, at most so many. -/
def sliceList (ss : List Octets) (offset : Int) (length : Option Int) (text : Octets) :
    Sh (List Octets) := do
  let start := if offset < 0 then offset + ss.length else offset
  if start < 0 then return []
  match length with
  | none => return ss.drop start.toNat
  | some n =>
    if n < 0 then fail (text ++ ": substring expression < 0") false
    return (ss.drop start.toNat).take n.toNat

/-- The part of a value from an offset on, of some length. -/
def slice (p : Parameter) (f : Found) (offset : Int) (length : Option Int) (text : Octets) :
    Sh Found := do
  match f with
  | .unset => return .unset
  | .one s =>
    let k ← Sh.charset
    let cs := k.chars s.toList
    let part (cs : List Char) : Found := .one (String.ofList (k.octets cs))
    let start := if offset < 0 then offset + cs.length else offset
    if start < 0 || (cs.length : Int) < start then return .one ""
    match length with
    | none => return part (cs.drop start.toNat)
    | some n =>
      let stop := if n < 0 then (cs.length : Int) + n else start + n
      if stop < start then fail (text ++ ": substring expression < 0") false
      return part ((cs.drop start.toNat).take (stop - start).toNat)
  | .many ss star =>
    match p with
    | .all _ =>
      let name := (← Sh.process).name
      return .many (← sliceList (name :: ss) offset length text) star
    | .variable name _ =>
      match ← Sh.lookup? name with
      | some (.indexed es) =>
        let size : Nat := (es.getLast?.map (·.1 + 1)).getD 0
        let start := if offset < 0 then offset + (size : Int) else offset
        if start < 0 then return .many [] star
        let es := es.filter fun e => start ≤ (e.1 : Int)
        return .many (← sliceList (es.map (·.2)) 0 length text) star
      | _ => return .many (← sliceList ss offset length text) star
    | _ => return .many (← sliceList ss offset length text) star

/-- The replacement for a match, in which an ampersand stands for what was matched. -/
def replacement (ampersand : Bool) (r : List Quotable) (m : List Char) : List Char :=
  r.flatMap fun q => if ampersand && q.1 = '&' && !q.2 then m else [q.1]

end ShellCoverage.Shell.Expansion
