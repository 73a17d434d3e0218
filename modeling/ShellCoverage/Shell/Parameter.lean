import ShellCoverage.Shell.Field
import ShellCoverage.Shell.Quoting

/-!
# The text of a parameter expansion

What stands between `${` and the closing brace is taken apart: the parameter, and what is done with its
value.

* `Parameter` : what is referred to;
* `Operation` : what is done with the value;
* `Substitution.read?` : both, for the text between the braces.
-/

namespace ShellCoverage.Shell

/-- What an expansion refers to. -/
inductive Parameter where
  /-- A variable, perhaps with the text of a subscript. -/
  | variable (name : Octets) (subscript : Option (List Char))
  /-- A positional parameter; the first one has the number 1. -/
  | positional (n : Nat)
  /-- A special parameter. -/
  | special (c : Char)
  /-- All positional parameters; as one string if `star` is set. -/
  | all (star : Bool)
  deriving Repr, Inhabited, DecidableEq

namespace Parameter

/-- The name of a parameter in messages. -/
def text : Parameter → Octets
  | .variable n none => n
  | .variable n (some s) => n ++ "[" ++ String.ofList s ++ "]"
  | .positional n => Octets.ofNat n
  | .special c => c.toString
  | .all true => "*"
  | .all false => "@"

/-- The parameter at the head of some characters, and what follows. -/
def read? (cs : List Char) : Option (Parameter × List Char) :=
  match cs with
  | [] => none
  | c :: r =>
    if c = '@' then some (.all false, r)
    else if c = '*' then some (.all true, r)
    else if c.isDigit then
      let ds := cs.takeWhile Char.isDigit
      let n := Octets.ofDigits ds
      some (if n = 0 then .special '0' else .positional n, cs.drop ds.length)
    else if Octets.isNameStart c then
      let name := cs.takeWhile Octets.isNameChar
      match cs.drop name.length with
      | '[' :: r' =>
        match Field.upTo .bracket r' with
        | some (sub, rest) =>
          if sub.dropLast = [] then none else some (.variable (String.ofList name) (some sub.dropLast), rest)
        | none => none
      | rest => some (.variable (String.ofList name) none, rest)
    else if c = '?' || c = '$' || c = '!' || c = '-' || c = '#' then some (.special c, r)
    else none

end Parameter

/-- A change of the case of characters. -/
inductive CaseChange where
  | upper
  | lower
  | toggle
  deriving Repr, DecidableEq

/-- The character with another case. -/
def CaseChange.apply (k : Charset) : CaseChange → Char → Char
  | .upper, c => k.upper c
  | .lower, c => k.lower c
  | .toggle, c => if k.lower c ≠ c then k.lower c else k.upper c

/-- What is done with the value of a parameter. -/
inductive Operation where
  | plain
  /-- A word for a parameter that is not set, or also for an empty one. -/
  | default (orEmpty : Bool) (w : List Char)
  /-- The same, and the parameter is set to it. -/
  | assign (orEmpty : Bool) (w : List Char)
  /-- An error for such a parameter. -/
  | require (orEmpty : Bool) (w : List Char)
  /-- A word for a parameter that is set, or not empty either. -/
  | alternative (orEmpty : Bool) (w : List Char)
  | slice (offset : List Char) (length : Option (List Char))
  | dropHead (longest : Bool) (pattern : List Char)
  | dropTail (longest : Bool) (pattern : List Char)
  /-- Replaces a match: anywhere, at the head (`#`) or at the end (`%`). -/
  | replace (all : Bool) (anchor : Option Char) (pattern replacement : List Char)
  /-- Changes the case of the first character, or of all, where it matches. -/
  | fold (c : CaseChange) (all : Bool) (pattern : List Char)
  /-- Changes the value as letters ask for; only single letters have a meaning. -/
  | transform (letters : List Char)
  deriving Repr, Inhabited

/-- The operation asks for the value alone, or gives another one where there is none. -/
def Operation.isReading : Operation → Bool
  | .plain | .default .. | .alternative .. | .assign .. | .require .. => true
  | _ => false

/-- The plain shell knows the operation too. -/
def Operation.isPlain : Operation → Bool
  | .dropHead .. | .dropTail .. => true
  | o => o.isReading

/-- A parameter expansion. -/
inductive Substitution where
  | value (p : Parameter) (o : Operation)
  | length (p : Parameter)
  /-- The parameter whose name is the value. -/
  | indirect (p : Parameter) (o : Operation)
  /-- The names of variables that begin so. -/
  | names (start : Octets) (star : Bool)
  /-- The subscripts of a list or table. -/
  | keys (name : Octets) (star : Bool)
  deriving Repr, Inhabited

namespace Substitution

/-- The plain shell knows the expansion too. -/
def isPlain : Substitution → Bool
  | .value (.variable _ (some _)) _ | .length (.variable _ (some _)) => false
  | .value _ o => o.isPlain
  | .length _ => true
  | _ => false

/-- The characters before a character that is neither quoted nor part of a substitution, and those
after it. -/
def cutAt (d : Char) (cs : List Char) : List Char × Option (List Char) :=
  let as := Field.atoms (cs.length + 1) cs
  let head := as.takeWhile (· ≠ [d])
  match as.drop head.length with
  | [] => (cs, none)
  | _ :: rest => (head.flatten, some rest.flatten)

/-- The length in a slice: the colon of a conditional expression is not its mark. -/
def cutSlice (cs : List Char) : List Char × Option (List Char) :=
  let as := Field.atoms (cs.length + 1) cs
  go 0 [] as
where
  /-- Cuts at a colon outside conditional expressions and parentheses. -/
  go (depth : Nat) (acc : List (List Char)) : List (List Char) → List Char × Option (List Char)
    | [] => (acc.reverse.flatten, none)
    | a :: r =>
      if a = [':'] then
        match depth with
        | 0 => (acc.reverse.flatten, some r.flatten)
        | d + 1 => go d (a :: acc) r
      else go (if a = ['?'] then depth + 1 else depth) (a :: acc) r

/-- The operation that the text after a parameter asks for. -/
def operation? (cs : List Char) : Option Operation :=
  match cs with
  | [] => some .plain
  | ':' :: '-' :: w => some (.default true w)
  | ':' :: '=' :: w => some (.assign true w)
  | ':' :: '?' :: w => some (.require true w)
  | ':' :: '+' :: w => some (.alternative true w)
  | '-' :: w => some (.default false w)
  | '=' :: w => some (.assign false w)
  | '?' :: w => some (.require false w)
  | '+' :: w => some (.alternative false w)
  | [':'] => none
  | ':' :: w =>
    let (offset, size) := cutSlice w
    some (.slice offset size)
  | '#' :: '#' :: w => some (.dropHead true w)
  | '#' :: w => some (.dropHead false w)
  | '%' :: '%' :: w => some (.dropTail true w)
  | '%' :: w => some (.dropTail false w)
  | '/' :: w =>
    let (all, anchor, w) : Bool × Option Char × List Char :=
      match w with
      | '/' :: r => (true, none, r)
      | '#' :: r => (false, some '#', r)
      | '%' :: r => (false, some '%', r)
      | r => (false, none, r)
    let (p, r) := cutAt '/' w
    some (.replace all anchor p (r.getD []))
  | '^' :: '^' :: w => some (.fold .upper true w)
  | '^' :: w => some (.fold .upper false w)
  | ',' :: ',' :: w => some (.fold .lower true w)
  | ',' :: w => some (.fold .lower false w)
  | '~' :: '~' :: w => some (.fold .toggle true w)
  | '~' :: w => some (.fold .toggle false w)
  | '@' :: letters => some (.transform letters)
  | _ => none

/-- The expansion for the text between the braces. -/
def read? (cs : List Char) : Option Substitution :=
  let plain : Unit → Option Substitution := fun _ => do
    let (p, r) ← Parameter.read? cs
    let o ← operation? r
    pure (.value p o)
  match cs with
  | '#' :: r =>
    match r with
    | [] => some (.value (.special '#') .plain)
    | _ =>
      match Parameter.read? r with
      | some (p, []) => some (.length p)
      | _ => plain ()
  | '!' :: r =>
    match r with
    | [] => some (.value (.special '!') .plain)
    | _ =>
      match Parameter.read? r with
      | some (.variable n (some ['@']), []) => some (.keys n false)
      | some (.variable n (some ['*']), []) => some (.keys n true)
      | some (.variable n none, ['*']) => some (.names n true)
      | some (.variable n none, ['@']) => some (.names n false)
      | some (.all _, '@' :: _) => none
      | some (p, rest) =>
        match operation? rest with
        | some o => some (.indirect p o)
        | none => none
      | none => plain ()
  | _ => plain ()

end Substitution

end ShellCoverage.Shell
