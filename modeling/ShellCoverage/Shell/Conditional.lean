import ShellCoverage.Shell.Regex.Reader
import ShellCoverage.Shell.Testing
import ShellCoverage.Shell.Tracing

/-!
# The conditional command

The terms of `[[ … ]]` are evaluated from left to right, and only as far as they matter.

* `Conditional.evaluate` : the truth of an expression; a term that is wrong has a message.
-/

namespace ShellCoverage.Shell.Conditional
open Expansion

variable (runs : Runs)

/-- Writes a term into the trace. -/
def traceTerm (negated : Bool) (words : List Octets) : Sh Unit :=
  Sh.trace runs ("[[ " ++ (if negated then "! " else "") ++ Octets.join " " words ++ " ]]")

/-- A word in a term. -/
def termText (s : Octets) : Octets := if s = "" then "''" else s

/-- A pattern in a term: characters that were quoted stand behind backslashes. -/
def patternText (qs : List Quotable) : Octets :=
  termText (String.ofList (qs.flatMap fun q => if q.2 then ['\\', q.1] else [q.1]))

/-- The text of an expansion. -/
def textOf (qs : List Quotable) : Octets := String.ofList (qs.map (·.1))

/-- Stores what the groups of an expression matched. -/
def storeMatch (k : Charset) (r : Regex) (m : Option Regex.Match) (text : List Char) : Sh Unit := do
  let groups := match m with
    | some m => (List.range (Regex.groupCount r + 1)).map fun i =>
      String.ofList (k.octets (m.groupText text i))
    | none => []
  Sh.storeValue "BASH_REMATCH" (.indexed (Value.ofList 0 groups))

/-- The truth of a term with two operands. -/
def binary (negated : Bool) (op : Octets) (a b : Word) : Sh (Except Octets Bool) := do
  let left ← Sh.expandText runs a
  let fold ← Sh.hasFeature "nocasematch"
  match op with
  | "=" | "==" | "!=" =>
    let pattern ← Sh.expandPattern runs b
    traceTerm runs negated [termText left, op, patternText pattern]
    -- Patterns know alternatives here, whatever the settings are.
    let k ← Sh.charset
    let equal := k.accepts fold (k.pattern true pattern) left
    return .ok (if op = "!=" then !equal else equal)
  | "=~" =>
    let pattern ← Sh.expandPattern runs b
    traceTerm runs negated [termText left, op, termText (textOf pattern)]
    let k ← Sh.charset
    match k.regex .extend pattern with
    | .error _ => return .error ""
    | .ok r =>
      let text := k.chars left.toList
      let m := Regex.search? { fold := k.folding fold } r text 0
      storeMatch k r m text
      return .ok m.isSome
  | _ =>
    let right ← Sh.expandText runs b
    traceTerm runs negated [termText left, op, termText right]
    match Testing.comparison? op with
    | some f =>
      match ← Arithmetic.evaluate left with
      | .error e => return .error (e.message?.getD "")
      | .ok x =>
        match ← Arithmetic.evaluate right with
        | .error e => return .error (e.message?.getD "")
        | .ok y => return .ok (f x y)
    | none => return .ok ((← Testing.binary? op left right).getD false)

/-- The truth of an expression; a term that is wrong has a message, which may be empty. The trace shows
that a term is negated. -/
def evaluate (negated : Bool) : Test → Sh (Except Octets Bool)
  | .word w => do
    let s ← Sh.expandText runs w
    traceTerm runs negated ["-n", termText s]
    return .ok (s ≠ "")
  | .unary op w => do
    let s ← Sh.expandText runs w
    traceTerm runs negated [op, termText s]
    return .ok ((← Testing.unary? op s).getD false)
  | .binary op a b => binary runs negated op a b
  | .negation t => do
    return (← evaluate true t).map (!·)
  | .group t => evaluate false t
  | .both a b => do
    match ← evaluate false a with
    | .ok true => evaluate false b
    | r => return r
  | .either a b => do
    match ← evaluate false a with
    | .ok false => evaluate false b
    | r => return r

/-- Runs a conditional command. -/
def run (t : Test) : Sh Unit := do
  match ← evaluate runs false t with
  | .ok b => Sh.setStatus (if b then 0 else 1)
  | .error e =>
    if e ≠ "" then Sh.report ("[[: " ++ e)
    Sh.setStatus (if e = "" then 2 else 1)

end ShellCoverage.Shell.Conditional
