import ShellCoverage.Shell.Expansion

/-!
# Traces

A shell that traces writes a line before each command: the expanded prompt, and the command after its
expansion. The prompt's first character is repeated once per level of indirection.

* `Sh.tracePrompt` : the expanded prompt;
* `Sh.trace`, `Sh.traceWords`, `Sh.traceAssignment` : a line of the trace, if the shell traces.
-/

namespace ShellCoverage.Shell

namespace Sh

variable (runs : Runs)

/-- The expanded prompt of a trace. In the plain shell one that cannot be expanded stands for itself. -/
def tracePrompt : Sh Octets := do
  match ← scalar? "PS4" with
  | none => return ""
  | some s =>
    let p ← process
    change fun p => { p with options := p.options.filter (· ≠ "xtrace") }
    let expanded ← attempt (expandPrompt runs s)
    change fun q => { q with options := p.options, status := p.status, substituted := p.substituted }
    if p.dialect = .plain then
      return match expanded with | .ok text => text | .error _ => s
    let text ← conclude expanded
    match text.toList with
    | [] => return ""
    | c :: r => return String.ofList (List.replicate p.depth c ++ r)

/-- Makes a line of the trace, if the shell traces. -/
def traceWith (put : Octets → Sh Unit) (text : Octets) : Sh Unit := do
  if ← hasOption "xtrace" then
    let head ← tracePrompt runs
    put (head ++ text ++ "\n")

/-- Writes a line of the trace, if the shell traces. -/
def trace (text : Octets) : Sh Unit := traceWith runs writeTrace text

/-- Writes the words of a command into the trace. -/
def traceWords (ws : List Octets) : Sh Unit := do
  trace runs (Octets.join " " (ws.map (Quoting.traced (← charset))))

/-- Writes an assignment into the trace. The name includes a subscript and the sign before the equals
sign. -/
def traceAssignment (name value : Octets) : Sh Unit := do
  trace runs (name ++ "=" ++ Quoting.shown (← charset) value)

end Sh

end ShellCoverage.Shell
