import ShellCoverage.Table
import ShellCoverage.Trace.Prompt

/-!
# The environment of a traced shell

A traced shell gets the caller's environment with four changes: the prompt, the startup file, the
option that turns tracing on, and the descriptor that the trace is written to, if there is one.

* `Environment` : variables with values;
* `Environment.traced` : the environment for a shell that is traced;
* `Environment.tracedOptions` : the options of such a shell.
-/

namespace ShellCoverage

/-- Variables with their values. -/
abbrev Environment := Table Text Text

namespace Environment

/-- The variable with the trace prompt. -/
def promptName : Text := "PS4"

/-- The variable with the file that a shell reads first. -/
def startupName : Text := "BASH_ENV"

/-- The variable with the shell's options. -/
def optionsName : Text := "SHELLOPTS"

/-- The variable with the descriptor of the trace. -/
def descriptorName : Text := "BASH_XTRACEFD"

/-- The option that turns tracing on. -/
def tracingOption : Text := "xtrace"

/-- The separator of options. -/
def colon : CodePoint := CodePoint.ofChar ':'

/-- The options of a traced shell: those that are set, and the one that turns tracing on. -/
def tracedOptions (options : Text) : Text :=
  let os := (Text.splitAt colon options).filter (· ≠ [])
  Text.join [colon] (if os.elem tracingOption then os else os ++ [tracingOption])

/-- The environment of a traced shell. -/
def traced (env : Environment) (d : Text) (descriptor : Option Int) (startupFile : Text) :
    Environment :=
  let env := Table.insert promptName (Trace.prompt d) env
  let env := Table.insert startupName startupFile env
  let env := Table.insert optionsName (tracedOptions ((Table.get? optionsName env).getD [])) env
  match descriptor with
  | none => Table.erase descriptorName env
  | some fd => Table.insert descriptorName (Text.ofInt fd) env

end Environment

end ShellCoverage
