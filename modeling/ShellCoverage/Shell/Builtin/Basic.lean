import ShellCoverage.Shell.Manual
import ShellCoverage.Shell.Running

/-!
# Commands of the shell itself

What these commands share: messages, options, numbers.

* `Builtin` : a command of the shell; it gives its status for its arguments;
* `Builtin.complain`, `Builtin.usage` : messages;
* `Builtin.options?`, `Builtin.plainOptions` : the options at the head of the arguments.
-/

namespace ShellCoverage.Shell

/-- A command of the shell: its status for its arguments. -/
abbrev Builtin := List Octets → Sh Nat

namespace Builtin

/-- Writes a message of a command, if there is one; the plain shell names it anyway while it runs. -/
def complain (name message : Octets) : Sh Unit := do
  let p ← Sh.process
  let isNamed : Bool := name = "" || (p.dialect = .plain && p.command = name)
  Sh.report (if isNamed then message else name ++ ": " ++ message)

/-- Writes a message of a command and gives a status. -/
def refuse (status : Nat) (name message : Octets) : Sh Nat := do
  complain name message
  return status

/-- The names of the commands of the full shell, in order. -/
def names : List Octets :=
  [".", ":", "[", "alias", "bg", "bind", "break", "builtin", "caller", "cd", "command", "compgen", "complete",
    "compopt", "continue", "declare", "dirs", "disown", "echo", "enable", "eval", "exec", "exit", "export",
    "false", "fc", "fg", "getopts", "hash", "help", "history", "jobs", "kill", "let", "local", "logout",
    "mapfile", "popd", "printf", "pushd", "pwd", "read", "readarray", "readonly", "return", "set", "shift",
    "shopt", "source", "suspend", "test", "times", "trap", "true", "type", "typeset", "ulimit", "umask",
    "unalias", "unset", "wait"]

/-- The commands that the standard counts as special ones. -/
def specialNames : List Octets :=
  [".", ":", "break", "continue", "eval", "exec", "exit", "export", "readonly", "return", "set", "shift",
    "source", "times", "trap", "unset"]

/-- A command is a special one in the shell that runs. -/
def isSpecial (d : Dialect) (name : Octets) : Bool := specialNames.elem name || (d = .plain && name = "local")

/-- The variable that is set while the full shell keeps to the standard. -/
def standardName : Octets := "POSIXLY_CORRECT"

/-- Tells how a command is used. -/
def usage (name : Octets) : Sh Nat := do
  Sh.complain (name ++ ": usage: " ++ (Manual.usage? name).getD name ++ "\n")
  return 2

/-- A command explains itself when it is asked to. -/
def isExplained (name : Octets) : Bool :=
  names.elem name && !([":", "[", "bind", "echo", "false", "test", "true"].elem name)

/-- Explains a command. -/
def explain (name : Octets) : Sh Nat := do
  if let some t := Manual.topics.find? (·.name = name) then Sh.write t.shown
  return 2

/-- The shell is restricted. -/
def isRestricted : Sh Bool := Sh.hasOption "restricted"

/-- Refuses an option. -/
def refuseOption (name option : Octets) : Sh Nat := do
  complain name (option ++ ": invalid option")
  usage name

/-- Options: letters with their values. -/
abbrev Options := List (Char × Octets)

/-- Why options are refused. -/
inductive OptionError where
  | unknown (c : Char)
  | noValue (c : Char)

/-- The options at the head of the arguments, and the other arguments. The letters in `valued` take a
value. -/
def readOptions (plain valued : List Char) :
    Nat → List Octets → Except OptionError (Options × List Octets)
  | 0, args => .ok ([], args)
  | _, [] => .ok ([], [])
  | n + 1, a :: r =>
    match a.toList with
    | ['-', '-'] => .ok ([], r)
    | '-' :: c :: cs =>
      if valued.elem c then
        match cs, r with
        | [], [] => .error (.noValue c)
        | [], v :: r => (readOptions plain valued n r).map fun p => ((c, v) :: p.1, p.2)
        | cs, r => (readOptions plain valued n r).map fun p => ((c, String.ofList cs) :: p.1, p.2)
      else if plain.elem c then
        let r := if cs = [] then r else ("-" ++ String.ofList cs) :: r
        (readOptions plain valued n r).map fun p => ((c, "") :: p.1, p.2)
      else .error (.unknown c)
    | _ => .ok ([], a :: r)

/-- The options at the head of the arguments, and the other arguments. -/
def parseOptions (plain valued : Octets) (args : List Octets) : Except OptionError (Options × List Octets) :=
  readOptions plain.toList valued.toList ((args.map String.length).sum + args.length + 1) args

/-- The options at the head of the arguments of a command of the plain shell, and the other arguments. -/
def plainOptions (plain valued : Octets) (args : List Octets) : Sh (Options × List Octets) := do
  match parseOptions plain valued args with
  | .ok p => return p
  | .error (.unknown c) => Sh.fault ("Illegal option -" ++ c.toString)
  | .error (.noValue c) => Sh.fault ("No arg for -" ++ c.toString ++ " option")

/-- The options at the head of the arguments, and the other arguments; nothing, after a message, if
they are refused. -/
def options? (name plain valued : Octets) (args : List Octets) : Sh (Option (Options × List Octets)) := do
  if (← Sh.process).dialect = .plain then return some (← plainOptions plain valued args)
  match parseOptions plain valued args with
  | .ok p => return some p
  | .error (.unknown c) =>
    discard (refuseOption name ("-" ++ c.toString))
    return none
  | .error (.noValue c) =>
    complain name ("-" ++ c.toString ++ ": option requires an argument")
    discard (usage name)
    return none

/-- An option is given. -/
def has (os : Options) (c : Char) : Bool := (os.lookup c).isSome

/-- The arguments without a mark for the end of the options at their head. -/
def withoutMark : List Octets → List Octets
  | "--" :: r => r
  | r => r

/-- The status for success and failure. -/
def statusOf (good : Bool) : Nat := if good then 0 else 1

/-- Runs an action on each argument; the status says whether all succeeded. -/
def onEach (args : List Octets) (act : Octets → Sh Bool) : Sh Nat := do
  let mut good := true
  for a in args do
    if !(← act a) then good := false
  return statusOf good

/-- Complains that a word is no name. -/
def refuseName (name word : Octets) : Sh Bool := do
  complain name ("\x60" ++ word ++ "': not a valid identifier")
  return false

/-- Orders strings by their bytes. -/
def le (a b : Octets) : Bool := decide (a.toList ≤ b.toList)

/-- The texts of redirections, by number. -/
def bodyText : Sh (Nat → Octets) := return (← Sh.world).body

end Builtin

end ShellCoverage.Shell
