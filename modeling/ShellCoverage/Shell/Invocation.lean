import ShellCoverage.Shell.Running

/-!
# The arguments of a shell

Options come first, then a script or a string of commands, and its parameters.

* `Invocation` : what the arguments ask for;
* `Invocation.read` : reads the arguments of a shell.
-/

namespace ShellCoverage.Shell

/-- Why the arguments of a shell are refused. -/
inductive Refusal where
  /-- There is no such option. -/
  | option (text : Octets)
  /-- There is no option of that name. -/
  | optionName (name : Octets)
  /-- There is no further option of that name. -/
  | featureName (name : Octets)
  deriving Inhabited

/-- What the arguments of a shell ask for. -/
structure Invocation where
  /-- The first operand is a string of commands. -/
  hasCommand : Bool := false
  /-- The standard input is read although there are operands. -/
  readsInput : Bool := false
  /-- Options to set and to unset, by name. -/
  options : List (Octets × Bool) := []
  features : List (Octets × Bool) := []
  operands : List Octets := []
  /-- The shell only tells its version. -/
  asksVersion : Bool := false
  refused : Option Refusal := none
  deriving Inhabited

namespace Invocation

/-- Long options, with the options that they set; and those that take the next argument. -/
def longOptions : List (Octets × List Octets) :=
  [("debug", []), ("debugger", []), ("login", []), ("noediting", []), ("noprofile", []), ("norc", []),
    ("posix", ["posix"]), ("verbose", ["verbose"]), ("restricted", ["restricted"]),
    ("dump-strings", ["noexec", Sh.translationOption])]

/-- Sets options, or unsets them. -/
def setting (names : List Octets) (on : Bool) (i : Invocation) : Invocation :=
  { i with options := i.options ++ names.map fun n => (n, on) }

/-- Takes the long options, which may begin with one minus sign; the result is what comes after them. -/
def takeLong : Nat → Invocation → List Octets → Invocation × List Octets
  | 0, i, args => (i, args)
  | _, i, [] => (i, [])
  | n + 1, i, a :: r =>
    let (double, name) : Bool × Octets :=
      match a.toList with
      | '-' :: '-' :: cs => (true, String.ofList cs)
      | '-' :: cs => (false, String.ofList cs)
      | _ => (false, "")
    if name = "" then (i, a :: r)
    else if name = "version" then ({ i with asksVersion := true }, r)
    else if name = "rcfile" || name = "init-file" then takeLong n i r.tail
    else
      match longOptions.lookup name with
      | some names => takeLong n (i.setting names true) r
      | none => if double then ({ i with refused := some (.option a) }, r) else (i, a :: r)

/-- Takes the letters of an option; the result is what comes after the arguments that they use. -/
def takeLetters (on : Bool) (i : Invocation) : List Char → List Octets → Invocation × List Octets
  | [], args => (i, args)
  | c :: cs, args =>
    match c with
    | 'c' => takeLetters on { i with hasCommand := true } cs args
    | 's' => takeLetters on { i with readsInput := true } cs args
    | 'i' | 'l' => takeLetters on i cs args
    | 'D' => takeLetters on (i.setting ["noexec", Sh.translationOption] true) cs args
    | 'o' =>
      match args with
      | [] => takeLetters on i cs []
      | name :: rest =>
        if optionNames.elem name then takeLetters on (i.setting [name] on) cs rest
        else ({ i with refused := some (.optionName name) }, rest)
    | 'O' => takeLetters on { i with features := i.features ++ (args.take 1).map fun f => (f, on) } cs (args.drop 1)
    | c =>
      match optionLetters.lookup c with
      | some name => takeLetters on (i.setting [name] on) cs args
      | none => ({ i with refused := some (.option ((if on then "-" else "+") ++ c.toString)) }, args)

/-- Takes the letters of an option of the plain shell; the result is what comes after the arguments that they use. -/
def takePlainLetters (on : Bool) (i : Invocation) : List Char → List Octets → Invocation × List Octets
  | [], args => (i, args)
  | c :: cs, args =>
    let i := { i with readsInput := i.readsInput || c = 's', hasCommand := i.hasCommand || c = 'c' }
    if c = 'c' || c = 'l' || (c = 'o' && args = []) then takePlainLetters on i cs args
    else if c = 'o' then
      let name := args.headD ""
      if plainOptionTable.any (·.1 = name) then takePlainLetters on (i.setting [name] on) cs args.tail
      else ({ i with refused := some (.option ("-o " ++ name)) }, args)
    else
      match plainOptionTable.find? fun o => o.2 = some c with
      | some (name, _) => takePlainLetters on (i.setting [name] on) cs args
      | none => ({ i with refused := some (.option ("-" ++ c.toString)) }, args)

/-- Takes the options with letters and the operands. -/
def takeShort (d : Dialect) : Nat → Invocation → List Octets → Invocation
  | 0, i, args => { i with operands := args }
  | _, i, [] => i
  | n + 1, i, a :: r =>
    match a.toList with
    | ['-'] | ['-', '-'] => { i with operands := r }
    | sign :: c :: cs =>
      if sign = '-' || sign = '+' then
        let take := match d with | .full => takeLetters | .plain => takePlainLetters
        let (i, rest) := take (sign = '-') i (c :: cs) r
        if i.refused.isSome then i else takeShort d n i rest
      else { i with operands := a :: r }
    | _ => { i with operands := a :: r }

/-- The shell is to be restricted. -/
def isRestricted (i : Invocation) : Bool := i.options.elem ("restricted", true)

/-- The shell takes neither options nor functions from the environment. -/
def isGuarded (i : Invocation) : Bool := i.isRestricted || i.options.elem ("privileged", true)

/-- What arguments ask for. -/
def read (d : Dialect) (args : List Octets) : Invocation :=
  let (i, rest) := match d with
    | .full => takeLong (args.length + 1) {} args
    | .plain => ({}, args)
  if i.refused.isSome || i.asksVersion then i else takeShort d (args.length + 1) i rest

end Invocation

/-- How the shell is used. -/
def shellUsage (name : Octets) : Octets :=
  "Usage:\t" ++ name ++ " [GNU long option] [option] ...\n\t" ++ name ++
    " [GNU long option] [option] script-file ...\nGNU long options:\n" ++
    String.join (["debug", "debugger", "dump-po-strings", "dump-strings", "help", "init-file", "login",
      "noediting", "noprofile", "norc", "posix", "pretty-print", "rcfile", "restricted", "verbose",
      "version"].map fun o => "\t--" ++ o ++ "\n") ++
    "Shell options:\n\t-ilrsD or -c command or -O shopt_option\t\t(invocation only)\n" ++
    "\t-abefhkmnptuvxBCEHPT or -o option\n"

end ShellCoverage.Shell
