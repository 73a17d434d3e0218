import ShellCoverage.Shell.Descriptor
import ShellCoverage.Shell.Listing

/-!
# Parameters

Variables of the process, those that the shell computes, and the special parameters.

* `Sh.lookup?` : the value of a variable;
* `Sh.special?` : the value of `$?`, `$#` and their like;
* `Sh.store`, `Sh.storeElement` : assignments, which a variable may refuse;
* `Sh.environment` : the variables that are passed on.
-/

namespace ShellCoverage.Shell

/-- The options with a letter, in the order in which `$-` shows them. -/
def optionLetters : List (Char × Octets) :=
  [('a', "allexport"), ('b', "notify"), ('e', "errexit"), ('f', "noglob"), ('h', "hashall"),
    ('k', "keyword"), ('m', "monitor"), ('n', "noexec"), ('p', "privileged"), ('r', "restricted"), ('t', "onecmd"),
    ('u', "nounset"), ('v', "verbose"), ('x', "xtrace"), ('B', "braceexpand"), ('C', "noclobber"),
    ('E', "errtrace"), ('H', "histexpand"), ('P', "physical"), ('T', "functrace")]

/-- The options of the plain shell with their letters; some have none. -/
def plainOptionTable : List (Octets × Option Char) :=
  [("errexit", some 'e'), ("noglob", some 'f'), ("ignoreeof", some 'I'), ("interactive", some 'i'),
    ("monitor", some 'm'), ("noexec", some 'n'), ("stdin", some 's'), ("xtrace", some 'x'),
    ("verbose", some 'v'), ("vi", some 'V'), ("emacs", some 'E'), ("noclobber", some 'C'),
    ("allexport", some 'a'), ("notify", some 'b'), ("nounset", some 'u'), ("privileged", some 'p'),
    ("nolog", none), ("debug", none)]

/-- The letters of the options of the plain shell that are set, the last one first. -/
def plainOptionFlags (options : List Octets) : Octets :=
  String.ofList (((plainOptionTable.filter fun o => options.elem o.1).filterMap (·.2)).reverse)

/-- The names of all options. -/
def optionNames : List Octets :=
  ["allexport", "braceexpand", "emacs", "errexit", "errtrace", "functrace", "hashall", "histexpand",
    "history", "ignoreeof", "interactive-comments", "keyword", "monitor", "noclobber", "noexec",
    "noglob", "nolog", "notify", "nounset", "onecmd", "physical", "pipefail", "posix", "privileged",
    "verbose", "vi", "xtrace"]

/-- The names of the further options, with those that are set at the start. -/
def featureNames : List (Octets × Bool) :=
  [("autocd", false), ("assoc_expand_once", false), ("cdable_vars", false), ("cdspell", false),
    ("checkhash", false), ("checkjobs", false), ("checkwinsize", true), ("cmdhist", true),
    ("compat31", false), ("compat32", false), ("compat40", false), ("compat41", false),
    ("compat42", false), ("compat43", false), ("compat44", false), ("complete_fullquote", true),
    ("direxpand", false), ("dirspell", false), ("dotglob", false), ("execfail", false),
    ("expand_aliases", false), ("extdebug", false), ("extglob", false), ("extquote", true),
    ("failglob", false), ("force_fignore", true), ("globasciiranges", true), ("globskipdots", true),
    ("globstar", false), ("gnu_errfmt", false), ("histappend", false), ("histreedit", false),
    ("histverify", false), ("hostcomplete", true), ("huponexit", false), ("inherit_errexit", false),
    ("interactive_comments", true), ("lastpipe", false), ("lithist", false),
    ("localvar_inherit", false), ("localvar_unset", false), ("login_shell", false),
    ("mailwarn", false), ("no_empty_cmd_completion", false), ("nocaseglob", false),
    ("nocasematch", false), ("noexpand_translation", false), ("nullglob", false),
    ("patsub_replacement", true), ("progcomp", true), ("progcomp_alias", false),
    ("promptvars", true), ("restricted_shell", false), ("shift_verbose", false),
    ("sourcepath", true), ("varredir_close", false), ("xpg_echo", false)]

/-- The text of the options that are set. -/
def optionText (options : List Octets) : Octets :=
  Octets.join ":" (optionNames.filter options.elem)

/-- The letters of the options that are set. -/
def optionFlags (options : List Octets) : Octets :=
  String.ofList ((optionLetters.filter fun l => options.elem l.2).map (·.1))

/-- The time at which the machine starts, in seconds. -/
def startOfTime : Nat := 1700000000

/-- The name of the user's directory, where no variable says otherwise. -/
def defaultHome : Octets := "/root"

/-- The seconds that have passed since the machine started. -/
def World.seconds (w : World) : Nat := w.clock / 1000000

/-- The version of the shell. -/
def versionParts : List Octets := ["5", "2", "15", "1", "release", "x86_64-pc-linux-gnu"]

/-- The version of the shell as it is shown. -/
def versionText : Octets :=
  Octets.join "." (versionParts.take 3) ++ "(" ++ (versionParts[3]?).getD "" ++ ")-" ++ (versionParts[4]?).getD ""

namespace Sh

/-- The next random number. -/
def random : Sh Nat := do
  let step (n : Nat) : Nat :=
    let n := if n = 0 then 123459876 else n
    let t : Int := 16807 * ((n % 127773 : Nat) : Int) - 2836 * ((n / 127773 : Nat) : Int)
    (if t < 0 then t + 2147483647 else t).toNat
  let n := step (← world).seed
  changeWorld fun w => { w with seed := n }
  return ((n / 65536) ^^^ (n % 65536)) % 32768

/-- The names of the functions that were called, the innermost first. -/
def callNames (p : Process) : List Octets :=
  let names := p.frames.map (·.name)
  if p.source ≠ "" then names ++ ["main"] else names

/-- The files of the functions that were called, the innermost first. -/
def callSources (p : Process) : List Octets :=
  let sources := p.frames.map (·.source)
  if p.source ≠ "" then sources ++ [p.source] else sources

/-- The lines of the calls, the innermost first. -/
def callLines (p : Process) : List Octets :=
  let lines := p.frames.map fun f => Octets.ofNat f.line
  if p.source ≠ "" then lines ++ ["0"] else lines

/-- A path in which a tilde stands for the user's directory. -/
def abbreviated (p : Process) (path : Octets) : Octets :=
  match (Variables.find? "HOME" p.vars).bind (·.value.bind Value.toScalar?) with
  | some home =>
    if 1 < home.length && (path = home || Octets.startsWith (home ++ "/") path) then
      "~" ++ String.ofList (path.toList.drop home.length)
    else path
  | none => path

/-- The current directory and those below it. -/
def directoryStack (p : Process) : List Octets := (p.cwdPath :: p.directories).map (abbreviated p)

/-- Says that the path of the current directory cannot be found, which was removed. -/
def complainUnreachable (caller : Octets) : Sh Unit :=
  complain (caller ++ ": error retrieving current directory: getcwd: cannot access parent directories: " ++
    Errno.noEntry.description ++ "\n")

/-- The characters between which completion finds words. -/
def wordBreaks : Octets := " \t\n\"'@><=;|&(:"

/-- The value of a variable that the shell computes. -/
def computed? (name : Octets) : Sh (Option Value) := do
  let p ← process
  let w ← world
  let scalar (s : Octets) : Sh (Option Value) := return some (.scalar s)
  let list (ss : List Octets) : Sh (Option Value) := return some (.indexed (Value.ofList 0 ss))
  if p.dialect = .plain then return none
  match name with
  | "LINENO" => scalar (Octets.ofNat p.line)
  | "RANDOM" => scalar (Octets.ofNat (← random))
  | "SECONDS" => scalar (Octets.ofInt (w.seconds - p.started))
  | "EPOCHSECONDS" => scalar (Octets.ofNat (startOfTime + w.seconds))
  | "EPOCHREALTIME" =>
    let fraction := Octets.ofNat (w.clock % 1000000)
    scalar (Octets.ofNat (startOfTime + w.seconds) ++ "." ++
      String.ofList (List.replicate (6 - fraction.length) '0') ++ fraction)
  | "BASHPID" => scalar (Octets.ofNat p.pid)
  | "BASH_SUBSHELL" => scalar (Octets.ofNat p.subshells)
  | "BASH_COMMAND" => scalar ((p.current.map (Listing.heading w.body)).getD "")
  | "SHELLOPTS" => scalar (optionText p.options)
  | "BASHOPTS" =>
    scalar (Octets.join ":" ((featureNames.map (·.1)).filter p.features.elem))
  | "FUNCNAME" => if p.frames.all (·.reads) then return none else list (callNames p)
  | "BASH_SOURCE" => list (callSources p)
  | "BASH_LINENO" => list (callLines p)
  | "PIPESTATUS" => list (p.pipeline.map Octets.ofNat)
  | "BASH_ARGC" => list (p.arguments.map fun as => Octets.ofNat as.length)
  | "BASH_ARGV" => list (p.arguments.flatMap List.reverse)
  | "BASH_ARGV0" => scalar (p.ownName.getD p.name)
  | "GROUPS" => list ["0"]
  | "HISTCMD" => scalar "0"
  | "SRANDOM" => scalar (Octets.ofNat ((w.clock + 1) * 2654435761 % 2 ^ 32))
  | "COMP_WORDBREAKS" => scalar wordBreaks
  | "DIRSTACK" =>
    if p.cwdPath = "" then
      for _ in List.range 3 do complainUnreachable "dirstack"
    list (directoryStack p)
  | "BASH_ALIASES" => return some (.keyed p.aliases)
  | "BASH_CMDS" => return some (.keyed (p.hashed.map fun e => (e.1, e.2.1)))
  | "_" => scalar p.lastArgument
  | _ => return none

/-- The variables with computed values that become ordinary ones when they are taken away. -/
def removableNames : List Octets :=
  ["LINENO", "RANDOM", "SECONDS", "EPOCHSECONDS", "EPOCHREALTIME", "BASHPID", "BASH_SUBSHELL", "BASH_COMMAND",
    "FUNCNAME", "DIRSTACK", "BASH_ARGV0", "HISTCMD", "SRANDOM", "COMP_WORDBREAKS", "GROUPS"]

/-- The variables with computed values that cannot be taken away. -/
def lastingNames : List Octets := ["BASH_SOURCE", "BASH_LINENO", "BASH_ARGC", "BASH_ARGV"]

/-- The variables that take no value. -/
def unassignableNames : List Octets :=
  ["FUNCNAME", "BASH_SOURCE", "BASH_LINENO", "BASH_ARGC", "BASH_ARGV", "GROUPS"]

/-- The value of a variable is computed: it was not taken away, and there is no variable of a function or
of a command in its place. -/
def isComputed (p : Process) (name : Octets) : Bool :=
  !p.plainNames.elem name && (p.vars.dropLast.all fun s => !Table.has name s.entries)

/-- The variables whose values the shell computes. -/
def computedNames : List Octets :=
  ["LINENO", "RANDOM", "SECONDS", "EPOCHSECONDS", "EPOCHREALTIME", "BASHPID", "BASH_SUBSHELL", "BASH_COMMAND",
    "SHELLOPTS", "BASHOPTS", "FUNCNAME", "BASH_SOURCE", "BASH_LINENO", "PIPESTATUS", "DIRSTACK", "BASH_ALIASES",
    "BASH_CMDS", "_", "BASH_ARGC", "BASH_ARGV", "BASH_ARGV0", "GROUPS", "HISTCMD", "SRANDOM", "COMP_WORDBREAKS"]

/-- The variables that have a value only from the time on at which they are first asked for. -/
def lazyNames : List Octets :=
  ["RANDOM", "SECONDS", "EPOCHSECONDS", "EPOCHREALTIME", "BASHPID", "BASH_SUBSHELL", "BASH_COMMAND",
    "BASH_ARGV0", "GROUPS", "HISTCMD", "SRANDOM", "COMP_WORDBREAKS"]

/-- What a name means when references are followed. -/
def target (name : Octets) : Sh Variables.Target := return Variables.resolve (← process).vars name

/-- The name that a name means when references are followed. -/
def resolveName (name : Octets) : Sh Octets := return (← target name).name

/-- The name is that of a reference that leads nowhere but back to itself. -/
def isCircular (name : Octets) : Sh Bool := do
  match ← target name with
  | .innermost _ => return false
  | _ => return true

/-- Warns so many times of a reference that leads back to itself. -/
def warnCircular (name : Octets) (times : Nat) : Sh Unit := do
  if ← isCircular name then
    for _ in List.range times do
      report ("warning: " ++ name ++ ": circular name reference")

/-- The variable of some name. -/
def findVariable (name : Octets) : Sh (Option Variable) := do
  return Variables.at? (← target name) (← process).vars

/-- The value of a variable. -/
def lookup? (name : Octets) : Sh (Option Value) := do
  if computedNames.elem name && isComputed (← process) name then
    match ← computed? name with
    | some v =>
      if lazyNames.elem name && !(← process).askedNames.elem name then
        change fun p => { p with askedNames := name :: p.askedNames }
      return some v
    | none => pure ()
  return (← findVariable name).bind (·.value)

/-- The value of a variable as a string. -/
def scalar? (name : Octets) : Sh (Option Octets) := return (← lookup? name).bind Value.toScalar?

/-- The value of a variable as a string, empty if there is none. -/
def scalar (name : Octets) : Sh Octets := return (← scalar? name).getD ""

/-- The level of a shell that is some levels away from another one. -/
def nextLevel (level change : Int) : Nat := (level + change).toNat

/-- Shells nest at fewer levels than this. -/
def maxLevel : Nat := 1000

/-- The width of the screen. -/
def screenWidth : Sh Nat := do
  let n := ((← scalar? "COLUMNS").bind Octets.integer?).getD 0
  return if 0 < n then n.toNat else 80

/-- The positional parameters. -/
def parameters : Sh (List Octets) := return (← process).parameters

/-- The value of a special parameter that is one string. -/
def special? (name : Char) : Sh (Option Octets) := do
  let p ← process
  match name with
  | '?' => return some (Octets.ofNat p.status)
  | '#' => return some (Octets.ofNat p.parameters.length)
  | '$' => return some (Octets.ofNat p.shellPid)
  | '!' => return p.lastJob.map Octets.ofNat
  | '-' =>
    match p.dialect with
    | .full => return some (optionFlags p.options ++ p.inputFlags)
    | .plain => return some (plainOptionFlags p.options)
  | '0' => return some (p.ownName.getD p.name)
  | c => if c.isDigit then return p.parameters[c.toNat - 49]? else return none

/-- The characters that separate fields. -/
def separators : Sh (List Char) := return ((← scalar? "IFS").getD " \t\n").toList

/-- The bytes of the first character that separates fields, if there is one. -/
def firstSeparator : Sh (List Char) := do
  let k ← charset
  return k.octets ((k.chars (← separators)).take 1)

/-! ## Assignments -/

/-- A descriptor that is open. -/
def isOpen (fd : Nat) : Sh Bool := return Table.has fd (← process).descriptors

/-- Sets or unsets a further option. -/
def markFeature (name : Octets) (on : Bool) : Sh Unit :=
  change fun p => { p with
    features := if on then (if p.features.elem name then p.features else p.features ++ [name])
      else p.features.filter (· ≠ name) }

/-- Makes the shell keep to the standard, or not. -/
def markStandard (on : Bool) : Sh Unit := do
  change fun p => { p with
    options := if on then (if p.options.elem "posix" then p.options else p.options ++ ["posix"])
      else p.options.filter (· ≠ "posix") }
  markFeature "expand_aliases" on
  markFeature "shift_verbose" on
  if on then markFeature "inherit_errexit" true

/-- The variable that names a locale for everything, and that for what no other one names. -/
def wholeLocale : Octets := "LC_ALL"

@[inherit_doc wholeLocale]
def restLocale : Octets := "LANG"

/-- The variables that name locales. -/
def localeNames : List Octets :=
  [wholeLocale, restLocale, "LC_COLLATE", "LC_CTYPE", "LC_MESSAGES", "LC_NUMERIC", "LC_TIME"]

/-- Lets the character set be that of the locale which the variables name, if it is known. -/
def followLocale : Sh Unit := do
  if (← process).dialect = .plain then return
  if let some charset := Charset.ofVariables? (← scalar wholeLocale) (← scalar "LC_CTYPE") (← scalar restLocale) then
    change fun p => { p with charset }

/-- What is said about a locale that is not known. -/
def unknownLocale (name locale : Octets) : Octets :=
  "warning: setlocale: " ++ name ++ ": cannot change locale (" ++ locale ++ ")"

/-- Lets the locale follow a variable that was set or removed. A locale that is not known is looked for the
first time only. -/
def changeLocale (name : Octets) : Sh Unit := do
  followLocale
  let whole ← scalar wholeLocale
  let own ← scalar name
  let rest ← scalar restLocale
  let named? := if name = wholeLocale then Charset.localeOf? whole "" ""
    else if name = restLocale || whole ≠ "" then none
    else Charset.localeOf? "" own rest
  if let some locale := named? then
    if (Charset.ofLocale? locale).isNone then
      let mark := name ++ "=" ++ locale
      let isKnown := (← process).failedLocales.elem mark
      report (unknownLocale name locale ++ if isKnown then "" else ": No such file or directory")
      change fun p => { p with failedLocales := mark :: p.failedLocales }

/-- Lets the locale follow the variables that are left when scopes end. -/
def leaveLocales (scopes : Variables) : Sh Unit := do
  if (← process).dialect = .plain then return
  for name in localeNames do
    if scopes.any fun s => Table.has name s.entries then changeLocale name

/-- What else happens when a variable gets a value. -/
def afterStore (name s : Octets) : Sh Unit := do
  if (← process).plainNames.elem name then pure ()
  else if name = "BASH_XTRACEFD" then
    if s = "" then change fun p => { p with traceDescriptor := none }
    else
      match Octets.natural? s with
      | some fd =>
        if ← isOpen fd then change fun p => { p with traceDescriptor := some fd }
        else report (name ++ ": " ++ s ++ ": invalid value for trace file descriptor")
      | none => report (name ++ ": " ++ s ++ ": invalid value for trace file descriptor")
  else if name = "PATH" then change fun p => { p with hashed := [] }
  else if localeNames.elem name then
    if (← process).dialect = .full then changeLocale name
  else if name = "POSIXLY_CORRECT" then markStandard true
  else if name = "OPTIND" then
    if (← process).dialect = .plain then
      match Octets.natural? s with
      | some n => change fun p => { p with optionWord := max 1 n, optionIndex := 0 }
      | none => fault ("Illegal number: " ++ s)
    else change fun p => { p with optionIndex := 0 }
  else if name = "RANDOM" then changeWorld fun w => { w with seed := (Octets.natural? s).getD 0 }
  else if name = "SECONDS" then
    let now := (← world).seconds
    change fun p => { p with started := (now : Int) - (Octets.integer? s).getD 0 }
  else if name = "COMP_WORDBREAKS" then change fun p => { p with plainNames := name :: p.plainNames }
  else if name = "BASH_ARGV0" then
    change fun p => { p with ownName := some s, name := if p.source = "" then s else p.name }
  else if name = "BASH_SUBSHELL" then change fun p => { p with subshells := (Octets.natural? s).getD 0 }

/-- The variables that nothing may change. -/
def fixedNames : List Octets := ["SHELLOPTS", "BASHOPTS", "UID", "EUID", "PPID", "BASH_VERSINFO"]

/-- Nothing may change the variable. -/
def isReadonly (name : Octets) : Sh Bool := do
  if (← process).dialect = .full && fixedNames.elem name then return true
  return ((← findVariable name).map (·.readonly)).getD false

/-- A string with the case that a variable asks for. -/
def Variable.adapt (k : Charset) (v : Variable) (s : Octets) : Octets :=
  let change (cs : List Char) : List Char :=
    if v.lower then cs.map k.lower
    else if v.upper then cs.map k.upper
    else match cs with
      | c :: r => k.upper c :: r.map k.lower
      | [] => []
  if v.lower || v.upper || v.capital then String.ofList (k.onChars change s.toList) else s

/-- The function changes the value of a variable that may be changed. -/
def modifyVariable (name : Octets) (f : Variable → Variable) : Sh Unit := do
  let exports ← hasOption "allexport"
  let target ← target name
  let name := target.name
  let p ← process
  let takesNone : Bool := p.dialect = .full && unassignableNames.elem name && isComputed p name
  if !takesNone then
    change fun p => { p with
      vars := Variables.updateAt target
        (fun v => let v := f v; { v with exported := v.exported || exports, isBare := false })
        p.vars }

/-- Gives a variable a string: a list or table gets it as its element 0. -/
def store (name s : Octets) : Sh Unit := do
  let k ← charset
  modifyVariable name fun v =>
    let s := Variable.adapt k v s
    match v.value with
    | some (.indexed es) => { v with value := some (.indexed (Value.setIndex 0 s es)) }
    | some (.keyed es) => { v with value := some (.keyed (Table.insert "0" s es)) }
    | _ => { v with value := some (.scalar s) }
  afterStore (← resolveName name) s

/-- Gives a variable a value as a whole. -/
def storeValue (name : Octets) (x : Value) : Sh Unit := modifyVariable name fun v => { v with value := some x }

/-- Gives an element of a list a string. -/
def storeIndex (name : Octets) (i : Nat) (s : Octets) : Sh Unit := do
  let k ← charset
  modifyVariable name fun v =>
    let s := Variable.adapt k v s
    let es :=
      match v.value with
      | some (.indexed es) => es
      | some (.scalar t) => [(0, t)]
      | _ => []
    { v with value := some (.indexed (Value.setIndex i s es)) }

/-- Gives an element of a table a string. -/
def storeKey (name key s : Octets) : Sh Unit := do
  let k ← charset
  modifyVariable name fun v =>
    let es := match v.value with | some (.keyed es) => es | _ => []
    { v with value := some (.keyed (Table.insert key (Variable.adapt k v s) es)) }
  if name = "BASH_ALIASES" then change fun p => { p with aliases := Table.insert key s p.aliases }
  else if name = "BASH_CMDS" then change fun p => { p with hashed := Table.insert key (s, 0) p.hashed }

/-- The variable is a table. -/
def isKeyed (name : Octets) : Sh Bool := do
  match (← findVariable name).bind (·.value) with
  | some (.keyed _) => return true
  | _ => return false

/-- Says that a variable may not change. The plain shell ends. -/
def reportReadonly (name : Octets) : Sh Unit := do
  match (← process).dialect with
  | .full => report (name ++ ": readonly variable")
  | .plain => fault (name ++ ": is read only")

/-- Refuses to change a variable: the shell goes on with its next line, or ends if it keeps to the
standard. -/
def refuseReadonly {α : Type} (name : Octets) : Sh α := do
  reportReadonly name
  throw (if ← isStandard then .exited 1 else .discarded 1)

/-! ## The environment -/

/-- The string that a variable passes on. -/
def passedOn? (v : Variable) : Option Octets :=
  match v.exported, v.value with
  | true, some (.scalar s) => some s
  | _, _ => none

/-- The variables of a scope that are passed on, in the order in which the full shell does so. Scopes of
functions and commands are small tables that grow. -/
def passedOnIn (isOutermost : Bool) (s : Scope) : Table Octets Octets :=
  let pairs := if isOutermost then Value.inBuckets Value.bucketCount s.entries
    else Value.inGrowingBuckets 4 s.entries
  pairs.filterMap fun e => (passedOn? e.2).map fun s => (e.1, s)

/-- The number of buckets of the variables of the plain shell. -/
def plainVariableBuckets : Nat := 39

/-- The sum that decides in which bucket the plain shell keeps a name. -/
def plainBucketSum (name : Octets) : Nat :=
  let codes := name.toList.map Char.toNat
  codes.headD 0 * 16 + codes.sum

/-- The variables that are passed on to programs. A variable of an inner scope comes before those of outer
ones, and hides them if it is passed on itself. -/
def environment : Sh (Table Octets Octets) := do
  let p ← process
  match p.dialect with
  | .full =>
    let scopes := p.vars.zipIdx.map fun s => passedOnIn (s.2 + 1 = p.vars.length) s.1
    let pairs := scopes.flatten.foldl (fun t e => if Table.has e.1 t then t else t ++ [e]) []
    return if Table.has "SHELLOPTS" pairs then Table.insert "SHELLOPTS" (optionText p.options) pairs else pairs
  | .plain =>
    let bucket (e : Octets × Variable) : Nat := plainBucketSum e.1 % plainVariableBuckets
    let vs := (Variables.visible p.vars).mergeSort fun a b => decide (bucket a ≤ bucket b)
    return vs.filterMap fun e => (passedOn? e.2).map fun s => (e.1, s)

end Sh

end ShellCoverage.Shell
