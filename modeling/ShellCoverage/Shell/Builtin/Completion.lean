import ShellCoverage.Shell.Builtin.Settings
import ShellCoverage.Shell.Builtin.Control
import ShellCoverage.Shell.Search

/-!
# Commands on completions

`compgen` writes the words that a completion leads to; `complete` keeps completions for commands.

* `Builtin.candidates` : the names of some kind;
* `Builtin.completed` : the words that a completion leads to.
-/

namespace ShellCoverage.Shell

/-- The words with a meaning in the grammar. -/
def keywords : List Octets :=
  ["if", "then", "else", "elif", "fi", "case", "esac", "for", "select", "while", "until", "do", "done",
    "in", "function", "time", "\x7b", "\x7d", "!", "[[", "]]", "coproc"]

namespace Builtin

variable (runs : Runs)

/-- Names in order. -/
def ordered (names : List Octets) : List Octets := names.mergeSort le

/-- The paths that complete a text: those of directories only, if that is asked for. -/
def pathCandidates (onlyDirectories : Bool) (start : Octets) : Sh (List Octets) := do
  let fs ← Sh.fileSystem
  let directory := String.ofList ((start.toList.reverse.dropWhile (· ≠ '/')).reverse)
  let paths := (ordered (Glob.names fs directory)).map (directory ++ ·)
  return if onlyDirectories then paths.filter (Glob.isDirectory fs) else paths

/-- The names of some kind, and perhaps others that do not begin with the text. -/
def candidates (kind start : Octets) : Sh (List Octets) := do
  let p ← Sh.process
  let vars (select : Variable → Bool) : Sh (List Octets) := do
    let isListed (v : Octets × Variable) : Bool := Sh.lazyNames.elem v.1 || (v.2.value.isSome && v.1 ≠ "FUNCNAME")
    return ((← allVariables).filter fun v => isListed v && select v.2).map (·.1)
  match kind with
  | "alias" => return ordered (p.aliases.map (·.1))
  | "arrayvar" => vars fun v => v.value.any Value.isArray
  | "builtin" => return names
  | "disabled" => return names.filter p.disabled.elem
  | "enabled" => return names.filter fun n => !p.disabled.elem n
  | "export" => vars (·.exported)
  | "function" => return ordered (p.functions.map (·.1))
  | "helptopic" => return names
  | "hostname" => return ["localhost"]
  | "keyword" => return keywords
  | "setopt" => return optionNames
  | "shopt" => return ordered (featureNames.map (·.1))
  | "signal" => return (signals.map fun s => if s.2 = 0 then s.1 else "SIG" ++ s.1) ++ conditions
  | "variable" => vars fun _ => true
  | "command" =>
    let fs ← Sh.fileSystem
    let programs := (← Sh.searchPath).flatMap (Glob.names fs)
    return ordered (p.aliases.map (·.1)) ++ keywords ++ ordered (p.functions.map (·.1)) ++ names ++ programs
  | "file" => pathCandidates false start
  | "directory" => pathCandidates true start
  | "user" | "group" => return ["root"]
  | _ => return []

/-- The words of a list, which are separated as the fields of an expansion are and expanded each. -/
def listWords (list : Octets) : Sh (List Octets) := do
  let separators ← Sh.separators
  let atoms := Field.atoms (list.length + 1) list.toList
  let isSeparator (a : List Char) : Bool := match a with | [c] => separators.elem c | _ => false
  let words := (atoms.splitBy fun a b => isSeparator a = isSeparator b).filter fun g => !(g.any isSeparator)
  let fields ← words.mapM fun w => do
    let is ← Expansion.items runs false true .bare w.flatten
    return (Field.split separators is).map fun f => String.ofList (f.map (·.1))
  return fields.flatten

/-- The words that a pattern for words leaves. A pattern behind an exclamation mark says which words stay. -/
def filtered (pattern start : Octets) (words : List Octets) : Sh (List Octets) := do
  let extended ← Sh.hasFeature "extglob"
  let (keeps, pattern) : Bool × List Char :=
    match pattern.toList with
    | '!' :: r => (true, r)
    | r => (false, r)
  let text := pattern.flatMap fun c => if c = '&' then start.toList else [c]
  let parsed := Pattern.parse false extended (text.map fun c => (c, false))
  return words.filter fun w => Pattern.accepts false parsed w.toList = keeps

/-- The words that a function computes. -/
def functionWords (name start : Octets) : Sh (Option (List Octets)) := do
  match Table.get? name (← Sh.process).functions with
  | none =>
    Sh.report ("completion: function \x60" ++ name ++ "' not found")
    return none
  | some f =>
    Sh.call runs name f ["compgen", start, ""]
    let words := match ← Sh.lookup? "COMPREPLY" with
      | some v => v.elements.map (·.2)
      | none => []
    Sh.change fun p => { p with vars := Variables.remove "COMPREPLY" false p.vars }
    return some words

/-- The words that a command writes. -/
def commandWords (command start : Octets) : Sh (List Octets) := do
  let text := command ++ " compgen " ++ Quoting.reusable (← Sh.charset) start ++ " ''"
  return (Octets.lines (← Expansion.substitute runs text.toList)).map Octets.trimLineFeeds

/-- The words that a completion leads to for a text. -/
def completed (x : Completion) (start : Octets) : Sh (List Octets) := do
  let begins (ws : List Octets) : List Octets := ws.filter (Octets.startsWith start)
  let kinds := (Completion.kindNames.map (·.1)).filter x.kinds.elem
  let named ← kinds.mapM fun k => do return begins (← candidates k start)
  let paths ← match x.paths with
    | none => pure []
    | some g => do
      let found ← Sh.glob? (g.toList.map fun c => (c, false))
      pure (begins (found.getD []))
  let listed ← match x.words with
    | none => pure []
    | some list => do pure (begins (← listWords runs list))
  let computed ← match x.function with
    | none => pure []
    | some f => do
      complain "compgen" "warning: -F option may not work as you expect"
      pure ((← functionWords runs f start).getD [])
  let written ← match x.command with
    | none => pure []
    | some c => do
      complain "compgen" "warning: -C option may not work as you expect"
      commandWords runs c start
  let words := named.flatten ++ paths ++ listed ++ computed ++ written
  let words ← match x.filter with
    | none => pure words
    | some pattern => filtered pattern start words
  let words := words.map fun w => x.head.getD "" ++ w ++ x.tail.getD ""
  if words = [] && x.settings.elem "dirnames" then return begins (← candidates "directory" start)
  if x.settings.elem "plusdirs" then return words ++ begins (← candidates "directory" start)
  return words

/-- The completion that options ask for; nothing, after a message, if there is none. -/
def completionOf? (command : Octets) (os : Options) : Sh (Option Completion) := do
  let settings := (os.filter fun o => o.1 = 'o').map (·.2)
  let kinds := os.filterMap fun o => if o.1 = 'A' then some o.2 else Completion.kindOfLetter? o.1
  match settings.find? fun s => !Completion.settingNames.elem s, kinds.find? fun k => !(Completion.kindNames.any (·.1 = k)) with
  | some s, _ =>
    complain command (s ++ ": invalid option name")
    return none
  | none, some k =>
    complain command (k ++ ": invalid action name")
    return none
  | none, none =>
    return some {
      settings
      kinds
      paths := os.lookup 'G'
      words := os.lookup 'W'
      head := os.lookup 'P'
      tail := os.lookup 'S'
      filter := os.lookup 'X'
      command := os.lookup 'C'
      function := os.lookup 'F' }

/-- `compgen` -/
def compgen : Builtin := fun args => do
  match ← options? "compgen" "abcdefgjksuv" "oAGWPSXFC" args with
  | none => return 2
  | some ([], _) => return 0
  | some (os, rest) =>
    match ← completionOf? "compgen" os with
    | none => return 2
    | some x =>
      let words ← completed runs x (rest.headD "")
      for w in words do
        Sh.write (w ++ "\n")
      return statusOf (words ≠ [])

/-- The number of buckets in which completions are kept. -/
def completionBuckets : Nat := 512

/-- The names by which special completions are kept, with the letters that list them. -/
def specialCompletions : List (Char × Octets) := [('D', "-D"), ('E', "-E"), ('I', "-I")]

/-- Lists a completion as the command that defines it. -/
def listCompletion (name : Octets) (x : Completion) : Sh Unit :=
  Sh.write ("complete " ++ x.text ++ (if name = "" then "''" else name) ++ "\n")

/-- Complains that a command has no completion. -/
def refuseCompletion (name : Octets) : Sh Bool := do
  complain "complete" (name ++ ": no completion specification")
  return false

/-- `complete` -/
def complete : Builtin := fun args => do
  match ← options? "complete" "abcdefgjkprsuvDEI" "oAGWPSXFC" args with
  | none => return 2
  | some (os, rest) =>
    let special := specialCompletions.filterMap fun s => if has os s.1 then some s.2 else none
    let targets := special ++ (if special = [] then rest else [])
    match ← completionOf? "complete" os with
    | none => return 2
    | some x =>
      if has os 'r' then
        if targets = [] then
          Sh.change fun p => { p with completions := [] }
          return 0
        onEach targets fun n => do
          if Table.has n (← Sh.process).completions then
            Sh.change fun p => { p with completions := Table.erase n p.completions }
            return true
          else refuseCompletion n
      else if has os 'p' || (os = [] && rest = []) then
        let kept := (← Sh.process).completions
        if targets = [] then
          for c in Value.inBuckets completionBuckets kept do
            listCompletion c.1 c.2
          return 0
        onEach targets fun n => do
          match Table.get? n kept with
          | some c =>
            listCompletion n c
            return true
          | none => refuseCompletion n
      else
        match x.function with
        | some f =>
          if f.toList.any fun c => Quoting.isSpecial c then
            discard (refuseName "complete" f)
            return 1
        | none => pure ()
        onEach targets fun n => do
          Sh.change fun p => { p with completions := Table.insert n x p.completions }
          return true

/-- `compopt` -/
def compopt : Builtin := fun _ => refuse 1 "compopt" "not currently executing completion function"

end Builtin

end ShellCoverage.Shell
