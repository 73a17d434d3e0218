import ShellCoverage.Shell.Quoting

/-!
# Completions

A completion says which words may complete an argument of a command.

* `Completion` : where the words come from, and what is done with them;
* `Completion.text` : the options that ask for a completion, as the shell lists them.
-/

namespace ShellCoverage.Shell

/-- Where the words come from that complete an argument, and what is done with them. -/
structure Completion where
  /-- Names of settings. -/
  settings : List Octets := []
  /-- Kinds of names that are candidates. -/
  kinds : List Octets := []
  /-- A pattern for paths. -/
  paths : Option Octets := none
  /-- A list of words. -/
  words : Option Octets := none
  /-- A text before each word, and one behind it. -/
  head : Option Octets := none
  tail : Option Octets := none
  /-- A pattern for words that are left out. -/
  filter : Option Octets := none
  /-- A command that writes the words. -/
  command : Option Octets := none
  /-- A function that computes the words. -/
  function : Option Octets := none
  deriving Inhabited

namespace Completion

/-- The settings. -/
def settingNames : List Octets :=
  ["bashdefault", "default", "dirnames", "filenames", "noquote", "nosort", "nospace", "plusdirs"]

/-- The kinds of names, with the letters of those that have one; in the order in which candidates come. -/
def kindNames : List (Octets × Option Char) :=
  [("alias", some 'a'), ("arrayvar", none), ("binding", none), ("builtin", some 'b'), ("disabled", none),
    ("enabled", none), ("export", some 'e'), ("function", none), ("helptopic", none), ("hostname", none),
    ("job", some 'j'), ("keyword", some 'k'), ("running", none), ("setopt", none), ("shopt", none),
    ("signal", none), ("stopped", none), ("variable", some 'v'), ("command", some 'c'), ("file", some 'f'),
    ("user", some 'u'), ("group", some 'g'), ("service", some 's'), ("directory", some 'd')]

/-- The kind of names that a letter stands for. -/
def kindOfLetter? (c : Char) : Option Octets := (kindNames.find? fun k => k.2 = some c).map (·.1)

/-- The options that ask for the completion, each with a blank behind it. -/
def text (x : Completion) : Octets :=
  let settings := settingNames.filter x.settings.elem
  let kinds := kindNames.filter fun k => x.kinds.elem k.1
  let letters := (kinds.filterMap (·.2)).mergeSort fun a b => decide (a ≤ b)
  let named := (kinds.filter fun k => k.2.isNone).map (·.1)
  let quoted (option : Octets) (value? : Option Octets) : Octets :=
    match value? with
    | some s => option ++ " " ++ Quoting.single s ++ " "
    | none => ""
  String.join (settings.map fun s => "-o " ++ s ++ " ") ++ String.join (letters.map fun c => "-" ++ c.toString ++ " ") ++
    String.join (named.map fun s => "-A " ++ s ++ " ") ++ quoted "-G" x.paths ++ quoted "-W" x.words ++
    quoted "-P" x.head ++ quoted "-S" x.tail ++ quoted "-X" x.filter ++ quoted "-C" x.command ++
    (match x.function with | some f => "-F " ++ f ++ " " | none => "")

end Completion

end ShellCoverage.Shell
