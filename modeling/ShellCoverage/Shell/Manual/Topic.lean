import ShellCoverage.Shell.Octets

/-!
# Help: topics

A topic explains a command of the shell or a part of its language.

* `Topic` : a topic; `Topic.shown` : its text;
* `Topic.page` : its text in the form of a page of a manual.
-/

namespace ShellCoverage.Shell

/-- A topic. -/
structure Topic where
  name : Octets
  /-- How the command is written. -/
  synopsis : Octets
  /-- What it does; the first line says it in short. -/
  lines : List Octets
  /-- The explanation is a list of words. -/
  isList : Bool := false
  deriving Repr, Inhabited

namespace Topic

/-- The line that names a topic and shows how it is written. -/
def heading (t : Topic) : Octets := t.name ++ ": " ++ t.synopsis ++ "\n"

/-- The line that says in short what a topic is about. -/
def description (t : Topic) : Octets := t.name ++ " - " ++ t.lines.headD "" ++ "\n"

/-- The lines of the explanation. -/
def explanation (t : Topic) : Octets := String.join (t.lines.map fun l => "    " ++ l ++ "\n")

/-- The text of a topic. A list of words is followed by an empty line. -/
def shown (t : Topic) : Octets := t.heading ++ t.explanation ++ if t.isList then "\n" else ""

/-- The text of a topic in the form of a page of a manual; the last lines are given. -/
def page (t : Topic) (ending : Octets) : Octets :=
  "NAME\n    " ++ t.description ++ "\nSYNOPSIS\n    " ++ t.synopsis ++ "\n\nDESCRIPTION\n" ++ t.explanation ++
    "\nSEE ALSO\n    bash(1)\n\nIMPLEMENTATION\n" ++ ending

end Topic

end ShellCoverage.Shell
