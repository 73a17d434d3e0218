import ShellCoverage.Shell.Octets

/-!
# Commands

The commands of the shell, as the reader of scripts produces them. Words are kept as they are written,
quotes included; they are taken apart when they are expanded.

* `Redirect` : a redirection;
* `Test` : the expression of `[[ … ]]`;
* `Command` : a command.
-/

namespace ShellCoverage.Shell

/-- A word as it is written. -/
abbrev Word := Octets

/-- What a redirection does. -/
inductive RedirectKind where
  /-- `<` opens a file for reading. -/
  | input
  /-- `>` opens a file for writing and empties it. -/
  | output
  /-- `>|` does so even if files are protected. -/
  | clobber
  /-- `>>` opens a file for writing at its end. -/
  | append
  /-- `<>` opens a file for both. -/
  | readWrite
  /-- `<&` copies a descriptor. -/
  | copyInput
  /-- `>&` copies a descriptor. -/
  | copyOutput
  /-- `&>` sends output and errors to a file. -/
  | both
  /-- `&>>` sends output and errors to the end of a file. -/
  | bothAppend
  /-- `<<` gives a text; the target is the number of the text. -/
  | hereDocument (body : Nat) (expands : Bool)
  /-- `<<<` gives a word as a text. -/
  | hereString
  deriving DecidableEq, Repr, Inhabited

/-- The descriptor that a redirection changes. -/
inductive RedirectTarget where
  /-- The one that the kind of redirection implies. -/
  | implied
  /-- One that is given by number. -/
  | descriptor (n : Nat)
  /-- A new one, the number of which is stored in a variable. -/
  | variable (name : Octets)
  deriving DecidableEq, Repr, Inhabited

/-- A redirection. -/
structure Redirect where
  target : RedirectTarget
  kind : RedirectKind
  word : Word
  deriving Repr, Inhabited

/-- The expression of a conditional command. -/
inductive Test where
  | unary (op : Octets) (operand : Word)
  | binary (op : Octets) (left right : Word)
  /-- A word that must not be empty. -/
  | word (w : Word)
  | negation (t : Test)
  /-- An expression in parentheses. -/
  | group (t : Test)
  | both (a b : Test)
  | either (a b : Test)
  deriving Repr, Inhabited

/-- What follows a clause of `case`. -/
inductive ClauseEnd where
  /-- `;;` ends the command. -/
  | stop
  /-- `;&` goes on with the next clause's commands. -/
  | fallThrough
  /-- `;;&` goes on with the next clause's patterns. -/
  | testNext
  deriving DecidableEq, Repr, Inhabited

/-- A command. -/
inductive Command where
  /-- Assignments, a name and arguments. -/
  | simple (line : Nat) (words : List Word) (redirects : List Redirect)
  | pipeline (commands : List Command)
  | negated (c : Command)
  /-- The time that it takes is shown, in the portable format if that is asked for. -/
  | timed (portable : Bool) (c : Command)
  | andThen (a b : Command)
  | orElse (a b : Command)
  /-- One command after another; a line feed stands between them if `byLine` is set. -/
  | sequence (byLine : Bool) (a b : Command)
  | background (c : Command)
  | group (c : Command)
  | subshell (line : Nat) (c : Command)
  | conditional (test yes : Command) (no : Option Command)
  /-- `while`, or `until` if `untilTrue` is set. -/
  | loop (untilTrue : Bool) (test body : Command)
  /-- Without words the positional parameters are taken. -/
  | forEach (line : Nat) (name : Octets) (words : Option (List Word)) (body : Command)
  | forArithmetic (line : Nat) (start test step : Octets) (body : Command)
  | select (line : Nat) (name : Octets) (words : Option (List Word)) (body : Command)
  | choice (line : Nat) (subject : Word)
      (clauses : List (List Word × Option Command × ClauseEnd))
  | test (line : Nat) (expression : Test)
  | arithmetic (line : Nat) (expression : Octets)
  | function (line : Nat) (name : Octets) (bodyLine : Nat) (body : Command)
  | coprocess (name : Octets) (c : Command)
  | redirected (c : Command) (redirects : List Redirect)
  deriving Repr, Inhabited

/-- The command has a failure of its own, and not just those of commands inside it. -/
def Command.mayFail : Command → Bool
  | .simple _ _ _ | .pipeline _ | .subshell _ _ | .test _ _ | .arithmetic _ _ => true
  | .timed _ c | .redirected c _ => c.mayFail
  | _ => false

end ShellCoverage.Shell
