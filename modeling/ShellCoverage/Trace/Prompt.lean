import ShellCoverage.Text.CodePoint

/-!
# The trace prompt

A shell prints an expanded prompt before every command that it traces. The prompt built here carries
five fields between delimiters, so that a line of trace output can be taken apart without quoting:

    +DsourceD... = +Dsource=…Dline=…Dpwd=…Doldpwd=…Ddirstack=…D command

The shell repeats the first character once for every level of indirection; the delimiter therefore
comes after it.

* `Trace.Field` : the fields, in the order of the line;
* `Trace.prompt d` : the prompt, with the shell's expansion for each field;
* `Trace.Command.render` : the line that a shell prints, with values in the place of expansions.
-/

namespace ShellCoverage.Trace

/-- A field of a trace line. -/
inductive Field where
  /-- The file that the command comes from. -/
  | source
  /-- The number of the command's line. -/
  | line
  /-- The working directory. -/
  | pwd
  /-- The working directory before the last change. -/
  | oldpwd
  /-- The directory stack. -/
  | dirstack
  deriving DecidableEq, Repr

namespace Field

/-- The fields in the order of the line. -/
def all : List Field := [source, line, pwd, oldpwd, dirstack]

/-- The name of a field in the line. -/
def label : Field → Text
  | source => "source"
  | line => "line"
  | pwd => "pwd"
  | oldpwd => "oldpwd"
  | dirstack => "dirstack"

end Field

/-- The character that is repeated once per level of indirection. -/
def depthMark : CodePoint := CodePoint.ofChar '+'

/-- The character before each entry of a directory stack. -/
def stackMark : CodePoint := 0x1F

/-- The character between a field's name and its value. -/
def equals : CodePoint := CodePoint.ofChar '='

/-- The shell's expansion that gives the value of a field. -/
def Field.expansion : Field → Text
  | .source => "$\x7bBASH_SOURCE[0]-\x7d"
  | .line => "$\x7bLINENO-\x7d"
  | .pwd => "$\x7bPWD-\x7d"
  | .oldpwd => "$\x7bOLDPWD-\x7d"
  | .dirstack => ("$\x7bDIRSTACK[@]/#/" : Text) ++ [stackMark] ++ "\x7d"

/-- A delimiter, the name of a field and its value. -/
def fieldText (d : Text) (value : Field → Text) (f : Field) : Text :=
  d ++ f.label ++ [equals] ++ value f

/-- The fields between delimiters, and a blank. -/
def body (d : Text) (value : Field → Text) : Text :=
  Field.all.flatMap (fieldText d value) ++ d ++ [CodePoint.ofChar ' ']

/-- The prompt that makes a shell print one line of fields per command. -/
def prompt (d : Text) : Text := depthMark :: body d Field.expansion

/-- A traced command: its level of indirection, the values of its fields, and its text. -/
structure Command where
  depth : Nat
  value : Field → Text
  tail : Text

/-- What a shell prints for a traced command. -/
def Command.render (d : Text) (c : Command) : Text :=
  List.replicate c.depth depthMark ++ body d c.value ++ c.tail

/-- The value of the directory stack field: each entry after its mark, blanks between them. -/
def stackText (entries : List Text) : Text :=
  Text.join [CodePoint.ofChar ' '] (entries.map (stackMark :: ·))

end ShellCoverage.Trace
