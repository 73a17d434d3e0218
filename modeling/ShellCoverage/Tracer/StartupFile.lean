import ShellCoverage.FileSystem.Lookup
import ShellCoverage.Tracer.Environment

/-!
# The startup file

A shell that runs with root's rights takes no prompt from its environment, but every shell that runs a
script reads the startup file first, shells inside scripts included. The file sets the prompt, and then
reads the caller's own startup file.

* `StartupFile.quote` : a text as one word of the shell;
* `StartupFile.content` : the lines of the file;
* `StartupFile.write` : the bytes of the file.
-/

namespace ShellCoverage.StartupFile

/-- A character that no shell treats in a special way. -/
def isPlain (c : CodePoint) : Bool :=
  c.isAsciiLetter || c.isAsciiDigit || ("_@%+=:,./-" : Text).elem c

/-- A single quote inside single quotes: the quotes end, the quote stands in double quotes, and the
quotes begin again. -/
def innerQuote : Text := "'\"'\"'"

/-- A text as one word of the shell. -/
def quote (t : Text) : Text :=
  if t ≠ [] && t.all isPlain then t
  else
    [39] ++ t.flatMap (fun c => if c = 39 then innerQuote else [c]) ++ [39]

/-- The line that sets the prompt. -/
def promptLine (d : Text) : Text :=
  Environment.promptName ++ [Trace.equals] ++ quote (Trace.prompt d)

/-- The line that reads another file. -/
def sourceLine (path : Text) : Text := (". " : Text) ++ quote path

/-- The content of the file, for the caller's own startup file. -/
def content (d : Text) (callers : Option Text) : Text :=
  let lines :=
    match callers with
    | some path => if path = [] then [promptLine d] else [promptLine d, sourceLine path]
    | none => [promptLine d]
  lines.flatMap (· ++ [10])

/-- How the name of the file begins. -/
def namePrefix : Text := "shcov-"

/-- How the name of the file ends. -/
def nameSuffix : Text := ".bash"

/-- The bytes of the file. Surrogates cannot be written. -/
def write (d : Text) (callers : Option Text) : Except FileError Bytes :=
  let t := content d callers
  match FileSystem.unencodable? CodePoint.isSurrogate t with
  | some e => .error e
  | none => .ok t.toWideBytes

end ShellCoverage.StartupFile
