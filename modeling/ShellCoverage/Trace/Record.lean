import ShellCoverage.Log
import ShellCoverage.Text.Numeral
import ShellCoverage.Trace.Prompt

/-!
# Trace records

`Trace.read d line` takes a line of trace output apart. A line is a record when it starts with depth
marks followed by the delimiter, splits into the expected number of pieces, and every piece carries its
label. Any other line is data that shares the stream: continuation lines and the output of scripts.

More pieces than expected mean that the delimiter occurs in the data. The boundaries of the fields can
then not be trusted, and tracing must stop.

* `Trace.Record` : what a line says;
* `Trace.Reading` : the outcome for one line, with the reason why it is no record;
* `Trace.read` : the reader;
* `Trace.Reading.log` : what an operator is told.
-/

namespace ShellCoverage.Trace

/-- What a trace line says about a command. -/
structure Record where
  /-- The name of the file as the shell has it: it may be relative or empty. -/
  source : Text
  line : Nat
  pwd : Text
  oldpwd : Text
  /-- The directory stack, the most recent entry last. -/
  dirstack : List Text
  deriving DecidableEq

/-- The outcome for one line. -/
inductive Reading where
  /-- A record. -/
  | record (r : Record)
  /-- Data that only shares the stream. -/
  | other
  /-- A record that was cut off. -/
  | truncated
  /-- A record with this piece in the place of a labelled field. -/
  | mislabelled (piece : Text)
  /-- A record whose line field consists of digits but is no number that can be read. -/
  | badLine (e : Numeral.Error)
  /-- The delimiter occurs in the data. -/
  | collision
  deriving DecidableEq

namespace Reading

/-- The record of an outcome, if it is one. -/
def record? : Reading → Option Record
  | record r => some r
  | _ => none

end Reading

/-- The number of pieces of a record: depth marks, fields, command. -/
def pieceCount : Nat := Field.all.length + 2

/-- The line without the line break at its end. -/
def chomp (t : Text) : Text := t.trimRight fun c => c = 13 || c = 10

/-- The value of a piece that carries the label of a field. -/
def fieldValue? (f : Field) (piece : Text) : Option Text :=
  let name := piece.takeWhile (· ≠ equals)
  match piece.drop name.length with
  | [] => none
  | _ :: v => if name = f.label then some v else none

/-- The values of the fields, or the first piece without its label. -/
def fieldValues : List Field → List Text → Except Text (List Text)
  | f :: fs, p :: ps =>
    match fieldValue? f p with
    | none => .error p
    | some v => (fieldValues fs ps).map (v :: ·)
  | _, _ => .ok []

/-- The entries of a directory stack field, the most recent last. The shell puts a blank between
entries. -/
def readStack (raw : Text) : List Text :=
  (trimEntries ((Text.splitAt stackMark raw).drop 1)).reverse
where
  /-- All entries but the last without the blank at their end. -/
  trimEntries : List Text → List Text
    | [] => []
    | [e] => [e]
    | e :: es =>
      (if e.getLast? = some (CodePoint.ofChar ' ') then e.dropLast else e) :: trimEntries es

/-- The outcome for the pieces of a line. -/
def readPieces : List Text → Reading
  | [] => .other
  | [_] => .other
  | marks :: pieces =>
    if marks = [] || !(marks.all (· = depthMark)) then .other
    else if pieceCount < pieces.length + 1 then .collision
    else if pieces.length + 1 < pieceCount then .truncated
    else
      match fieldValues Field.all pieces with
      | .error p => .mislabelled p
      | .ok [source, line, pwd, oldpwd, dirstack] =>
        if line = [] || !(line.all CodePoint.isDigit) then .other
        else
          match Numeral.readInt line with
          | .error e => .badLine e
          | .ok n => .record ⟨source, n.toNat, pwd, oldpwd, readStack dirstack⟩
      | .ok _ => .other

/-- The outcome for one line of trace output. -/
def read (d line : Text) : Reading := readPieces (Text.splitOn d (chomp line))

/-- The message of a collision. -/
def collisionMessage : Text :=
  "trace delimiter found inside traced data; field boundaries can no longer be trusted"

/-- What an operator is told about the outcome for a line. -/
def Reading.log (line : Text) : Reading → List Log.Entry
  | .collision =>
    [⟨.error, .trace, ("delimiter collision in trace line: " : Text) ++ (chomp line).quoted⟩]
  | .truncated =>
    [⟨.debug, .trace, ("truncated trace record: " : Text) ++ (chomp line).quoted⟩]
  | .mislabelled p =>
    [⟨.debug, .trace,
      ("mislabelled trace field " : Text) ++ p.quoted ++ " in " ++ (chomp line).quoted⟩]
  | _ => []

end ShellCoverage.Trace
