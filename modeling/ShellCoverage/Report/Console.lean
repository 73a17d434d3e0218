import ShellCoverage.FileSystem.Lookup
import ShellCoverage.Json.Writer
import ShellCoverage.Report.Combine

/-!
# Summaries

A summary is shown as JSON, or on a terminal: as a panel with the title, a table with a row per file, and a line with
the totals. Texts carry style marks such as `[bold]`, which the terminal renders.

* `Report.LineTotals` : the numbers of relevant and of covered lines;
* `Report.LineTotals.percent` : the covered share, with two places;
* `Report.summarize` : the totals of each file, by ascending path, and of all files;
* `Report.Summary.toValue` : a summary as JSON;
* `Console.Item` : what is shown on a terminal; `Console.Item.plain` : an item without styles;
* `Console.ofSummary` : the items of a summary.
-/

namespace ShellCoverage.Report
open Json

/-! ## Totals -/

/-- The numbers of relevant and of covered lines. -/
structure LineTotals where
  relevant : Nat
  covered : Nat
  deriving DecidableEq

namespace LineTotals

/-- The totals of an array: an item that is not null is relevant, one that counts is covered. -/
def ofItems (vs : List Value) : LineTotals :=
  ⟨vs.countP fun v => !v.isNull, vs.countP Value.isTrue⟩

/-- The totals of two sets of lines together. -/
def add (a b : LineTotals) : LineTotals := ⟨a.relevant + b.relevant, a.covered + b.covered⟩

/-- The number of lines that did not run. Values of other tools may count without being relevant. -/
def missed (t : LineTotals) : Int := (t.relevant : Int) - t.covered

/-- The covered share of the relevant lines in percent, rounded to two places. -/
def percent (t : LineTotals) : Float :=
  if t.relevant = 0 then 100.0
  else Decimal.Literal.roundTo 2 (Float.ofNat t.covered * 100.0 / Float.ofNat t.relevant)

end LineTotals

/-- The totals of some files. -/
structure Summary where
  /-- The totals of each file. -/
  files : List (Text × LineTotals)
  deriving DecidableEq

/-- The totals of all files together. -/
def Summary.total (s : Summary) : LineTotals := s.files.foldl (fun t f => t.add f.2) ⟨0, 0⟩

/-- The summary of arrays that may be any values, by ascending path. -/
def summarizeValues (r : List (Text × Value)) : Except DataError Summary :=
  ((sortByPath r).mapM fileTotals).map fun files => ⟨files⟩
where
  /-- The totals of a file. -/
  fileTotals (p : Text × Value) : Except DataError (Text × LineTotals) :=
    p.2.items.map fun vs => (p.1, LineTotals.ofItems vs)

/-- The summary of a result, by ascending path. -/
def summarize (r : Result) : Summary :=
  ⟨(sortByPath r).map fun p => (p.1, LineTotals.ofItems p.2)⟩

/-- The members that show totals. -/
def LineTotals.members (t : LineTotals) : List (Text × Value) :=
  [("relevant", .int t.relevant), ("covered", .int t.covered), ("missed", .int t.missed),
    ("percent", .float t.percent)]

/-- A summary as a value. -/
def Summary.toValue (s : Summary) : Value :=
  .object
    [("files", .list (s.files.map fun f => .object (("path", .text f.1) :: f.2.members))),
      ("total", .object (("files", .int s.files.length) :: s.total.members))]

/-- A summary as JSON, with a line break at the end. -/
def Summary.render (s : Summary) : Text :=
  match Json.render s.toValue with
  | .ok t => t ++ [10]
  | .error (t, _) => t

end ShellCoverage.Report

namespace ShellCoverage.Console
open Report

/-! ## Summaries on a terminal -/

/-- Where the cells of a column stand. -/
inductive Align where
  | left
  | right
  deriving DecidableEq, Repr

/-- The name of an alignment. -/
def Align.name : Align → Text
  | .left => "left"
  | .right => "right"

/-- The head of a column. -/
structure Column where
  header : Text
  align : Align
  style : Text

/-- Something that is shown on the terminal. -/
inductive Item where
  | panel (text : Text)
  | table (title : Text) (columns : List Column) (rows : List (List Text))
  | line (text : Text)

/-- The names of the styles in texts. -/
def styles : List Text := ["bold cyan", "bold", "dim", "blue", "yellow"]

/-- A text without style marks. -/
def unstyled (t : Text) : Text :=
  styles.foldl (fun t s =>
    let without (mark : Text) (t : Text) : Text := Text.join [] (Text.splitOn mark t)
    without (("[/" : Text) ++ s ++ "]") (without (("[" : Text) ++ s ++ "]") t)) t

/-- An item without styles: the cells of a table stand between tabulators. -/
def Item.plain : Item → Text
  | .panel t | .line t => unstyled t
  | .table title columns rows =>
    let tab : Text := [9]
    let lines := title :: Text.join tab (columns.map (·.header)) :: rows.map (Text.join tab)
    unstyled (Text.join [10] lines)

/-- The number of blocks of a full bar. -/
def barWidth : Nat := 20

/-- The columns of the table of files. -/
def columns : List Column :=
  [⟨"File", .left, "cyan"⟩, ⟨"Relevant", .right, ""⟩, ⟨"Covered", .right, "green"⟩,
    ⟨"Missed", .right, "red"⟩, ⟨"Coverage", .right, "yellow"⟩, ⟨"Bar", .left, "blue"⟩]

/-- A number with commas between groups of three digits. -/
def groupedInt (n : Int) : Text :=
  (if n < 0 then ("-" : Text) else []) ++ Numeral.grouped n.natAbs

/-- A bar that is as full as a percentage says. -/
def bar (percent : Float) : Text :=
  List.replicate (percent / 100.0 * Float.ofNat barWidth).toUInt64.toNat 0x2588

/-- A path seen from the root, if it is below it. -/
def displayPath (root : Option Text) (path : Text) : Text :=
  match root.bind fun r => (Path.ofText path).relativeTo? (Path.ofText r) with
  | some p => p.toText
  | none => path

/-- The row of a file. -/
def row (root : Option Text) (f : Text × LineTotals) : List Text :=
  let t := f.2
  [displayPath root f.1, Numeral.grouped t.relevant, Numeral.grouped t.covered,
    groupedInt t.missed, Decimal.Literal.fixed 1 t.percent ++ ("%" : Text),
    ("[blue]" : Text) ++ bar t.percent ++ "[/blue]"]

/-- The line with the totals. -/
def totalLine (s : Summary) : Text :=
  let t := s.total
  ("[bold]" : Text) ++ Numeral.grouped t.covered ++ " / " ++ Numeral.grouped t.relevant ++
    " lines covered (" ++ Decimal.Literal.fixed 2 t.percent ++ "%) in " ++
    Text.ofNat s.files.length ++ " files[/bold]"

/-- The items of a summary. -/
def ofSummary (s : Summary) (title : Text) (root : Option Text) : List Item :=
  let head : Item :=
    .panel (("[bold cyan]Shell Coverage[/bold cyan]\n[dim]" : Text) ++ title ++ "[/dim]")
  if s.files = [] then [head, .line "[yellow]no shell files were covered[/yellow]"]
  else
    [head, .table "[bold]Coverage by File[/bold]" columns (s.files.map (row root)),
      .line (totalLine s)]

end ShellCoverage.Console
