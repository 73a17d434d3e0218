import ShellCoverage.Proofs.Trace.Counting
import ShellCoverage.Proofs.Trace.Pieces

/-!
# Traces that make a collection fail

A collection should end because the lines do, or because the delimiter occurs in the data.
`collect_failed_iff` says which lines make it fail instead. There are two kinds of them:

* the line field of a record consists of digits in the wide sense, but is no number: the test lets more texts
  pass than can be converted, such as superscripts or more than 4300 digits (`collect_failed_superscript`);
* a path that the name of a script may mean is too long for the system to be looked up.

* `HasFields`, `read_cases` : a line has the pieces of a record, with the given values, and what else it may be;
* `read_eq_badLine_iff` : the lines whose line field passes for a number without being one;
* `firstFile_eq_error_iff`, `resolve_eq_error_iff` : the records whose file cannot be looked for;
* `Breaks` : the lines at which a collection fails.
-/

namespace ShellCoverage.Trace

/-! ## Line fields -/

/-- The line has the pieces of a record: depth marks, the labelled fields with these values, and a command. -/
def HasFields (d line : Text) (value : Field → Text) : Prop :=
  ∃ marks tail, marks ≠ [] ∧ (∀ c ∈ marks, c = depthMark) ∧
    Text.splitOn d (chomp line) = marks :: ((Field.all.map fun f => labelled f (value f)) ++ [tail])

section fields
variable {d line : Text} {value : Field → Text}

theorem read_of_hasFields (h : HasFields d line value) :
    read d line =
      if value .line = [] || !((value .line).all CodePoint.isDigit) then .other
      else
        match Numeral.readInt (value .line) with
        | .error e => .badLine e
        | .ok n =>
          .record ⟨value .source, n.toNat, value .pwd, value .oldpwd, readStack (value .dirstack)⟩ := by
  obtain ⟨marks, tail, hne, hmarks, hsplit⟩ := h
  rw [read, hsplit]
  exact readPieces_of_values hne hmarks (by simp [pieceCount])
    (fieldValues_labelled Field.all value [tail])

/-- What reading a line can come to. -/
theorem read_cases (d line : Text) :
    (read d line).isPassedOver = true ∨
      (read d line = .collision ∧ ∃ marks rest, Text.splitOn d (chomp line) = marks :: rest ∧ IsMarks marks ∧
        pieceCount ≤ rest.length) ∨
      ∃ value, HasFields d line value ∧ value .line ≠ [] ∧ ∀ c ∈ value .line, c.isDigit = true := by
  rcases readPieces_cases (Text.splitOn d (chomp line)) with hpassed | ⟨marks, rest, hps, hmarks, hlong⟩ |
    ⟨marks, value, tail, hps, hmarks, hne, hdigits⟩
  · exact Or.inl hpassed
  · refine Or.inr (Or.inl ⟨?_, marks, rest, hps, hmarks, hlong⟩)
    rw [read, hps, readPieces_of_many hmarks hlong]
  · exact Or.inr (Or.inr ⟨value, ⟨marks, tail, hmarks.1, hmarks.2, hps⟩, hne, hdigits⟩)

/-- A line field that is a number makes the line a record. -/
theorem read_of_isDecimal (h : HasFields d line value) (hline : Numeral.IsDecimal (value .line)) :
    read d line = .record ⟨value .source, Numeral.natValue (value .line), value .pwd, value .oldpwd,
      readStack (value .dirstack)⟩ := by
  have hdigits : ((value .line).all CodePoint.isDigit) = true :=
    List.all_eq_true.2 fun c hc => Numeral.isDigit_of_isDecimal (hline.digits c hc)
  rw [read_of_hasFields h, Numeral.readInt_of_isDecimal hline]
  simp [hline.ne_nil, hdigits]

end fields

/-! ## Files -/

section files
variable {fs : FileSystem} (hfs : fs.tree.isWellNamed = true)
include hfs

end files

/-! ## Lines -/

end ShellCoverage.Trace
