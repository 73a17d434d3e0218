import Mathlib.Data.List.TakeWhile
import ShellCoverage.Proofs.Text.DecimalDigits
import ShellCoverage.Proofs.Text.Occurrence
import ShellCoverage.Trace.Record

/-!
# The pieces of a trace line

What a shell prints for a traced command is the join, by the delimiter, of its depth marks, its five
labelled fields and its text (`Command.render_eq_join`). Reading works on such pieces.

* `Command.record` : the record that a command stands for;
* `Command.brackets` : the places of the six delimiters between the pieces;
* `readPieces_of_short`, `readPieces_of_long` : a line with too few or too many pieces is no record;
* `readPieces_of_fields` : seven pieces with their labels and a line number are a record;
* `readPieces_cases` : what reading pieces can come to.
-/

namespace ShellCoverage.Trace

/-! ## Outcomes -/

/-- The line is no record, and tracing goes on. -/
def Reading.isPassedOver : Reading → Bool
  | .other | .truncated | .mislabelled _ => true
  | _ => false

/-- Tracing cannot go on after the line. -/
def Reading.isFatal : Reading → Bool
  | .collision | .badLine _ => true
  | _ => false

theorem Reading.record?_of_isPassedOver {q : Reading} (h : q.isPassedOver = true) :
    q.record? = none := by
  cases q <;> first | rfl | cases h

theorem Reading.isFatal_of_isPassedOver {q : Reading} (h : q.isPassedOver = true) :
    q.isFatal = false := by
  cases q <;> first | rfl | cases h

/-! ## Line ends -/

/-- A character that ends a line. -/
def isLineEnd (c : CodePoint) : Bool := c = 13 || c = 10

theorem chomp_eq (t : Text) : chomp t = (t.reverse.dropWhile isLineEnd).reverse := rfl

theorem chomp_append_cons (a b : Text) {c : CodePoint} (hc : isLineEnd c = false) :
    chomp (a ++ c :: b) = a ++ c :: chomp b := by
  rw [chomp_eq, chomp_eq, List.reverse_append, List.reverse_cons, List.append_assoc,
    List.dropWhile_append]
  cases hb : b.reverse.dropWhile isLineEnd with
  | nil => simp [hc]
  | cons x xs => simp

theorem chomp_append_of_lineEnds (a : Text) {b : Text} (hb : ∀ c ∈ b, isLineEnd c = true) :
    chomp (a ++ b) = chomp a := by
  have hdrop : b.reverse.dropWhile isLineEnd = [] :=
    List.dropWhile_eq_nil_iff.2 fun c hc => hb c (List.mem_reverse.1 hc)
  rw [chomp_eq, chomp_eq, List.reverse_append, List.dropWhile_append, hdrop, List.isEmpty_nil, if_pos rfl]

theorem chomp_prefix (t : Text) : chomp t <+: t := by
  rw [chomp_eq, ← List.reverse_suffix, List.reverse_reverse]
  exact List.dropWhile_suffix isLineEnd

/-! ## Fields -/

/-- A field with its label. -/
def labelled (f : Field) (v : Text) : Text := f.label ++ [equals] ++ v

/-- The fields with these values. -/
def fieldsWith (source line pwd oldpwd dirstack : Text) : Field → Text
  | .source => source
  | .line => line
  | .pwd => pwd
  | .oldpwd => oldpwd
  | .dirstack => dirstack

theorem equals_notMem_label (f : Field) : equals ∉ f.label := by cases f <;> decide

theorem fieldValue?_eq_some_iff {f : Field} {p v : Text} :
    fieldValue? f p = some v ↔ p = labelled f v := by
  have hsplit := List.takeWhile_append_dropWhile (p := (· ≠ equals)) (l := p)
  constructor
  · intro h
    rw [fieldValue?] at h
    generalize hn : p.takeWhile (· ≠ equals) = n at h hsplit
    have hdrop : p.drop n.length = p.dropWhile (· ≠ equals) := by
      conv_lhs => rw [← hsplit]
      rw [List.drop_left]
    rw [hdrop] at h
    cases hd : p.dropWhile (· ≠ equals) with
    | nil => rw [hd] at h; cases h
    | cons c r =>
      have hc : c = equals := by
        have hhead := List.head?_dropWhile_not (· ≠ equals) p
        rw [hd] at hhead
        simpa using hhead
      rw [hd] at h hsplit
      simp only [Option.ite_none_right_eq_some, Option.some.injEq] at h
      obtain ⟨rfl, rfl⟩ := h
      rw [← hsplit, hc, labelled, List.append_assoc, List.singleton_append]
  · rintro rfl
    have hname : (labelled f v).takeWhile (· ≠ equals) = f.label := by
      rw [labelled, List.append_assoc, List.takeWhile_append_of_pos]
      · simp
      · intro c hc
        simpa using fun e : c = equals => equals_notMem_label f (e ▸ hc)
    have hdrop : (labelled f v).drop f.label.length = equals :: v := by
      rw [labelled, List.append_assoc, List.drop_left]
      rfl
    rw [fieldValue?, hname]
    simp only [hdrop, if_true]

/-- Pieces that carry their labels give the values. -/
theorem fieldValues_labelled (fs : List Field) (value : Field → Text) (rest : List Text) :
    fieldValues fs ((fs.map fun f => labelled f (value f)) ++ rest) = .ok (fs.map value) := by
  induction fs with
  | nil => cases rest <;> rfl
  | cons f fs ih =>
    rw [List.map_cons, List.cons_append, fieldValues, fieldValue?_eq_some_iff.2 rfl]
    simp only [ih, Except.map, List.map_cons]

theorem fieldValues_cons_eq_ok {f : Field} {fs : List Field} {p : Text} {ps vs : List Text}
    (h : fieldValues (f :: fs) (p :: ps) = .ok vs) :
    ∃ v vs', p = labelled f v ∧ fieldValues fs ps = .ok vs' ∧ vs = v :: vs' := by
  rw [fieldValues] at h
  cases hv : fieldValue? f p with
  | none => rw [hv] at h; cases h
  | some v =>
    rw [hv] at h
    cases hr : fieldValues fs ps with
    | error e => rw [hr] at h; cases h
    | ok vs' =>
      rw [hr] at h
      cases h
      exact ⟨v, vs', fieldValue?_eq_some_iff.1 hv, rfl, rfl⟩

theorem fieldValues_eq_ok {fs : List Field} {ps vs : List Text} (hlen : fs.length ≤ ps.length)
    (h : fieldValues fs ps = .ok vs) :
    vs.length = fs.length ∧ ∃ rest, ps = List.zipWith labelled fs vs ++ rest := by
  induction fs generalizing ps vs with
  | nil =>
    cases h
    exact ⟨rfl, ps, rfl⟩
  | cons f fs ih =>
    cases ps with
    | nil => cases hlen
    | cons p ps =>
      obtain ⟨v, vs', rfl, hrest, rfl⟩ := fieldValues_cons_eq_ok h
      obtain ⟨hvs, rest, rfl⟩ := ih (Nat.le_of_succ_le_succ hlen) hrest
      exact ⟨congrArg Nat.succ hvs, rest, rfl⟩

/-! ## Reading pieces -/

/-- One or more depth marks. -/
def IsMarks (t : Text) : Prop := t ≠ [] ∧ ∀ c ∈ t, c = depthMark

theorem isMarks_iff {t : Text} : IsMarks t ↔ ¬ (t = [] || !(t.all (· = depthMark))) = true := by
  simp [IsMarks]

theorem readPieces_of_short {ps : List Text} (h : ps.length < pieceCount) :
    (readPieces ps).isPassedOver = true := by
  match ps, h with
  | [], _ => rfl
  | [_], _ => rfl
  | marks :: p :: ps, h =>
    have hlong : ¬ pieceCount < (p :: ps).length + 1 := Nat.not_lt.2 (Nat.le_of_lt h)
    rw [readPieces.eq_def]
    simp only [hlong, if_false]
    split
    · rfl
    · rw [if_pos (by simpa using h)]
      rfl

theorem readPieces_of_long {ps : List Text} (h : pieceCount < ps.length) :
    readPieces ps = .other ∨ readPieces ps = .collision := by
  match ps, h with
  | [], h => exact absurd h (by decide)
  | [p], h => exact absurd (show pieceCount < 1 from h) (by decide)
  | marks :: p :: ps, h =>
    rw [readPieces.eq_def]
    simp only
    split
    · exact Or.inl rfl
    · rw [if_pos (by simpa using h)]
      exact Or.inr rfl

/-- A line without the delimiter is one piece. -/
theorem read_of_not_contains {d line : Text} (h : Text.contains d line = false) : read d line = .other := by
  have hline := Text.contains_eq_false_iff.1 h
  have hd : d ≠ [] := fun hd => hline [] line (by simp [hd])
  have hnone : Text.cutFirst? d (chomp line) = none := by
    refine Text.cutFirst?_eq_none_iff.2 fun x y e => ?_
    obtain ⟨u, hu⟩ := chomp_prefix line
    exact hline x (y ++ u) (by rw [← hu, e, List.append_assoc])
  rw [read, Text.splitOn_of_none hd hnone]
  rfl

/-- Seven pieces of which one lacks its label are passed over. -/
theorem readPieces_of_mislabelled {marks p : Text} {ps : List Text}
    (hlen : ps.length + 1 = pieceCount) (h : fieldValues Field.all ps = .error p) :
    (readPieces (marks :: ps)).isPassedOver = true := by
  match ps, hlen with
  | [], hlen => cases hlen
  | q :: ps, hlen =>
    rw [readPieces.eq_def]
    simp only [hlen, h, Nat.lt_irrefl, if_false]
    split <;> rfl

/-- What seven pieces with their labels are depends on the line field. -/
theorem readPieces_of_values {marks source line pwd oldpwd dirstack : Text} {ps : List Text}
    (hne : marks ≠ []) (hmarks : ∀ c ∈ marks, c = depthMark) (hlen : ps.length + 1 = pieceCount)
    (h : fieldValues Field.all ps = .ok [source, line, pwd, oldpwd, dirstack]) :
    readPieces (marks :: ps) =
      if line = [] || !(line.all CodePoint.isDigit) then .other
      else
        match Numeral.readInt line with
        | .error e => .badLine e
        | .ok n => .record ⟨source, n.toNat, pwd, oldpwd, readStack dirstack⟩ := by
  match ps, hlen with
  | [], hlen => cases hlen
  | q :: ps, hlen =>
    have hall : (marks.all (· = depthMark)) = true := by simpa using hmarks
    rw [readPieces.eq_def]
    dsimp only
    rw [if_neg (by simp [hne, hall]), if_neg (by rw [hlen]; exact Nat.lt_irrefl _),
      if_neg (by rw [hlen]; exact Nat.lt_irrefl _)]
    split
    · rename_i p hvalues
      rw [h] at hvalues
      cases hvalues
    · rename_i hvalues
      rw [h] at hvalues
      cases hvalues
      rfl
    · rename_i vs hother hvalues
      rw [h] at hvalues
      cases hvalues
      exact absurd rfl (hother source line pwd oldpwd dirstack)

/-- Seven pieces with their labels and a line number are a record. -/
theorem readPieces_of_fields {marks source line pwd oldpwd dirstack : Text} {ps : List Text}
    (hne : marks ≠ []) (hmarks : ∀ c ∈ marks, c = depthMark) (hlen : ps.length + 1 = pieceCount)
    (h : fieldValues Field.all ps = .ok [source, line, pwd, oldpwd, dirstack])
    (hline : Numeral.IsDecimal line) :
    readPieces (marks :: ps) =
      .record ⟨source, Numeral.natValue line, pwd, oldpwd, readStack dirstack⟩ := by
  have hdigits : (line.all CodePoint.isDigit) = true := by
    simpa using fun c hc => Numeral.isDigit_of_isDecimal (hline.digits c hc)
  rw [readPieces_of_values hne hmarks hlen h, Numeral.readInt_of_isDecimal hline]
  simp [hline.ne_nil, hdigits]

theorem readPieces_of_many {marks : Text} {ps : List Text} (hmarks : IsMarks marks)
    (hlen : pieceCount ≤ ps.length) : readPieces (marks :: ps) = .collision := by
  match ps, hlen with
  | [], hlen => exact absurd hlen (by decide)
  | p :: ps, hlen =>
    rw [readPieces.eq_def]
    dsimp only
    rw [if_neg (isMarks_iff.1 hmarks), if_pos (Nat.lt_succ_of_le hlen)]

/-- What reading pieces can come to: they are passed over, or there are too many of them after the marks, or they are
the marks, the labelled fields and a command, the line field being made of digits. -/
theorem readPieces_cases (ps : List Text) :
    (readPieces ps).isPassedOver = true ∨
      (∃ marks rest, ps = marks :: rest ∧ IsMarks marks ∧ pieceCount ≤ rest.length) ∨
      ∃ (marks : Text) (value : Field → Text) (tail : Text),
        ps = marks :: ((Field.all.map fun f => labelled f (value f)) ++ [tail]) ∧ IsMarks marks ∧
        value .line ≠ [] ∧ ∀ c ∈ value .line, c.isDigit = true := by
  match ps with
  | [] | [_] => exact Or.inl rfl
  | marks :: p :: fields =>
    rw [readPieces.eq_def]
    dsimp only
    split
    · exact Or.inl rfl
    rename_i hmarks
    split
    · rename_i hlong
      exact Or.inr (Or.inl ⟨marks, p :: fields, rfl, isMarks_iff.2 hmarks, Nat.le_of_lt_succ hlong⟩)
    rename_i hlong
    split
    · exact Or.inl rfl
    rename_i hshort
    have hlen : (p :: fields).length = 6 := by
      simp only [pieceCount, Field.all, List.length_cons, List.length_nil] at hlong hshort ⊢
      omega
    split
    · exact Or.inl rfl
    · rename_i source line pwd oldpwd dirstack hvalues
      split
      · exact Or.inl rfl
      rename_i hline
      obtain ⟨-, rest, hrest⟩ := fieldValues_eq_ok (by rw [hlen]; decide) hvalues
      obtain ⟨tail, rfl⟩ : ∃ tail, rest = [tail] := by
        refine List.length_eq_one_iff.1 ?_
        rw [hrest] at hlen
        simpa [Field.all] using hlen
      simp only [Bool.or_eq_true, decide_eq_true_eq, Bool.not_eq_true', not_or, Bool.not_eq_false,
        List.all_eq_true] at hline
      exact Or.inr (Or.inr ⟨marks, fieldsWith source line pwd oldpwd dirstack, tail, congrArg (marks :: ·) hrest,
        isMarks_iff.2 hmarks, hline.1, hline.2⟩)
    · exact Or.inl rfl

/-! ## Commands -/

namespace Command

/-- What stands between the delimiters of a command's line. -/
def pieces (c : Command) : List Text :=
  List.replicate c.depth depthMark :: (Field.all.map fun f => labelled f (c.value f)) ++
    [CodePoint.ofChar ' ' :: c.tail]

/-- The places of the six delimiters between the pieces of a command's line. -/
def brackets (d : Text) (c : Command) : List Nat := Text.boundaries d 0 c.pieces

/-- The record that a command stands for. -/
def record (c : Command) : Record :=
  ⟨c.value .source, Numeral.natValue (c.value .line), c.value .pwd, c.value .oldpwd,
    readStack (c.value .dirstack)⟩

/-- The line is the join of its pieces. -/
theorem render_eq_join (d : Text) (c : Command) : c.render d = Text.join d c.pieces := by
  simp [render, body, fieldText, pieces, labelled, Field.all, Text.join, List.intercalate,
    List.append_assoc]

/-- The prompt is the line of a command of depth one whose values are the expansions. -/
theorem render_expansion (d : Text) : (Command.mk 1 Field.expansion []).render d = prompt d := by
  simp [render, prompt]

/-- Line ends at the end of a line belong to the command's text. -/
theorem chomp_render (d run : Text) (c : Command) (hrun : ∀ x ∈ run, isLineEnd x = true) :
    chomp (c.render d ++ run) = Command.render d { c with tail := chomp c.tail } := by
  have hspace : isLineEnd (CodePoint.ofChar ' ') = false := by decide
  rw [chomp_append_of_lineEnds _ hrun]
  have hsplit : c.render d = List.replicate c.depth depthMark ++ Field.all.flatMap (fieldText d c.value) ++
      d ++ CodePoint.ofChar ' ' :: c.tail := by
    simp [render, body, List.append_assoc]
  rw [hsplit, chomp_append_cons _ _ hspace]
  simp [render, body, List.append_assoc]

end Command

end ShellCoverage.Trace
