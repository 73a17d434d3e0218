import ShellCoverage.Proofs.Text.Splitting
import ShellCoverage.Proofs.Trace.Failing

/-!
# The grammar of trace lines

Reading a line cuts it at the delimiter and then makes one check after the other. What comes of it can be said
without cutting: a record is a line that a grammar derives, and a collision is a line that starts like one and has
more delimiters than a record. The delimiter may be any text, also one that overlaps itself.

* `Derives` : the grammar;
* `derives_iff` : what is derived is what the cutting gives, hence `Derives.unique`;
* `Overflows`, `overflows_iff` : the lines with too many delimiters;
* `read_eq_record_iff`, `read_eq_collision_iff` : one statement for each outcome;
* `read_by_grammar` : all of it.
-/

namespace ShellCoverage.Trace

/-! ## Derivations -/

/-- The grammar derives `t`: depth marks and the labelled fields, each with a delimiter after it, and a command. These
delimiters are the first ones after the beginning of their piece, and the command has none. -/
structure Derives (d t marks : Text) (value : Field → Text) (tail : Text) : Prop where
  eq : t = marks ++ d ++ (Field.all.flatMap fun f => labelled f (value f) ++ d) ++ tail
  isMarks : IsMarks marks
  endsFirst_marks : Text.EndsFirst d marks
  endsFirst_field : ∀ f, Text.EndsFirst d (labelled f (value f))
  tail_free : Text.occurrences d tail = []

/-- The record with these values. -/
def recordWith (value : Field → Text) : Record :=
  ⟨value .source, Numeral.natValue (value .line), value .pwd, value .oldpwd, readStack (value .dirstack)⟩

section derivations
variable {d t : Text}

theorem mem_all (f : Field) : f ∈ Field.all := by
  cases f <;> decide

theorem labelled_injective (f : Field) : Function.Injective (labelled f) := by
  intro v w h
  unfold labelled at h
  exact List.append_cancel_left h

/-- A text that has a delimiter after each of its pieces is a join of them. -/
theorem join_pieces (d marks : Text) (ps : List Text) (tail : Text) :
    Text.join d (marks :: (ps ++ [tail])) = marks ++ d ++ (ps.flatMap fun p => p ++ d) ++ tail := by
  induction ps generalizing marks with
  | nil => simp [Text.join_cons_cons, Text.join_singleton]
  | cons p ps ih =>
    rw [Text.join_cons_concat, List.cons_append, ih p]
    simp only [List.flatMap_cons, List.append_assoc]

/-- What the grammar derives is what cutting at the delimiter gives. -/
theorem derives_iff (hd : d ≠ []) {marks tail : Text} {value : Field → Text} :
    Derives d t marks value tail ↔
      IsMarks marks ∧ Text.splitOn d t = marks :: ((Field.all.map fun f => labelled f (value f)) ++ [tail]) := by
  have hpieces : Text.splitOn d t = (marks :: Field.all.map fun f => labelled f (value f)) ++ [tail] ↔ _ :=
    Text.splitOn_eq_iff hd
  rw [List.cons_append, join_pieces, List.flatMap_map, List.forall_mem_cons, List.forall_mem_map] at hpieces
  rw [hpieces]
  constructor
  · intro h
    exact ⟨h.isMarks, h.eq, ⟨h.endsFirst_marks, fun f _ => h.endsFirst_field f⟩, h.tail_free⟩
  · rintro ⟨hmarks, heq, ⟨hfirst, hfields⟩, htail⟩
    exact ⟨heq, hmarks, hfirst, fun f => hfields f (mem_all f), htail⟩

/-- The grammar is unambiguous. -/
theorem Derives.unique (hd : d ≠ []) {marks marks' tail tail' : Text} {value value' : Field → Text}
    (h : Derives d t marks value tail) (h' : Derives d t marks' value' tail') :
    marks = marks' ∧ value = value' ∧ tail = tail' := by
  have hsplit := ((derives_iff hd).1 h).2
  rw [((derives_iff hd).1 h').2] at hsplit
  obtain ⟨hmarks, hrest⟩ := List.cons.inj hsplit
  obtain ⟨hfields, htail⟩ := List.append_inj hrest (by simp)
  refine ⟨hmarks.symm, ?_, (List.cons.inj htail).1.symm⟩
  funext f
  exact labelled_injective f (List.map_inj_left.1 hfields f (mem_all f)).symm

/-- Lines with the pieces of a record are those that are derived. -/
theorem hasFields_iff (hd : d ≠ []) {line : Text} {value : Field → Text} :
    HasFields d line value ↔ ∃ marks tail, Derives d (chomp line) marks value tail := by
  unfold HasFields
  simp only [derives_iff hd, IsMarks, and_assoc]

end derivations

/-! ## Too many delimiters -/

/-- The text starts with depth marks up to the first delimiter, and it has as many delimiters as a record has pieces,
no two of which overlap. -/
structure Overflows (d t : Text) : Prop where
  starts : ∃ marks rest, t = marks ++ d ++ rest ∧ Text.EndsFirst d marks ∧ IsMarks marks
  overflows : ∃ is, pieceCount ≤ is.length ∧ (∀ i ∈ is, i ∈ Text.occurrences d t) ∧ Text.AreApart d is

theorem overflows_iff {d t : Text} (hd : d ≠ []) :
    Overflows d t ↔ ∃ marks rest, Text.splitOn d t = marks :: rest ∧ IsMarks marks ∧ pieceCount ≤ rest.length := by
  constructor
  · rintro ⟨⟨marks, rest, heq, hfirst, hmarks⟩, hmany⟩
    have hcut := Text.cutFirst?_eq_some_iff_endsFirst.2 ⟨heq, hfirst⟩
    have hlt := (Text.lt_length_splitOn_iff hd).2 hmany
    rw [Text.splitOn_of_cutFirst? hd hcut, List.length_cons] at hlt
    exact ⟨marks, Text.splitOn d rest, Text.splitOn_of_cutFirst? hd hcut, hmarks, Nat.le_of_lt_succ hlt⟩
  · rintro ⟨marks, rest, hsplit, hmarks, hlong⟩
    refine ⟨?_, (Text.lt_length_splitOn_iff hd).1 ?_⟩
    · cases hcut : Text.cutFirst? d t with
      | none =>
        rw [Text.splitOn_of_none hd hcut] at hsplit
        rw [← (List.cons.inj hsplit).2] at hlong
        exact absurd hlong (by decide)
      | some r =>
        rw [Text.splitOn_of_cutFirst? hd hcut] at hsplit
        obtain ⟨heq, hfirst⟩ := Text.cutFirst?_eq_some_iff_endsFirst.1 hcut
        rw [(List.cons.inj hsplit).1] at heq hfirst
        exact ⟨marks, r.2, heq, hfirst, hmarks⟩
    · rw [hsplit, List.length_cons]
      exact Nat.lt_succ_of_le hlong

/-! ## Reading -/

section reading
variable {d line : Text}

theorem read_eq_collision_iff (hd : d ≠ []) : read d line = .collision ↔ Overflows d (chomp line) := by
  rw [overflows_iff hd]
  constructor
  · intro h
    rcases read_cases d line with hpassed | ⟨-, hmany⟩ | ⟨value, hfields, -⟩
    · rw [h] at hpassed
      cases hpassed
    · exact hmany
    · -- a line with the pieces of a record is none with too many
      rw [read_of_hasFields hfields] at h
      split at h
      · cases h
      · split at h <;> cases h
  · rintro ⟨marks, rest, hsplit, hmarks, hlong⟩
    rw [read, hsplit]
    exact readPieces_of_many hmarks hlong

theorem read_of_derives (hd : d ≠ []) {marks tail : Text} {value : Field → Text}
    (h : Derives d (chomp line) marks value tail) (hline : ¬ Numeral.IsUnconvertible (value .line))
    (hne : value .line ≠ []) (hdigits : ∀ c ∈ value .line, c.isDecimal = true) :
    read d line = .record (recordWith value) := by
  have hdecimal : Numeral.IsDecimal (value .line) := by
    by_contra hnot
    exact hline ⟨hne, fun c hc => Numeral.isDigit_of_isDecimal (hdigits c hc), hnot⟩
  exact read_of_isDecimal ((hasFields_iff hd).2 ⟨marks, tail, h⟩) hdecimal

/-- What reading a line comes to if its line field does not pass for a number without being one. -/
theorem read_trichotomy (hd : d ≠ [])
    (hline : ∀ marks value tail, Derives d (chomp line) marks value tail →
      ¬ Numeral.IsUnconvertible (value .line)) :
    (read d line).isPassedOver = true ∨ read d line = .collision ∨
      ∃ marks value tail, Derives d (chomp line) marks value tail ∧ value .line ≠ [] ∧
        (∀ c ∈ value .line, c.isDecimal = true) ∧ read d line = .record (recordWith value) := by
  rcases read_cases d line with hpassed | ⟨hcollision, -⟩ | ⟨value, hfields, hne, hdigits⟩
  · exact Or.inl hpassed
  · exact Or.inr (Or.inl hcollision)
  · obtain ⟨marks, tail, h⟩ := (hasFields_iff hd).1 hfields
    have hdecimal : Numeral.IsDecimal (value .line) := by
      by_contra hnot
      exact hline marks value tail h ⟨hne, hdigits, hnot⟩
    exact Or.inr (Or.inr ⟨marks, value, tail, h, hne, hdecimal.digits, read_of_isDecimal hfields hdecimal⟩)

theorem read_eq_record_iff (hd : d ≠ [])
    (hline : ∀ marks value tail, Derives d (chomp line) marks value tail →
      ¬ Numeral.IsUnconvertible (value .line)) (r : Record) :
    read d line = .record r ↔
      ∃ marks value tail, Derives d (chomp line) marks value tail ∧ value .line ≠ [] ∧
        (∀ c ∈ value .line, c.isDecimal = true) ∧ r = recordWith value := by
  constructor
  · intro h
    rcases read_trichotomy hd hline with hpassed | hcollision | ⟨marks, value, tail, hderives, hne, hdigits, hread⟩
    · rw [h] at hpassed
      cases hpassed
    · rw [h] at hcollision
      cases hcollision
    · rw [h] at hread
      exact ⟨marks, value, tail, hderives, hne, hdigits, Reading.record.inj hread⟩
  · rintro ⟨marks, value, tail, hderives, hne, hdigits, rfl⟩
    exact read_of_derives hd hderives (hline marks value tail hderives) hne hdigits

end reading

/-- **Reading decides the grammar.** Take any delimiter and a line, less the line ends after it; only a line field that
passes for a number without being one is left out. The line is a record just if the grammar derives it with a run of
decimal digits for the line. There is one derivation then, and the record has its values. The line is a collision just
if it starts with depth marks and has more delimiters than a record. Any other line is passed over. -/
theorem read_by_grammar {d : Text} (hd : d ≠ []) (line : Text)
    (hline : ∀ marks value tail, Derives d (chomp line) marks value tail →
      ¬ Numeral.IsUnconvertible (value .line)) :
    (∀ r, read d line = .record r ↔
      ∃ marks value tail, Derives d (chomp line) marks value tail ∧ value .line ≠ [] ∧
        (∀ c ∈ value .line, c.isDecimal = true) ∧ r = recordWith value) ∧
    (∀ marks value tail marks' value' tail', Derives d (chomp line) marks value tail →
      Derives d (chomp line) marks' value' tail' → marks = marks' ∧ value = value' ∧ tail = tail') ∧
    (read d line = .collision ↔ Overflows d (chomp line)) ∧
    ((read d line).isPassedOver = true ↔
      (¬ ∃ marks value tail, Derives d (chomp line) marks value tail ∧ value .line ≠ [] ∧
        ∀ c ∈ value .line, c.isDecimal = true) ∧
      ¬ Overflows d (chomp line)) := by
  refine ⟨read_eq_record_iff hd hline, fun _ _ _ _ _ _ h h' => h.unique hd h', read_eq_collision_iff hd, ?_⟩
  rw [← read_eq_collision_iff hd]
  constructor
  · intro hpassed
    refine ⟨?_, fun hcollision => ?_⟩
    · rintro ⟨marks, value, tail, hderives, hne, hdigits⟩
      rw [read_of_derives hd hderives (hline marks value tail hderives) hne hdigits] at hpassed
      cases hpassed
    · rw [hcollision] at hpassed
      cases hpassed
  · rintro ⟨hno, hfew⟩
    rcases read_trichotomy hd hline with hpassed | hcollision | ⟨marks, value, tail, hderives, hne, hdigits, -⟩
    · exact hpassed
    · exact absurd hcollision hfew
    · exact absurd ⟨marks, value, tail, hderives, hne, hdigits⟩ hno

theorem read_by_grammar_overlap :
    let d : Text := "aa"
    let line : Text := "+aasource=/raaline=12aapwd=/aaoldpwd=aadirstack=aaa ls\n"
    let value : Field → Text := fieldsWith "/r" "12" "/" [] []
    Derives d (chomp line) "+" value "a ls" ∧ read d line = .record (recordWith value) := by
  intro d line value
  have hd : d ≠ [] := by decide
  have hsplit : Text.splitOn d (chomp line) =
      ("+" : Text) :: ((Field.all.map fun f => labelled f (value f)) ++ [("a ls" : Text)]) := by decide +kernel
  have hmarks : IsMarks "+" := ⟨List.cons_ne_nil _ _, List.forall_mem_singleton.2 rfl⟩
  have hderives : Derives d (chomp line) "+" value "a ls" := (derives_iff hd).2 ⟨hmarks, hsplit⟩
  have hdigits : ∀ c ∈ value .line, c.isDecimal = true :=
    List.forall_mem_cons.2 ⟨Numeral.isDecimal_ofChar (by decide),
      List.forall_mem_singleton.2 (Numeral.isDecimal_ofChar (by decide))⟩
  have hline : ∀ marks value tail, Derives d (chomp line) marks value tail →
      ¬ Numeral.IsUnconvertible (value .line) := by
    intro marks value' tail h' hbad
    obtain ⟨-, rfl, -⟩ := hderives.unique hd h'
    exact hbad.not_isDecimal ⟨by decide, hdigits, by decide⟩
  exact ⟨hderives, ((read_by_grammar hd line hline).1 _).2
    ⟨_, value, _, hderives, by decide, hdigits, rfl⟩⟩

end ShellCoverage.Trace
