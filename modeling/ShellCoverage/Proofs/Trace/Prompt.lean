import ShellCoverage.Proofs.Trace.Pieces

/-!
# Reading what the prompt writes

* `readStack_stackText` : the directory stack field read back;
* `read_render_exact` : if the delimiter stands only between the pieces of a command's line, the line reads
  as the command's record;
* `read_render_sound` : whatever the values are, a line never reads as a record of another place.

The second statement needs no condition on the values. If a value holds the delimiter, there is a piece too
many, since cutting from the left gives as many pieces as any way of cutting (`length_splitOn_append`). If
the delimiter starts in a value and overlaps the one after it, the next piece starts with a hexadecimal digit
and cannot carry its label (`not_labelled_of_hex`).
-/

namespace ShellCoverage.Trace

/-! ## The directory stack -/

/-- The entries of a stack as they stand between its marks: a blank ends all but the last. -/
def spaced : List Text → List Text
  | [] => []
  | [e] => [e]
  | e :: es => (e ++ [CodePoint.ofChar ' ']) :: spaced es

theorem splitAt_stackText {e : Text} {es : List Text} (h : ∀ x ∈ e :: es, stackMark ∉ x) :
    Text.splitAt stackMark (stackText (e :: es)) = [] :: spaced (e :: es) := by
  induction es generalizing e with
  | nil =>
    rw [stackText, List.map_singleton, Text.join_singleton, Text.splitAt, if_pos rfl,
      Text.splitAt_of_notMem (h e List.mem_cons_self)]
    rfl
  | cons f es ih =>
    have he : stackMark ∉ e ++ [CodePoint.ofChar ' '] := by
      rw [List.mem_append, List.mem_singleton, not_or]
      exact ⟨h e List.mem_cons_self, by decide⟩
    have hrest := ih fun x hx => h x (List.mem_cons_of_mem e hx)
    have htext : stackText (e :: f :: es) =
        stackMark :: ((e ++ [CodePoint.ofChar ' ']) ++ stackText (f :: es)) := by
      rw [stackText, List.map_cons, List.map_cons, Text.join_cons_cons, ← List.map_cons, ← stackText]
      simp [List.append_assoc]
    obtain ⟨u, hu⟩ : ∃ u, stackText (f :: es) = stackMark :: u := by
      cases es with
      | nil => exact ⟨f, Text.join_singleton _ _⟩
      | cons g es => exact ⟨_, by
          rw [stackText, List.map_cons, List.map_cons, Text.join_cons_cons, List.cons_append,
            List.cons_append]⟩
    rw [hu, Text.splitAt, if_pos rfl] at hrest
    rw [htext, hu, Text.splitAt, if_pos rfl, Text.splitAt_append_cons he, (List.cons.inj hrest).2]
    rfl

theorem trimEntries_spaced (es : List Text) : readStack.trimEntries (spaced es) = es := by
  induction es with
  | nil => rfl
  | cons e es ih =>
    cases es with
    | nil => rfl
    | cons f es =>
      cases hs : spaced (f :: es) with
      | nil => cases es <;> cases hs
      | cons x xs =>
        rw [spaced, hs, readStack.trimEntries, ← hs, ih]
        · simp
        · simp
        · simp

/-- The directory stack field reads back as the entries, the most recent last. -/
theorem readStack_stackText {es : List Text} (h : ∀ e ∈ es, stackMark ∉ e) :
    readStack (stackText es) = es.reverse := by
  cases es with
  | nil => rfl
  | cons e es => rw [readStack, splitAt_stackText h, List.drop_one, List.tail_cons, trimEntries_spaced]

/-! ## Lines with the delimiter only between their pieces -/

theorem readPieces_pieces {c : Command} (hdepth : 0 < c.depth)
    (hline : Numeral.IsDecimal (c.value .line)) : readPieces c.pieces = .record c.record := by
  refine readPieces_of_fields ?_ ?_ ?_ ?_ hline
  · simpa using Nat.ne_of_gt hdepth
  · simp
  · simp [pieceCount]
  · exact fieldValues_labelled Field.all c.value [CodePoint.ofChar ' ' :: c.tail]

theorem read_of_brackets {d run : Text} {c : Command} (hd : d ≠ []) (hdepth : 0 < c.depth)
    (hline : Numeral.IsDecimal (c.value .line)) (hrun : ∀ x ∈ run, isLineEnd x = true)
    (hocc : ∀ i ∈ Text.occurrences d (c.render d ++ run), i ∈ c.brackets d) :
    read d (c.render d ++ run) = .record c.record := by
  let c' : Command := { c with tail := chomp c.tail }
  have hchomp : chomp (c.render d ++ run) = c'.render d := Command.chomp_render d run c hrun
  have hsplit : Text.splitOn d (c'.render d) = c'.pieces := by
    rw [Command.render_eq_join]
    refine Text.splitOn_join hd c'.pieces (List.cons_ne_nil _ _) fun i hi => ?_
    rw [← Command.render_eq_join, ← hchomp] at hi
    obtain ⟨u, hu⟩ := chomp_prefix (c.render d ++ run)
    exact hocc i (by simpa [hu] using Text.add_mem_occurrences [] u hi)
  rw [read, hchomp, hsplit, readPieces_pieces (c := c') hdepth hline]
  rfl

/-- **Reading inverts the prompt.** If the delimiter stands only between the pieces of a command's line,
the line, with any line ends after it, reads as the command's record. -/
theorem read_render_exact (d run : Text) (c : Command) (entries : List Text) (hd : d ≠ [])
    (hdepth : 0 < c.depth) (hline : Numeral.IsDecimal (c.value .line))
    (hstack : c.value .dirstack = stackText entries) (hentries : ∀ e ∈ entries, stackMark ∉ e)
    (hrun : ∀ x ∈ run, isLineEnd x = true)
    (hocc : ∀ i ∈ Text.occurrences d (c.render d ++ run), i ∈ c.brackets d) :
    read d (c.render d ++ run) =
      .record ⟨c.value .source, Numeral.natValue (c.value .line), c.value .pwd, c.value .oldpwd,
        entries.reverse⟩ := by
  rw [read_of_brackets hd hdepth hline hrun hocc, Command.record, hstack, readStack_stackText hentries]

theorem read_render_exact_twoEntries :
    let c : Command := ⟨2, fun
      | .source => "a.sh" | .line => "12" | .pwd => "/b c " | .oldpwd => "x=y"
      | .dirstack => stackText ["/b c ", "/"], "echo '1'"⟩
    read "0f" (c.render "0f" ++ [13, 10]) = .record ⟨"a.sh", 12, "/b c ", "x=y", ["/", "/b c "]⟩ := by
  intro c
  exact read_render_exact "0f" [13, 10] c ["/b c ", "/"] (by decide) (by decide)
    ⟨by decide, List.all_eq_true.1 (by decide), by decide⟩ rfl (by decide)
    (List.all_eq_true.1 (by decide)) (by decide)

/-! ## Lines with any values -/

/-- A lower-case hexadecimal digit. -/
def isHexDigit (x : CodePoint) : Bool := (48 ≤ x.val && x.val ≤ 57) || (97 ≤ x.val && x.val ≤ 102)

/-- Hexadecimal digits before a label hide it: no label starts with two of them, nor with one that could be
its own first character. -/
theorem not_labelled_of_hex {f : Field} {w v u : Text} (hne : w ≠ [])
    (hhex : ∀ x ∈ w, isHexDigit x = true) : labelled f v ≠ w ++ (labelled f u) := by
  obtain ⟨x, w, rfl⟩ := List.exists_cons_of_ne_nil hne
  have hx := hhex x List.mem_cons_self
  intro h
  cases f with
  | source | line | pwd | oldpwd =>
    have hhead := (List.cons.inj h).1
    subst hhead
    revert hx
    decide
  | dirstack =>
    cases w with
    | nil =>
      have hsecond := (List.cons.inj (List.cons.inj h).2).1
      revert hsecond
      decide
    | cons y w =>
      have hy := hhex y (List.mem_cons_of_mem x List.mem_cons_self)
      have hsecond := (List.cons.inj (List.cons.inj h).2).1
      subst hsecond
      revert hy
      decide

theorem labelled_append (f : Field) (v u : Text) : labelled f v ++ u = labelled f (v ++ u) := by
  simp [labelled, List.append_assoc]

/-- A piece that starts inside a delimiter does not carry the label that comes after it. -/
theorem not_labelled_of_splitOn {d w u p v : Text} {ps : List Text} {f : Field} (hne : w ≠ [])
    (hhex : ∀ x ∈ w, isHexDigit x = true) (h : Text.splitOn d (w ++ labelled f u) = p :: ps) :
    p ≠ labelled f v := by
  rintro rfl
  obtain ⟨y, hy⟩ := Text.prefix_of_splitOn h
  rw [labelled_append] at hy
  exact not_labelled_of_hex hne hhex hy

/-- Labelled fields and a tail, with delimiters between them. -/
def fieldsText (d : Text) (value : Field → Text) (fs : List Field) (tail : Text) : Text :=
  Text.join d ((fs.map fun f => labelled f (value f)) ++ [tail])

theorem fieldsText_cons (d : Text) (value : Field → Text) (f : Field) (fs : List Field) (tail : Text) :
    fieldsText d value (f :: fs) tail = labelled f (value f) ++ d ++ fieldsText d value fs tail := by
  cases fs with
  | nil => exact Text.join_cons_cons d _ _ _
  | cons g fs => exact Text.join_cons_cons d _ _ _

theorem length_splitOn_fieldsText {d : Text} (hd : d ≠ []) (value : Field → Text) (fs : List Field)
    (tail : Text) : fs.length + 1 ≤ (Text.splitOn d (fieldsText d value fs tail)).length := by
  have h := Text.length_le_splitOn_join hd ((fs.map fun f => labelled f (value f)) ++ [tail])
  rwa [List.length_append, List.length_map, List.length_singleton] at h

/-- Fields cut at the leftmost delimiters, into as many pieces as there are fields and one more, each with
its label: all values but the last are the given ones. -/
theorem values_of_fieldsText {d : Text} (hd : d ≠ []) (hhex : ∀ x ∈ d, isHexDigit x = true)
    (value : Field → Text) (tail : Text) (fs : List Field) (vs : List Text)
    (hlen : (Text.splitOn d (fieldsText d value fs tail)).length = fs.length + 1)
    (h : fieldValues fs (Text.splitOn d (fieldsText d value fs tail)) = .ok vs) :
    vs.length = fs.length ∧ vs.dropLast = (fs.map value).dropLast := by
  induction fs generalizing vs with
  | nil =>
    cases h
    exact ⟨rfl, rfl⟩
  | cons f fs ih =>
    obtain ⟨a, b, hcut⟩ := Text.exists_cutFirst? d (labelled f (value f)) (fieldsText d value fs tail)
    rw [fieldsText_cons, Text.splitOn_of_cutFirst? hd hcut] at h hlen
    rw [List.length_cons, List.length_cons, Nat.add_right_cancel_iff] at hlen
    obtain ⟨v, vs', ha, hvs, rfl⟩ := fieldValues_cons_eq_ok h
    cases fs with
    | nil =>
      cases hvs
      exact ⟨rfl, rfl⟩
    | cons g fs =>
      rcases Text.cutFirst?_append_cases hcut with ⟨rfl, rfl⟩ | ⟨z, -, rfl⟩ | ⟨w, hw, hwd, rfl⟩
      · -- the cut is where it should be
        obtain ⟨hlen', hdrop⟩ := ih vs' hlen hvs
        have hv : value f = v := List.append_cancel_left ha
        have hne : vs' ≠ [] := List.ne_nil_of_length_pos (by rw [hlen']; exact Nat.succ_pos _)
        refine ⟨by rw [List.length_cons, hlen']; rfl, ?_⟩
        rw [List.dropLast_cons_of_ne_nil hne, hdrop, ← hv]
        rfl
      · -- the value holds the delimiter: there is a piece too many
        have hmany := Text.length_splitOn_append hd z (fieldsText d value (g :: fs) tail)
        have hrest := length_splitOn_fieldsText hd value (g :: fs) tail
        have hpos := Text.length_splitOn_pos d z
        omega
      · -- the next piece starts inside a delimiter
        rw [fieldsText_cons, List.append_assoc, labelled_append] at hvs
        obtain ⟨p, ps, hs⟩ := List.exists_cons_of_ne_nil (Text.splitOn_ne_nil d _)
        rw [hs] at hvs
        obtain ⟨v', -, hp, -, -⟩ := fieldValues_cons_eq_ok hvs
        exact absurd hp (not_labelled_of_splitOn hw (fun x hx => hhex x (hwd.subset hx)) hs)

/-- The marks of a line are its first piece, since no mark is a hexadecimal digit. -/
theorem splitOn_render {d : Text} (hd : d ≠ []) (hhex : ∀ x ∈ d, isHexDigit x = true) (c : Command) :
    Text.splitOn d (c.render d) = List.replicate c.depth depthMark ::
      Text.splitOn d (fieldsText d c.value Field.all (CodePoint.ofChar ' ' :: c.tail)) := by
  have hmarks : ∀ x ∈ List.replicate c.depth depthMark, x ∉ d := by
    intro x hx hmem
    rw [List.eq_of_mem_replicate hx] at hmem
    exact absurd (hhex _ hmem) (by decide)
  have hrender : c.render d = List.replicate c.depth depthMark ++ d ++
      fieldsText d c.value Field.all (CodePoint.ofChar ' ' :: c.tail) := by
    rw [Command.render_eq_join]
    exact Text.join_cons_cons d _ _ _
  rw [hrender, Text.splitOn_of_cutFirst? hd (Text.cutFirst?_append_of_disjoint hmarks hd)]

/-- **No value misplaces a command.** Whatever the values of a command's fields and its text hold, its line
is passed over, is a collision, or reads as a record of the command's own place. -/
theorem read_render_sound (d : Text) (c : Command) (hd : d ≠ [])
    (hhex : ∀ x ∈ d, isHexDigit x = true) (hdepth : 0 < c.depth)
    (hline : Numeral.IsDecimal (c.value .line)) :
    (read d (c.render d)).isPassedOver = true ∨ read d (c.render d) = .collision ∨
      ∃ r, read d (c.render d) = .record r ∧ r.source = c.value .source ∧
        r.line = Numeral.natValue (c.value .line) ∧ r.pwd = c.value .pwd ∧ r.oldpwd = c.value .oldpwd := by
  have hchomp : chomp (c.render d) = Command.render d { c with tail := chomp c.tail } := by
    simpa using Command.chomp_render d [] c (by simp)
  rw [read, hchomp, splitOn_render hd hhex]
  generalize chomp c.tail = tail
  generalize hps : Text.splitOn d (fieldsText d c.value Field.all (CodePoint.ofChar ' ' :: tail)) = ps
  rcases Nat.lt_trichotomy (ps.length + 1) pieceCount with hlen | hlen | hlen
  · exact Or.inl (readPieces_of_short hlen)
  · cases hvs : fieldValues Field.all ps with
    | error p => exact Or.inl (readPieces_of_mislabelled hlen hvs)
    | ok vs =>
      have hcount : ps.length = Field.all.length + 1 := Nat.add_right_cancel hlen
      obtain ⟨hfive, hdrop⟩ :=
        values_of_fieldsText hd hhex c.value _ Field.all vs (hps ▸ hcount) (hps ▸ hvs)
      obtain ⟨stack, rfl⟩ : ∃ stack, vs = [c.value .source, c.value .line, c.value .pwd,
          c.value .oldpwd, stack] := by
        have hne : vs ≠ [] := List.ne_nil_of_length_pos (by rw [hfive]; decide)
        have hlast := List.dropLast_append_getLast hne
        rw [hdrop] at hlast
        exact ⟨vs.getLast hne, hlast.symm⟩
      refine Or.inr (Or.inr ⟨_, readPieces_of_fields ?_ ?_ hlen hvs hline, rfl, rfl, rfl, rfl⟩)
      · simpa using Nat.ne_of_gt hdepth
      · simp
  · have hlong : pieceCount < (List.replicate c.depth depthMark :: ps).length := hlen
    rcases readPieces_of_long hlong with h | h
    · exact Or.inl (by rw [h]; rfl)
    · exact Or.inr (Or.inl h)

theorem read_render_sound_overlap :
    let c : Command := ⟨1, fun
      | .source => "lib.sha" | .line => "7" | .pwd => "/tmp" | .oldpwd => "aapwd=/" | .dirstack => [], "ls"⟩
    (read "aa" (c.render "aa")).isPassedOver = true ∨ read "aa" (c.render "aa") = .collision ∨
      ∃ r, read "aa" (c.render "aa") = .record r ∧ r.source = ("lib.sha" : Text) ∧ r.line = 7 ∧
        r.pwd = ("/tmp" : Text) ∧ r.oldpwd = ("aapwd=/" : Text) := by
  intro c
  exact read_render_sound "aa" c (by decide) (List.all_eq_true.1 (by decide)) (by decide)
    ⟨by decide, List.all_eq_true.1 (by decide), by decide⟩

end ShellCoverage.Trace
