import ShellCoverage.Proofs.Text.Lines
import ShellCoverage.Proofs.Trace.Prompt

/-!
# Traces with line breaks in their data

A traced command takes several lines when its values or its text hold line feeds. `readings_transcript` says
what reading these lines gives: one record for every command whose fields hold no line feed, none for the
others, and nothing that ends the trace.

A line of a command whose fields are broken lacks the first or the last of the six delimiters, and has too
few pieces (`isPassedOver_of_broken`). If the fields are not broken the first line has all six, and the others
have none (`readings_of_unbroken`).
-/

namespace ShellCoverage.Trace

/-! ## Places in a command's line -/

namespace Command

/-- No field of the command holds a line feed. -/
def isUnbroken (c : Command) : Bool := Field.all.all fun f => 10 ∉ c.value f

theorem isUnbroken_iff {c : Command} : c.isUnbroken = true ↔ ∀ f, 10 ∉ c.value f := by
  rw [isUnbroken, List.all_eq_true]
  constructor
  · intro h f
    have hf : f ∈ Field.all := by cases f <;> decide
    simpa using h f hf
  · intro h f _
    simpa using h f

/-- The fields of a command's line, with the delimiters around them. -/
def fields (d : Text) (c : Command) : Text := Field.all.flatMap (fieldText d c.value) ++ d

theorem render_eq (d : Text) (c : Command) :
    c.render d = List.replicate c.depth depthMark ++ c.fields d ++ (CodePoint.ofChar ' ' :: c.tail) := by
  simp [render, body, fields, List.append_assoc]

theorem lineFeed_mem_fields_iff {d : Text} (hd : (10 : CodePoint) ∉ d) (c : Command) :
    10 ∈ c.fields d ↔ ∃ f, 10 ∈ c.value f := by
  have hlabel (f : Field) : (10 : CodePoint) ∉ f.label := by cases f <;> decide
  have hequals : (10 : CodePoint) ≠ equals := by decide
  constructor
  · intro h
    simp only [fields, List.mem_append, List.mem_flatMap, fieldText, List.mem_singleton, hd, hlabel,
      hequals, or_false, false_or] at h
    obtain ⟨f, -, hf⟩ := h
    exact ⟨f, hf⟩
  · rintro ⟨f, hf⟩
    have hmem : f ∈ Field.all := by cases f <;> decide
    exact List.mem_append_left _ (List.mem_flatMap.2 ⟨f, hmem, List.mem_append_right _ hf⟩)

/-- What follows in a command's text follows in its line. -/
theorem render_of_tail {c : Command} {y u : Text} (h : c.tail = y ++ u) (d : Text) :
    c.render d = Command.render d { c with tail := y } ++ u := by
  simp [render, h, List.append_assoc]

/-- If neither a field nor the text is broken, the line is not. -/
theorem lineFeed_notMem_render {d : Text} (hd : (10 : CodePoint) ∉ d) {c : Command}
    (hwhole : c.isUnbroken = true) (htail : 10 ∉ c.tail) : 10 ∉ c.render d := by
  have hmark : (10 : CodePoint) ≠ depthMark := by decide
  have hblank : (10 : CodePoint) ≠ CodePoint.ofChar ' ' := by decide
  have hfields : 10 ∉ c.fields d := by
    rw [lineFeed_mem_fields_iff hd, not_exists]
    exact isUnbroken_iff.1 hwhole
  rw [render_eq]
  simp [hmark, hblank, hfields, htail]

theorem length_brackets (d : Text) (c : Command) : (c.brackets d).length = 6 := rfl

theorem depth_mem_brackets (d : Text) (c : Command) : c.depth ∈ c.brackets d := by
  simp [brackets, pieces, Field.all, Text.boundaries]

/-- The last delimiter ends the fields. -/
theorem exists_last_bracket (d : Text) (c : Command) :
    ∃ i ∈ c.brackets d, i + d.length = c.depth + (c.fields d).length := by
  simp [brackets, pieces, fields, Field.all, Text.boundaries, fieldText, labelled]
  omega

theorem bracket_le (d : Text) (c : Command) :
    ∀ i ∈ c.brackets d, i + d.length ≤ c.depth + (c.fields d).length := by
  simp [brackets, pieces, fields, Field.all, Text.boundaries, fieldText, labelled]
  omega

end Command

/-! ## The lines of one command -/

section command
variable {d : Text} {c : Command} (hd : d ≠ []) (hten : (10 : CodePoint) ∉ d)
include hd hten

/-- The lines of a part that holds fewer than six delimiters are passed over. -/
theorem isPassedOver_of_few {t l : Text} (k : Nat) (places : List Nat)
    (hfew : places.length + 1 < pieceCount) (h : ∀ i ∈ Text.occurrences d t, k + i ∈ places)
    (hl : l ∈ cutAfter 10 (t ++ [10])) : (read d l).isPassedOver = true := by
  obtain ⟨a, y, e, b, hcut, rfl, -, -⟩ := eq_append_of_mem_cutAfter hl
  obtain ⟨u, hu⟩ := chomp_prefix (y ++ e)
  have hpart : t ++ [10] = a ++ chomp (y ++ e) ++ (u ++ b) := by
    rw [hcut, List.append_assoc a, List.append_assoc a, ← List.append_assoc (chomp (y ++ e)), hu]
  have hsub : (Text.occurrences d (chomp (y ++ e))).map (k + a.length + ·) ⊆ places := by
    intro j hj
    obtain ⟨i, hi, rfl⟩ := List.mem_map.1 hj
    have hmem : a.length + i ∈ Text.occurrences d (t ++ [10]) := by
      rw [hpart]
      exact Text.add_mem_occurrences a (u ++ b) hi
    rw [Nat.add_assoc]
    exact h _ (Text.mem_occurrences_of_concat hd hten hmem)
  have hnodup := (Text.nodup_occurrences d (chomp (y ++ e))).map
    (f := (k + a.length + ·)) fun i j h => Nat.add_left_cancel h
  have hle := (hnodup.subperm hsub).length_le
  have hpieces := Text.length_splitOn_le hd (chomp (y ++ e))
  rw [List.length_map] at hle
  refine readPieces_of_short ?_
  omega

/-- If a field is broken, the lines before the break lack the last delimiter and those after it lack the
first: all are passed over. -/
theorem isPassedOver_of_broken (hocc : ∀ i ∈ Text.occurrences d (c.render d), i ∈ c.brackets d)
    (hbroken : c.isUnbroken = false) {l : Text} (hl : l ∈ cutAfter 10 (c.render d ++ [10])) :
    (read d l).isPassedOver = true := by
  have hbreak : 10 ∈ c.fields d := by
    rw [Command.lineFeed_mem_fields_iff hten]
    by_contra hnone
    rw [Command.isUnbroken_iff.2 (not_exists.1 hnone)] at hbroken
    cases hbroken
  obtain ⟨v, w, hfields, -⟩ := List.eq_append_cons_of_mem hbreak
  let before := List.replicate c.depth depthMark ++ v
  let after := w ++ CodePoint.ofChar ' ' :: c.tail
  have hrender : c.render d = before ++ [10] ++ after := by
    simp [Command.render_eq, hfields, before, after, List.append_assoc]
  have hlen : (c.fields d).length = v.length + w.length + 1 := by
    rw [hfields, List.length_append, List.length_cons]
    omega
  have hbefore : before.length = c.depth + v.length := by simp [before]
  rw [hrender, List.append_assoc, cutAfter_append, List.mem_append] at hl
  rcases hl with hl | hl
  · -- the last delimiter is missing
    obtain ⟨last, hlast, hend⟩ := c.exists_last_bracket d
    refine isPassedOver_of_few hd hten 0 ((c.brackets d).erase last) ?_ (fun i hi => ?_) hl
    · rw [List.length_erase_of_mem hlast, Command.length_brackets]
      decide
    · have hmem : i ∈ Text.occurrences d (c.render d) := by
        rw [hrender, List.append_assoc]
        exact Text.mem_occurrences_append_right _ hi
      have hfit := Text.add_length_le_of_mem_occurrences hi
      rw [Nat.zero_add]
      refine (List.mem_erase_of_ne ?_).2 (hocc i hmem)
      omega
  · -- the first delimiter is missing
    refine isPassedOver_of_few hd hten (before.length + 1) ((c.brackets d).erase c.depth) ?_
      (fun i hi => ?_) hl
    · rw [List.length_erase_of_mem (c.depth_mem_brackets d), Command.length_brackets]
      decide
    · have hmem : before.length + 1 + i ∈ Text.occurrences d (c.render d) := by
        rw [hrender, ← List.length_concat, List.concat_eq_append]
        exact Text.add_mem_occurrences_append_left _ hi
      refine (List.mem_erase_of_ne ?_).2 (hocc _ hmem)
      omega

/-- What a command's text holds after a line feed does not change how its first line reads. -/
theorem read_firstLine {y u : Text} (hdepth : 0 < c.depth) (hline : Numeral.IsDecimal (c.value .line))
    (hocc : ∀ i ∈ Text.occurrences d (c.render d), i ∈ c.brackets d) (htail : c.tail = y ++ u) :
    read d (Command.render d { c with tail := y } ++ [10]) = .record c.record := by
  refine read_of_brackets (c := { c with tail := y }) hd hdepth hline (List.all_eq_true.1 rfl) fun i hi => ?_
  have hmem := Text.add_mem_occurrences [] u (Text.mem_occurrences_of_concat hd hten hi)
  rw [List.nil_append, ← Command.render_of_tail htail, List.length_nil, Nat.zero_add] at hmem
  exact hocc i hmem

omit hd hten in
/-- After a line feed in a command's text there is no delimiter. -/
theorem occurrences_of_tail {y z : Text} (hocc : ∀ i ∈ Text.occurrences d (c.render d), i ∈ c.brackets d)
    (htail : c.tail = y ++ 10 :: z) : Text.occurrences d z = [] := by
  let before := Command.render d { c with tail := y }
  have hrender : c.render d = before ++ [10] ++ z := by
    rw [Command.render_of_tail htail, List.append_assoc, List.singleton_append]
  have hlen : before.length = c.depth + (c.fields d).length + (1 + y.length) := by
    simp only [before, Command.render_eq]
    simp [Command.fields]
    omega
  refine List.eq_nil_iff_forall_not_mem.2 fun i hi => ?_
  have hmem : before.length + 1 + i ∈ Text.occurrences d (c.render d) := by
    rw [hrender, ← List.length_concat, List.concat_eq_append]
    exact Text.add_mem_occurrences_append_left _ hi
  have hle := c.bracket_le d _ (hocc _ hmem)
  omega

/-- After a line feed in a command's text nothing is read. -/
theorem isPassedOver_of_tail {y z l : Text}
    (hocc : ∀ i ∈ Text.occurrences d (c.render d), i ∈ c.brackets d) (htail : c.tail = y ++ 10 :: z)
    (hl : l ∈ cutAfter 10 (z ++ [10])) : (read d l).isPassedOver = true :=
  isPassedOver_of_few hd hten 0 [] (by decide) (by simp [occurrences_of_tail hocc htail]) hl

/-- If no field is broken, the first line is a record and the rest of the text is passed over. -/
theorem readings_of_unbroken (hdepth : 0 < c.depth) (hline : Numeral.IsDecimal (c.value .line))
    (hocc : ∀ i ∈ Text.occurrences d (c.render d), i ∈ c.brackets d) (hwhole : c.isUnbroken = true) :
    ∃ qs, (cutAfter 10 (c.render d ++ [10])).map (read d) = .record c.record :: qs ∧
      ∀ q ∈ qs, q.isPassedOver = true := by
  rcases notMem_or_eq_append 10 c.tail with hy | ⟨y, z, htail, hy⟩
  · -- the command is one line
    have hwholeLine : 10 ∉ c.render d := Command.lineFeed_notMem_render hten hwhole hy
    have hread := read_firstLine hd hten hdepth hline hocc (List.append_nil c.tail).symm
    refine ⟨[], ?_, by simp⟩
    rw [cutAfter_append_cons hwholeLine [], List.map_cons, hread]
    rfl
  · -- the text goes on after a line feed
    have hfirst : 10 ∉ Command.render d { c with tail := y } :=
      Command.lineFeed_notMem_render hten hwhole hy
    have hread := read_firstLine hd hten hdepth hline hocc htail
    refine ⟨(cutAfter 10 (z ++ [10])).map (read d), ?_, fun q hq => ?_⟩
    · rw [Command.render_of_tail htail, List.append_assoc, List.cons_append, cutAfter_append_cons hfirst,
        List.map_cons, hread]
    · obtain ⟨l, hl, rfl⟩ := List.mem_map.1 hq
      exact isPassedOver_of_tail hd hten hocc htail hl

end command

/-! ## Traces -/

/-- What a shell writes for some commands: the line of each, and a line feed. -/
def transcript (d : Text) (cs : List Command) : Text := cs.flatMap fun c => c.render d ++ [10]

theorem filterMap_record?_of_isPassedOver {qs : List Reading} (h : ∀ q ∈ qs, q.isPassedOver = true) :
    qs.filterMap Reading.record? = [] :=
  List.filterMap_eq_nil_iff.2 fun q hq => Reading.record?_of_isPassedOver (h q hq)

theorem readings_command {d : Text} {c : Command} (hd : d ≠ []) (hten : (10 : CodePoint) ∉ d)
    (hdepth : 0 < c.depth) (hline : c.isUnbroken = true → Numeral.IsDecimal (c.value .line))
    (hocc : ∀ i ∈ Text.occurrences d (c.render d), i ∈ c.brackets d) :
    let qs := (cutAfter 10 (c.render d ++ [10])).map (read d)
    (∀ q ∈ qs, q.isFatal = false) ∧
      qs.filterMap Reading.record? = if c.isUnbroken then [c.record] else [] := by
  intro qs
  cases hwhole : c.isUnbroken with
  | false =>
    have hpassed : ∀ q ∈ qs, q.isPassedOver = true := by
      intro q hq
      obtain ⟨l, hl, rfl⟩ := List.mem_map.1 hq
      exact isPassedOver_of_broken hd hten hocc hwhole hl
    exact ⟨fun q hq => Reading.isFatal_of_isPassedOver (hpassed q hq),
      filterMap_record?_of_isPassedOver hpassed⟩
  | true =>
    obtain ⟨rest, hqs, hpassed⟩ := readings_of_unbroken hd hten hdepth (hline hwhole) hocc hwhole
    have hqs : qs = .record c.record :: rest := hqs
    rw [hqs]
    refine ⟨fun q hq => ?_, ?_⟩
    · rcases List.mem_cons.1 hq with rfl | hq
      · rfl
      · exact Reading.isFatal_of_isPassedOver (hpassed q hq)
    · rw [List.filterMap_cons_some (f := Reading.record?) rfl,
        filterMap_record?_of_isPassedOver hpassed, if_pos rfl]

theorem flatMap_ite_singleton {α β : Type} (p : α → Bool) (f : α → β) (l : List α) :
    (l.flatMap fun a => if p a then [f a] else []) = (l.filter p).map f := by
  induction l with
  | nil => rfl
  | cons a l ih =>
    rw [List.flatMap_cons, List.filter_cons, ih]
    split <;> rfl

/-- **Line breaks in the data neither forge nor duplicate records.** Whatever line feeds the values and the
texts of some commands hold, no line of their trace ends it, and the records of its lines are those of the
commands without a line feed in a field. Cutting the bytes of the trace gives the same lines. -/
theorem readings_transcript (d : Text) (cs : List Command) (hd : d ≠ [])
    (hhex : ∀ x ∈ d, isHexDigit x = true) (hdepth : ∀ c ∈ cs, 0 < c.depth)
    (hline : ∀ c ∈ cs, c.isUnbroken = true → Numeral.IsDecimal (c.value .line))
    (hocc : ∀ c ∈ cs, ∀ i ∈ Text.occurrences d (c.render d), i ∈ c.brackets d) :
    let readings := (cutAfter 10 (transcript d cs)).map (read d)
    (∀ bs, Text.ofBytes bs = transcript d cs →
      (Stream.lines bs).map (fun raw => read d (Text.ofBytes raw)) = readings) ∧
    (∀ q ∈ readings, q.isFatal = false) ∧
    readings.filterMap Reading.record? = (cs.filter Command.isUnbroken).map Command.record := by
  have hten : (10 : CodePoint) ∉ d := fun h => absurd (hhex 10 h) (by decide)
  intro readings
  have hreadings : readings = cs.flatMap fun c => (cutAfter 10 (c.render d ++ [10])).map (read d) := by
    rw [← List.map_flatMap, ← cutAfter_flatMap, ← transcript]
  have hcommand := fun c hc => readings_command hd hten (hdepth c hc) (hline c hc) (hocc c hc)
  refine ⟨fun bs hbs => ?_, ?_, ?_⟩
  · have hmap := congrArg (List.map (read d)) (map_ofBytes_lines bs)
    rwa [List.map_map, hbs] at hmap
  · intro q hq
    rw [hreadings] at hq
    obtain ⟨c, hc, hq⟩ := List.mem_flatMap.1 hq
    exact (hcommand c hc).1 q hq
  · rw [hreadings, List.filterMap_flatMap, List.flatMap_congr fun c hc => (hcommand c hc).2,
      flatMap_ite_singleton]

theorem readings_transcript_brokenPwd :
    let broken : Command := ⟨1, fun
      | .source => "a.sh" | .line => "3" | .pwd => "/x\n+y" | .oldpwd => [] | .dirstack => [], "cd ..\n+"⟩
    let whole : Command := ⟨2, fun
      | .source => "b.sh" | .line => "14" | .pwd => "/" | .oldpwd => "/x" | .dirstack => [], "echo '\n+\n'"⟩
    let readings := (cutAfter 10 (transcript "0f" [broken, whole])).map (read "0f")
    (∀ q ∈ readings, q.isFatal = false) ∧
      readings.filterMap Reading.record? = [⟨"b.sh", 14, "/", "/x", []⟩] := by
  intro broken whole
  have h := readings_transcript "0f" [broken, whole] (by decide) (List.all_eq_true.1 (by decide))
    (List.forall_mem_cons.2 ⟨by decide, List.forall_mem_singleton.2 (by decide)⟩)
    (List.forall_mem_cons.2 ⟨fun h => absurd h (by decide), List.forall_mem_singleton.2 fun _ =>
      ⟨by decide, List.all_eq_true.1 (by decide), by decide⟩⟩)
    (List.forall_mem_cons.2 ⟨by decide, List.forall_mem_singleton.2 (by decide)⟩)
  exact h.2

end ShellCoverage.Trace
