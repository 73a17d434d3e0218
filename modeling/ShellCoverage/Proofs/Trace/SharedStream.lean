import ShellCoverage.Proofs.Trace.Continuation

/-!
# What a script writes to a shared stream

Where a trace and a script share the error stream, the lines that are no records are passed on. The stream is cut into
lines whoever wrote them, so that the end of what a script wrote and the record after it may come to stand in one line.
`relayed_shared` says what this means: exactly what the script wrote is passed on just if the lines with the delimiter
are the records, and no other line is left over when the collection ends. What the script wrote without a line feed
before a record is lost: the line is dropped, and marks of depth at its end are taken for those of the record
(`relayed_shared_lost`).

* `Write`, `stream`, `written`, `records` : a script and a shell that write to one stream;
* `lines_record` : the line in which a record comes to stand;
* `records_length_le`, `written_of_records` : the lines with the delimiter, and the others;
* `relayed_of_records` : what is passed on if each line with the delimiter is a record.
-/

namespace ShellCoverage

section cut
variable {α : Type} [DecidableEq α] {x : α}

/-- A part without `x` inside comes to stand at the end of a piece, after what was left open before it. -/
theorem cutAfter_append_part {t : List α} (ht : x ∉ t) (p rest : List α) :
    ∃ ls u, ls.flatten ++ u = p ∧
      cutAfter x (p ++ (t ++ [x]) ++ rest) = ls ++ (u ++ (t ++ [x])) :: cutAfter x rest := by
  obtain ⟨n, hn⟩ : ∃ n, p.length = n := ⟨_, rfl⟩
  induction n using Nat.strongRecOn generalizing p with
  | ind n ih =>
    rcases notMem_or_eq_append x p with hp | ⟨a, b, rfl, ha⟩
    · have hline : x ∉ p ++ t := by
        rw [List.mem_append]
        exact not_or.2 ⟨hp, ht⟩
      refine ⟨[], p, rfl, ?_⟩
      rw [show p ++ (t ++ [x]) ++ rest = p ++ t ++ x :: rest by simp, cutAfter_append_cons hline]
      simp
    · have hlt : b.length < n := by
        rw [List.length_append, List.length_cons] at hn
        omega
      obtain ⟨ls, u, hb, hcut⟩ := ih b.length hlt b rfl
      refine ⟨(a ++ [x]) :: ls, u, by rw [← hb]; simp, ?_⟩
      rw [show a ++ x :: b ++ (t ++ [x]) ++ rest = a ++ x :: (b ++ (t ++ [x]) ++ rest) by simp,
        cutAfter_append_cons ha, hcut]
      rfl

end cut

namespace Trace

/-! ## Writes -/

/-- Something that is written to a stream: output of a script, or a record of its trace. -/
inductive Write where
  | output (bs : Bytes)
  | record (raw : Bytes)

namespace Write

/-- The bytes that are written. -/
def bytes : Write → Bytes
  | output bs | record bs => bs

/-- The bytes that the script writes. -/
def output? : Write → Option Bytes
  | output bs => some bs
  | record _ => none

/-- The line of a record. -/
def record? : Write → Option Bytes
  | output _ => none
  | record raw => some raw

end Write

/-- Everything that is written. -/
def stream (ws : List Write) : Bytes := ws.flatMap Write.bytes

/-- Everything that the script writes. -/
def written (ws : List Write) : Bytes := (ws.filterMap Write.output?).flatten

/-- The lines of all records. -/
def records (ws : List Write) : List Bytes := ws.filterMap Write.record?

theorem length_stream (ws : List Write) :
    (stream ws).length = (written ws).length + (records ws).flatten.length := by
  induction ws with
  | nil => rfl
  | cons w ws ih =>
    have hcons : (stream (w :: ws)).length = w.bytes.length + (stream ws).length := List.length_append
    rw [hcons, ih]
    cases w with
    | output bs =>
      have hwritten : (written (.output bs :: ws)).length = bs.length + (written ws).length := List.length_append
      rw [hwritten, ← Nat.add_assoc]
      rfl
    | record raw =>
      have hrecords : (records (.record raw :: ws)).flatten.length = raw.length + (records ws).flatten.length :=
        List.length_append
      rw [hrecords, Nat.add_left_comm]
      rfl

/-- The line is a record that opens no word. -/
structure IsRecordLine (d : Text) (raw : Bytes) : Prop where
  isLine : ∃ t, raw = t ++ [10] ∧ 10 ∉ t
  isRecord : ∃ r, read d (Text.ofBytes raw) = .record r
  isClosed : oddQuotes (Collector.commandText d (Text.ofBytes raw)) = false

/-- The delimiter stands in the line. -/
def isMarked (d : Text) (raw : Bytes) : Bool := Text.contains d (Text.ofBytes raw)

/-! ## Records in lines -/

section lines
variable {d : Text} {raw : Bytes} {ws : List Write}

theorem depthMark_of_read {line : Text} {r : Record} (h : read d line = .record r) :
    ∃ rest, line = depthMark :: rest := by
  obtain ⟨marks, ps, hpieces, hmarks⟩ : ∃ marks ps, Text.splitOn d (chomp line) = marks :: ps ∧ IsMarks marks := by
    rcases readPieces_cases (Text.splitOn d (chomp line)) with hpassed | ⟨marks, ps, hpieces, hmarks, -⟩ |
      ⟨marks, value, tail, hpieces, hmarks, -⟩
    · rw [show readPieces _ = .record r from h] at hpassed
      cases hpassed
    · exact ⟨marks, ps, hpieces, hmarks⟩
    · exact ⟨marks, _, hpieces, hmarks⟩
  obtain ⟨u, hu⟩ := (Text.prefix_of_splitOn hpieces).trans <| chomp_prefix line
  cases marks with
  | nil => exact absurd rfl hmarks.1
  | cons c marks =>
    rw [hmarks.2 c List.mem_cons_self] at hu
    exact ⟨marks ++ u, hu.symm⟩

/-- A record starts with a mark of depth, also as bytes. -/
theorem IsRecordLine.eq_cons (h : IsRecordLine d raw) : ∃ rest, raw = 43 :: rest := by
  obtain ⟨r, hr⟩ := h.isRecord
  obtain ⟨rest, hrest⟩ := depthMark_of_read hr
  have hbytes := Text.toBytes?_ofBytes raw
  rw [hrest, Text.toBytes?_cons_eq_some] at hbytes
  obtain ⟨first, bs, hfirst, -, rfl⟩ := hbytes
  rw [Text.bytes?_of_ascii (by decide)] at hfirst
  cases hfirst
  exact ⟨bs, rfl⟩

theorem IsRecordLine.isMarked (h : IsRecordLine d raw) : isMarked d raw = true := by
  obtain ⟨r, hr⟩ := h.isRecord
  rw [Trace.isMarked, ← Bool.not_eq_false]
  intro hmarked
  rw [read_of_not_contains hmarked] at hr
  cases hr

/-- The line has the delimiter whatever stands before the record. -/
theorem IsRecordLine.isMarked_append (h : IsRecordLine d raw) (u : Bytes) : Trace.isMarked d (u ++ raw) = true := by
  obtain ⟨rest, rfl⟩ := h.eq_cons
  have hmarked := h.isMarked
  rw [Trace.isMarked, ← Bool.not_eq_false, Text.contains_eq_false_iff] at hmarked ⊢
  rw [Text.ofBytes_append_cons (by decide)]
  intro hnone
  refine hmarked fun x y hxy => hnone (Text.ofBytes u ++ x) y ?_
  rw [hxy]
  simp

theorem eq_nil_of_flatten {ls : List Bytes} (h : ∀ l ∈ ls, l ≠ []) (hlen : ls.flatten.length = 0) : ls = [] := by
  cases ls with
  | nil => rfl
  | cons l ls =>
    rw [List.flatten_cons, List.length_append, Nat.add_eq_zero_iff] at hlen
    exact absurd (List.eq_nil_of_length_eq_zero hlen.1) (h l List.mem_cons_self)

/-- The lines with the delimiter. -/
def marked (d : Text) (raws : List Bytes) : List Bytes := raws.filter (isMarked d)

/-- The lines without the delimiter. -/
def unmarked (d : Text) (raws : List Bytes) : List Bytes := raws.filter fun raw => !isMarked d raw

theorem length_marked_add_unmarked (d : Text) (raws : List Bytes) :
    (marked d raws).flatten.length + (unmarked d raws).flatten.length = raws.flatten.length := by
  induction raws with
  | nil => rfl
  | cons raw raws ih =>
    rw [marked, unmarked, List.filter_cons, List.filter_cons, ← marked, ← unmarked]
    simp only [List.length_flatten] at ih ⊢
    cases isMarked d raw <;> simp <;> omega

theorem unmarked_of_marked {raws : List Bytes} (h : marked d raws = []) : unmarked d raws = raws := by
  refine List.filter_eq_self.2 fun raw hraw => ?_
  have hnot := List.filter_eq_nil_iff.1 h raw hraw
  rw [Bool.not_eq_true] at hnot
  rw [hnot]
  rfl

/-- A record comes to stand in one line with what was left open before it. -/
theorem lines_record (h : IsRecordLine d raw) (p rest : Bytes) :
    ∃ ls u, ls.flatten ++ u = p ∧ (∀ l ∈ ls, l ≠ []) ∧
      marked d (Stream.lines (p ++ (raw ++ rest))) = marked d ls ++ (u ++ raw) :: marked d (Stream.lines rest) ∧
      unmarked d (Stream.lines (p ++ (raw ++ rest))) = unmarked d ls ++ unmarked d (Stream.lines rest) := by
  obtain ⟨t, rfl, ht⟩ := h.isLine
  obtain ⟨ls, u, hp, hcut⟩ := cutAfter_append_part ht p rest
  have hmarked := h.isMarked_append u
  rw [← List.append_assoc, Stream.lines_eq_cutAfter, Stream.lines_eq_cutAfter, hcut]
  refine ⟨ls, u, hp, fun l hl => ?_, ?_, ?_⟩
  · exact ne_nil_of_mem_cutAfter (hcut ▸ List.mem_append_left _ hl)
  · simp [marked, hmarked]
  · simp [unmarked, hmarked]

section writes
variable (hws : ∀ raw, Write.record raw ∈ ws → IsRecordLine d raw)
include hws

/-- The lines with the delimiter have all bytes of the records. -/
theorem length_records_le (p : Bytes) :
    (records ws).flatten.length ≤ (marked d (Stream.lines (p ++ stream ws))).flatten.length := by
  induction ws generalizing p with
  | nil => exact Nat.zero_le _
  | cons w ws ih =>
    have hws' : ∀ raw, Write.record raw ∈ ws → IsRecordLine d raw :=
      fun raw hraw => hws raw (List.mem_cons_of_mem w hraw)
    cases w with
    | output bs =>
      have hrest := ih hws' (p ++ bs)
      rw [List.append_assoc] at hrest
      exact hrest
    | record raw =>
      obtain ⟨ls, u, -, -, hmarked, -⟩ := lines_record (hws raw List.mem_cons_self) p (stream ws)
      have hrest := ih hws' []
      rw [show stream (.record raw :: ws) = raw ++ stream ws from rfl,
        show records (.record raw :: ws) = raw :: records ws from rfl, hmarked]
      rw [List.nil_append] at hrest
      simp only [List.flatten_append, List.flatten_cons, List.length_append]
      omega

/-- If the lines with the delimiter have no other bytes than those of the records, then they are the records, and the
other lines are what the script has written. -/
theorem written_of_length {p : Bytes}
    (h : (marked d (Stream.lines (p ++ stream ws))).flatten.length ≤ (records ws).flatten.length) :
    marked d (Stream.lines (p ++ stream ws)) = records ws ∧
      (unmarked d (Stream.lines (p ++ stream ws))).flatten = p ++ written ws := by
  induction ws generalizing p with
  | nil =>
    have hnil : marked d (Stream.lines (p ++ stream [])) = [] :=
      eq_nil_of_flatten (fun l hl => (Stream.isCut_lines _).ne_nil l (List.mem_of_mem_filter hl)) (Nat.le_zero.1 h)
    rw [unmarked_of_marked hnil, hnil, (Stream.isCut_lines _).flatten_eq]
    exact ⟨rfl, rfl⟩
  | cons w ws ih =>
    have hws' : ∀ raw, Write.record raw ∈ ws → IsRecordLine d raw :=
      fun raw hraw => hws raw (List.mem_cons_of_mem w hraw)
    cases w with
    | output bs =>
      have hstream : p ++ stream (.output bs :: ws) = p ++ bs ++ stream ws := (List.append_assoc p bs _).symm
      rw [hstream] at h ⊢
      obtain ⟨hmarked, hunmarked⟩ := ih hws' h
      exact ⟨hmarked, hunmarked.trans (List.append_assoc p bs _)⟩
    | record raw =>
      obtain ⟨ls, u, hp, hne, hmarked, hunmarked⟩ := lines_record (hws raw List.mem_cons_self) p (stream ws)
      have hleast := length_records_le hws' []
      rw [show stream (.record raw :: ws) = raw ++ stream ws from rfl,
        show records (.record raw :: ws) = raw :: records ws from rfl] at h ⊢
      rw [hmarked] at h ⊢
      rw [hunmarked]
      rw [List.nil_append] at hleast
      simp only [List.flatten_append, List.flatten_cons, List.length_append] at h
      -- nothing but the record stands in its line, and no line before it has the delimiter
      have hbefore : marked d ls = [] :=
        eq_nil_of_flatten (fun l hl => hne l (List.mem_of_mem_filter hl)) (by omega)
      obtain rfl : u = [] := List.eq_nil_of_length_eq_zero (by omega)
      obtain ⟨hrecords, hwritten⟩ := ih hws' (p := []) (by rw [List.nil_append]; omega)
      rw [List.nil_append] at hrecords hwritten
      rw [List.append_nil] at hp
      refine ⟨by rw [hbefore, hrecords]; rfl, ?_⟩
      rw [unmarked_of_marked hbefore, List.flatten_append, hwritten, hp]
      rfl

end writes

end lines

/-! ## What is passed on -/

section runs
variable {fs : FileSystem} {s : Settings} {c : Collector} {raws : List Bytes}

theorem step_relayed {c' : Collector} {raw : Bytes} (h : c.step fs s raw = .next c' .relayed) :
    isMarked s.delimiter raw = false := by
  have hother (hstep : c.takeOther s (Text.ofBytes raw) = .next c' .relayed) : isMarked s.delimiter raw = false := by
    rw [Collector.takeOther] at hstep
    split at hstep
    next => cases hstep
    next =>
      split at hstep
      next hrelayed =>
        rw [Bool.and_eq_true, Bool.not_eq_true'] at hrelayed
        exact hrelayed.2
      next => cases hstep
  rw [Collector.step] at h
  split at h
  next => cases h
  next => cases h
  next r _ =>
    rw [Collector.takeRecord] at h
    dsimp only at h
    split at h
    next => cases h
    next => split at h <;> cases h
  next => exact hother h

/-- Only lines without the delimiter are passed on, in their order. -/
theorem relayed_sublist : ((collectFrom fs s c raws).relayed raws).Sublist (unmarked s.delimiter raws) := by
  induction raws generalizing c with
  | nil => exact List.Sublist.refl []
  | cons raw raws ih =>
    have htail : (unmarked s.delimiter raws).Sublist (unmarked s.delimiter (raw :: raws)) :=
      (List.sublist_cons_self raw raws).filter _
    cases hstep : c.step fs s raw with
    | next c' e =>
      by_cases he : e = .relayed
      · subst he
        rw [relayed_of_relayed hstep, unmarked, List.filter_cons_of_pos (by rw [step_relayed hstep]; rfl)]
        exact ih.cons_cons raw
      · rw [relayed_of_ne hstep he]
        exact ih.trans htail
    | collision =>
      rw [collectFrom, hstep]
      exact List.nil_sublist _
    | failed c' f =>
      rw [collectFrom, hstep]
      exact List.nil_sublist _

theorem step_of_unmarked {raw : Bytes} (hrelays : s.relaysOthers = true) (hword : c.inWord = false)
    (hraw : isMarked s.delimiter raw = false) : c.step fs s raw = .next c .relayed := by
  rw [step_of_not_contains fs hraw, Collector.takeOther, hword, hrelays, ← isMarked, hraw]
  rfl

theorem step_of_recordLine {raw : Bytes} (h : IsRecordLine s.delimiter raw) :
    (∃ c' e, c.step fs s raw = .next c' e ∧ e ≠ .relayed ∧ c'.inWord = false) ∨
      ∃ c' f, c.step fs s raw = .failed c' f := by
  obtain ⟨r, hr⟩ := h.isRecord
  rw [Collector.step]
  simp only [hr, Collector.takeRecord, h.isClosed]
  split
  next => exact Or.inl ⟨_, _, rfl, by simp, rfl⟩
  next =>
    split
    next => exact Or.inr ⟨_, _, rfl⟩
    next => exact Or.inl ⟨_, _, rfl, by simp, rfl⟩
    next => exact Or.inl ⟨_, _, rfl, by simp, rfl⟩

/-- If each line with the delimiter is a record, the others are passed on, up to where the collection ends. -/
theorem relayed_of_records (hrelays : s.relaysOthers = true) (hword : c.inWord = false)
    (hraws : ∀ raw ∈ raws, isMarked s.delimiter raw = true → IsRecordLine s.delimiter raw) :
    let r := collectFrom fs s c raws
    r.relayed raws = unmarked s.delimiter (raws.take r.effects.length) := by
  intro r
  simp only [r]
  induction raws generalizing c with
  | nil => rfl
  | cons raw raws ih =>
    obtain ⟨hraw, hraws⟩ := List.forall_mem_cons.1 hraws
    cases hmarked : isMarked s.delimiter raw with
    | true =>
      rcases @step_of_recordLine fs s c raw (hraw hmarked) with ⟨c', e, hstep, he, hword'⟩ | ⟨c', f, hstep⟩
      · rw [relayed_of_ne hstep he, ih hword' hraws, collectFrom_of_next hstep]
        simp [unmarked, hmarked]
      · rw [collectFrom, hstep]
        rfl
    | false =>
      have hstep : c.step fs s raw = .next c .relayed := step_of_unmarked hrelays hword hmarked
      rw [relayed_of_relayed hstep, ih hword hraws, collectFrom_of_next hstep]
      simp [unmarked, hmarked]

end runs

/-! ## Whole lines -/

theorem lines_append_of_whole {bs : Bytes} (h : bs = [] ∨ ∃ t, bs = t ++ [10]) (rest : Bytes) :
    Stream.lines (bs ++ rest) = Stream.lines bs ++ Stream.lines rest := by
  rcases h with rfl | ⟨t, rfl⟩
  · rfl
  · rw [Stream.lines_eq_cutAfter, Stream.lines_eq_cutAfter, Stream.lines_eq_cutAfter, cutAfter_append]

theorem marked_lines_of_not_contains {d : Text} {bs : Bytes} (h : Text.contains d (Text.ofBytes bs) = false) :
    marked d (Stream.lines bs) = [] := by
  refine List.filter_eq_nil_iff.2 fun l hl => ?_
  have hcut : Text.ofBytes l ∈ cutAfter 10 (Text.ofBytes bs) := map_ofBytes_lines bs ▸ List.mem_map_of_mem hl
  obtain ⟨a, y, e, b, hbs, hl, -, -⟩ := eq_append_of_mem_cutAfter hcut
  rw [Bool.not_eq_true, isMarked, Text.contains_eq_false_iff]
  intro v w hvw
  refine Text.contains_eq_false_iff.1 h (a ++ v) (w ++ b) ?_
  rw [hbs, ← hl, hvw]
  simp

/-- If the script writes whole lines without the delimiter, the lines with the delimiter are the records. -/
theorem marked_of_whole {d : Text} {ws : List Write} (hws : ∀ raw, Write.record raw ∈ ws → IsRecordLine d raw)
    (hwhole : ∀ bs, Write.output bs ∈ ws →
      (bs = [] ∨ ∃ t, bs = t ++ [10]) ∧ Text.contains d (Text.ofBytes bs) = false) :
    marked d (Stream.lines (stream ws)) = records ws := by
  induction ws with
  | nil => rfl
  | cons w ws ih =>
    have hrest := ih (fun raw hraw => hws raw (List.mem_cons_of_mem w hraw))
      fun bs hbs => hwhole bs (List.mem_cons_of_mem w hbs)
    cases w with
    | output bs =>
      obtain ⟨hend, hfree⟩ := hwhole bs List.mem_cons_self
      rw [show stream (.output bs :: ws) = bs ++ stream ws from rfl, lines_append_of_whole hend, marked,
        List.filter_append, ← marked, ← marked, marked_lines_of_not_contains hfree, hrest]
      rfl
    | record raw =>
      obtain ⟨ls, u, hp, hne, hmarked, -⟩ := lines_record (hws raw List.mem_cons_self) [] (stream ws)
      obtain ⟨hls, rfl⟩ := List.append_eq_nil_iff.1 hp
      rw [eq_nil_of_flatten hne (congrArg List.length hls), hrest] at hmarked
      exact hmarked

/-! ## What the script wrote -/

/-- **What is passed on of a shared stream.** A script and the shell that traces it write to one stream, the shell
whole lines with records that open no word. Exactly what the script wrote is passed on just if the lines with the
delimiter are the records, and none of the other lines is left when the collection ends, as it does at a record whose
file cannot be looked for. The lines with the delimiter are the records if the script writes whole lines without the
delimiter. -/
theorem relayed_shared (fs : FileSystem) (s : Settings) (ws : List Write) (hrelays : s.relaysOthers = true)
    (hws : ∀ raw, Write.record raw ∈ ws → IsRecordLine s.delimiter raw) :
    let raws := Stream.lines (stream ws)
    let r := collect fs s raws
    ((r.relayed raws).flatten = written ws ↔
      marked s.delimiter raws = records ws ∧ unmarked s.delimiter (raws.drop r.effects.length) = []) ∧
    ((∀ bs, Write.output bs ∈ ws →
        (bs = [] ∨ ∃ t, bs = t ++ [10]) ∧ Text.contains s.delimiter (Text.ofBytes bs) = false) →
      marked s.delimiter raws = records ws) := by
  intro raws r
  refine ⟨?_, marked_of_whole hws⟩
  -- where the lines with the delimiter are the records, the others are passed on until the collection ends
  have htaken (hmarked : marked s.delimiter raws = records ws) :
      r.relayed raws = unmarked s.delimiter (raws.take r.effects.length) := by
    refine relayed_of_records (c := {}) hrelays rfl fun raw hraw hraw' => hws raw ?_
    have hmem : raw ∈ records ws := hmarked ▸ List.mem_filter.2 ⟨hraw, hraw'⟩
    obtain ⟨w, hw, hwraw⟩ := List.mem_filterMap.1 hmem
    cases w with
    | output bs => cases hwraw
    | record raw' =>
      cases hwraw
      exact hw
  have hsplit : (unmarked s.delimiter (raws.take r.effects.length)).flatten ++
      (unmarked s.delimiter (raws.drop r.effects.length)).flatten = (unmarked s.delimiter raws).flatten := by
    rw [← List.flatten_append, unmarked, unmarked, ← List.filter_append, List.take_append_drop, unmarked]
  have hlen := length_marked_add_unmarked s.delimiter raws
  constructor
  · intro hrelayed
    -- so many bytes are passed on that there are none left for other lines with the delimiter
    have hle : (written ws).length ≤ (unmarked s.delimiter raws).flatten.length := by
      rw [← hrelayed]
      exact (relayed_sublist.flatten).length_le
    rw [(Stream.isCut_lines _).flatten_eq, length_stream] at hlen
    have hfew : (marked s.delimiter raws).flatten.length ≤ (records ws).flatten.length := by omega
    obtain ⟨hmarked, hwritten⟩ := written_of_length hws (p := []) hfew
    refine ⟨hmarked, eq_nil_of_flatten (fun l hl => ?_) ?_⟩
    · exact (Stream.isCut_lines _).ne_nil _ (List.mem_of_mem_drop (List.mem_of_mem_filter hl))
    · rw [htaken hmarked] at hrelayed
      rw [hrelayed] at hsplit
      have hrest := List.append_cancel_left (hsplit.trans (hwritten.trans (List.append_nil (written ws)).symm))
      rw [hrest]
      rfl
  · rintro ⟨hmarked, hnone⟩
    have hfew : (marked s.delimiter raws).flatten.length ≤ (records ws).flatten.length := by rw [hmarked]
    have hwritten := (written_of_length hws (p := []) hfew).2
    rw [hnone, List.flatten_nil, List.append_nil] at hsplit
    rw [htaken hmarked, hsplit]
    exact hwritten

/-- A last line without a line feed is passed on too. -/
theorem relayed_shared_openLine :
    let fs : FileSystem := ⟨.directory 0o755 [], []⟩
    let s : Settings := ⟨"zz", "/rc", true⟩
    let ws : List Write :=
      [.output "a\n", .record "+zzsource=/azzline=1zzpwd=/zzoldpwd=zzdirstack=zz ls\n", .output "b"]
    let raws := Stream.lines (stream ws)
    ((collect fs s raws).relayed raws).flatten = "a\nb" := by
  intro fs s ws raws
  let raw : Bytes := "+zzsource=/azzline=1zzpwd=/zzoldpwd=zzdirstack=zz ls\n"
  have hread : read "zz" (Text.ofBytes raw) = .record ⟨"/a", 1, "/", "", []⟩ := by decide +kernel
  have hclosed : oddQuotes (Collector.commandText "zz" (Text.ofBytes raw)) = false := by decide +kernel
  have hws : ∀ raw, Write.record raw ∈ ws → IsRecordLine "zz" raw := by
    intro raw' hraw'
    simp only [ws, List.mem_cons, reduceCtorEq, Write.record.injEq, List.not_mem_nil, or_false, false_or] at hraw'
    subst hraw'
    exact ⟨⟨"+zzsource=/azzline=1zzpwd=/zzoldpwd=zzdirstack=zz ls", by decide +kernel, by decide +kernel⟩,
      ⟨_, hread⟩, hclosed⟩
  have hmarked : marked "zz" raws = records ws := by decide +kernel
  have hnone : unmarked "zz" (raws.drop (collect fs s raws).effects.length) = [] := by
    have hfile : ∃ a, (({} : Resolver).resolve fs ⟨"/a", 1, "/", "", []⟩).2 = .ok a := by
      refine ⟨none, ?_⟩
      simp only [fs]
      cbv
    have hraws : raws = [("a\n" : Bytes), raw, "b"] := by decide +kernel
    have hfirst : ({} : Collector).step fs s "a\n" = .next {} .relayed := step_of_unmarked rfl rfl (by decide +kernel)
    obtain ⟨c, e, hsecond, -, hword⟩ := step_of_reading (s := s) (c := {}) hread hfile
    have hthird : c.step fs s "b" = .next c .relayed := step_of_unmarked rfl (hword.trans hclosed) (by decide +kernel)
    rw [hraws, collect, collectFrom_of_next hfirst, collectFrom_of_next hsecond, collectFrom_of_next hthird]
    rfl
  exact ((relayed_shared fs s ws rfl hws).1.2 ⟨hmarked, hnone⟩).trans (by decide +kernel)

/-- Output without a line feed before a record is lost: with the delimiter its line is dropped, and a mark of depth is
taken for one of the record. -/
theorem relayed_shared_lost :
    let fs : FileSystem := ⟨.directory 0o755 [], []⟩
    let s : Settings := ⟨"zz", "/rc", true⟩
    let record : Bytes := "+zzsource=/azzline=1zzpwd=/zzoldpwd=zzdirstack=zz ls\n"
    let relayed (ws : List Write) : Bytes :=
      ((collect fs s (Stream.lines (stream ws))).relayed (Stream.lines (stream ws))).flatten
    IsRecordLine "zz" record ∧ relayed [.output "foo", .record record] = [] ∧
      relayed [.output "+", .record record] = [] := by
  intro fs s record relayed
  let line : Bytes := "+zzsource=/azzline=1zzpwd=/zzoldpwd=zzdirstack=zz ls"
  have hline : record = line ++ [10] ∧ 10 ∉ line := by decide +kernel
  have hread : read "zz" (Text.ofBytes record) = .record ⟨"/a", 1, "/", "", []⟩ := by decide +kernel
  refine ⟨⟨⟨line, hline⟩, ⟨_, hread⟩, by decide +kernel⟩, by decide +kernel, ?_⟩
  have hlines : Stream.lines (stream [.output "+", .record record]) = [43 :: record] := by decide +kernel
  have hdeep : read "zz" (Text.ofBytes (43 :: record)) = .record ⟨"/a", 1, "/", "", []⟩ := by decide +kernel
  have hfile : ∃ a, (({} : Resolver).resolve fs ⟨"/a", 1, "/", "", []⟩).2 = .ok a := by
    refine ⟨none, ?_⟩
    simp only [fs]
    cbv
  obtain ⟨c, e, hstep, he, -⟩ := step_of_reading (s := s) (c := {}) hdeep hfile
  simp only [relayed]
  rw [hlines, collect, relayed_of_ne hstep he]
  rfl

end Trace

end ShellCoverage
