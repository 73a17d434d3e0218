import ShellCoverage.Proofs.Trace.Interleaving
import ShellCoverage.Proofs.Trace.Quotes
import ShellCoverage.Proofs.Trace.Transcript

/-!
# Commands that are traced over several lines

A command whose words hold line feeds is traced over several lines, of which only the first is a record. If
other lines are passed on, the rest of the command has to be held back, and the line after it not.
`relayed_command` says when this is so: at each line feed of a word and at the end of the command, the number
of quotes before that come right after a backslash of a word, or close a word that ends in one, has to be
even. They are not counted, and each of them makes an open word pass for a closed one and a closed one for an
open one (`relayed_command_backslash`).

* `HeldBack` : lines that are held back, and end a word;
* `heldBack_cutAfter` : the lines of a text that is broken inside words only;
* `relayed_of_foreign` : what is passed on of lines that are no records.
-/

namespace ShellCoverage.Trace

/-! ## Lines that are held back -/

/-- A word that is open, if `inWord` says so, goes on in each of the lines and ends with the last one. -/
def HeldBack (inWord : Bool) : List Text → Prop
  | [] => inWord = false
  | l :: ls => inWord = true ∧ HeldBack (inWord != oddQuotes l) ls

theorem quotes_lineFeed (t : Text) : quotes (t ++ [10]) = quotes t := quotes_concat (by decide) t

/-- The blank before a command and the line feed after its first line are no quotes. -/
theorem oddQuotes_firstLine (t : Text) : oddQuotes (32 :: (t ++ [10])) = oddQuotes t := by
  rw [oddQuotes_eq, oddQuotes_eq, quotes_cons (by decide) (by decide), quotes_lineFeed]

/-- A collector's view of a word is the parity of all quotes so far. -/
theorem bne_oddQuotes (n : Nat) (t : Text) :
    (decide (n % 2 = 1) != oddQuotes t) = decide ((n + quotes t) % 2 = 1) := by
  rw [oddQuotes_eq, Bool.eq_iff_iff]
  simp only [bne_iff_ne, ne_eq, decide_eq_decide, decide_eq_true_eq]
  omega

theorem quotes_append_lineFeed (a b : Text) : quotes (a ++ 10 :: b) = quotes a + quotes b := by
  rw [quotes_append (apart_of_head? (by simp)), quotes_cons (by decide) (by decide)]

theorem openAtBreaks_lineFeed {n : Nat} : OpenAtBreaks n [10] ↔ n % 2 = 1 := by
  constructor
  · exact fun h => h [] [] rfl
  · intro h x y hxy
    rcases List.cons_eq_append_iff.1 hxy with ⟨rfl, -⟩ | ⟨z, rfl, hz⟩
    · exact h
    · simp at hz

theorem openAtBreaks_append_lineFeed {n : Nat} {a b : Text} (ha : 10 ∉ a) :
    OpenAtBreaks n (a ++ 10 :: b) ↔ (n + quotes a) % 2 = 1 ∧ OpenAtBreaks (n + quotes a) b := by
  rw [← List.singleton_append, ← List.append_assoc, openAtBreaks_append (apart_of_getLast? (by simp)),
    openAtBreaks_append (apart_of_head? (by simp)), iff_true_intro (openAtBreaks_of_notMem ha), true_and,
    openAtBreaks_lineFeed, quotes_lineFeed]

/-- The lines of a text are held back and end a word just if a word is open at the head of the text and at
each of its line feeds, and none at its end. -/
theorem heldBack_cutAfter {n : Nat} (t : Text) :
    HeldBack (decide (n % 2 = 1)) (cutAfter 10 (t ++ [10])) ↔
      n % 2 = 1 ∧ OpenAtBreaks n t ∧ (n + quotes t) % 2 = 0 := by
  obtain ⟨k, hk⟩ : ∃ k, t.length = k := ⟨_, rfl⟩
  induction k using Nat.strongRecOn generalizing n t with
  | ind k ih =>
    rcases notMem_or_eq_append 10 t with ht | ⟨a, b, rfl, ha⟩
    · rw [cutAfter_append_cons ht [], HeldBack, bne_oddQuotes, quotes_lineFeed,
        iff_true_intro (openAtBreaks_of_notMem ht), true_and, decide_eq_true_iff]
      simp only [cutAfter, HeldBack, decide_eq_false_iff_not]
      omega
    · have hlt : b.length < k := by
        rw [List.length_append, List.length_cons] at hk
        omega
      rw [List.append_assoc, List.cons_append, cutAfter_append_cons ha, HeldBack, bne_oddQuotes,
        quotes_lineFeed, ih b.length hlt b rfl, openAtBreaks_append_lineFeed ha, quotes_append_lineFeed,
        decide_eq_true_iff, and_assoc, Nat.add_assoc]

/-! ## Lines that are no records -/

section foreign
variable {fs : FileSystem} {s : Settings} {c c' : Collector} {raw : Bytes} {raws : List Bytes}

theorem relayed_of_relayed (h : c.step fs s raw = .next c' .relayed) :
    (collectFrom fs s c (raw :: raws)).relayed (raw :: raws) =
      raw :: (collectFrom fs s c' raws).relayed raws := by
  rw [collectFrom_of_next h]
  rfl

theorem relayed_of_ne {e : Effect} (h : c.step fs s raw = .next c' e) (he : e ≠ .relayed) :
    (collectFrom fs s c (raw :: raws)).relayed (raw :: raws) = (collectFrom fs s c' raws).relayed raws := by
  rw [collectFrom_of_next h]
  cases e <;> first | rfl | exact absurd rfl he

theorem ending_of_next {e : Effect} (h : c.step fs s raw = .next c' e) :
    (collectFrom fs s c (raw :: raws)).ending = (collectFrom fs s c' raws).ending := by
  rw [collectFrom_of_next h]

variable (fs) (hrelays : s.relaysOthers = true)
include hrelays

/-- Outside of a word all lines without the delimiter are passed on. -/
theorem relayed_of_closed (hword : c.inWord = false)
    (hforeign : ∀ raw ∈ raws, Text.contains s.delimiter (Text.ofBytes raw) = false) :
    (collectFrom fs s c raws).ending = .finished ∧ (collectFrom fs s c raws).relayed raws = raws := by
  induction raws with
  | nil => exact ⟨rfl, rfl⟩
  | cons raw raws ih =>
    obtain ⟨hraw, hraws⟩ := List.forall_mem_cons.1 hforeign
    have hstep : c.step fs s raw = .next c .relayed := by
      rw [step_of_not_contains fs hraw]
      simp [Collector.takeOther, hword, hrelays, hraw]
    obtain ⟨hending, hrelayed⟩ := ih hraws
    exact ⟨(ending_of_next hstep).trans hending, by rw [relayed_of_relayed hstep, hrelayed]⟩

omit hrelays in
/-- Inside of a word a line without the delimiter is held back. -/
theorem step_of_open (hword : c.inWord = true) (hraw : Text.contains s.delimiter (Text.ofBytes raw) = false) :
    c.step fs s raw = .next { c with inWord := c.inWord != oddQuotes (Text.ofBytes raw) } .continued := by
  rw [step_of_not_contains fs hraw, Collector.takeOther, if_pos hword]

/-- Of lines without the delimiter, the last one alone is passed on just if the others are held back. -/
theorem relayed_of_foreign {next : Bytes}
    (hforeign : ∀ raw ∈ raws ++ [next], Text.contains s.delimiter (Text.ofBytes raw) = false) :
    (collectFrom fs s c (raws ++ [next])).ending = .finished ∧
      ((collectFrom fs s c (raws ++ [next])).relayed (raws ++ [next]) = [next] ↔
        HeldBack c.inWord (raws.map Text.ofBytes)) := by
  induction raws generalizing c with
  | nil =>
    cases hword : c.inWord with
    | false =>
      obtain ⟨hending, hrelayed⟩ := relayed_of_closed fs hrelays hword hforeign
      exact ⟨hending, by rw [hrelayed]; simp [HeldBack]⟩
    | true =>
      have hstep := step_of_open fs hword (hforeign next (by simp))
      refine ⟨ending_of_next hstep, ?_⟩
      rw [List.nil_append, relayed_of_ne hstep (by simp)]
      simp [collectFrom, Collected.relayed, HeldBack]
  | cons raw raws ih =>
    cases hword : c.inWord with
    | false =>
      obtain ⟨hending, hrelayed⟩ := relayed_of_closed fs hrelays hword hforeign
      exact ⟨hending, by rw [hrelayed]; simp [HeldBack]⟩
    | true =>
      obtain ⟨hraw, hraws⟩ := List.forall_mem_cons.1 hforeign
      have hstep := step_of_open fs hword hraw
      let c' : Collector := { c with inWord := c.inWord != oddQuotes (Text.ofBytes raw) }
      obtain ⟨hending, hrelayed⟩ := ih (c := c') hraws
      refine ⟨(ending_of_next hstep).trans hending, ?_⟩
      rw [List.cons_append, relayed_of_ne hstep (by simp), hrelayed, List.map_cons, HeldBack]
      simp [c', hword]

end foreign

/-! ## The lines of a command -/

theorem step_of_reading {fs : FileSystem} {s : Settings} {c : Collector} {raw : Bytes} {r : Record}
    (hread : read s.delimiter (Text.ofBytes raw) = .record r)
    (hfile : ∃ a, (c.resolver.resolve fs r).2 = .ok a) :
    ∃ c' e, c.step fs s raw = .next c' e ∧ e ≠ .relayed ∧
      c'.inWord = oddQuotes (Collector.commandText s.delimiter (Text.ofBytes raw)) := by
  obtain ⟨a, ha⟩ := hfile
  rw [Collector.step]
  simp only [hread, Collector.takeRecord]
  split
  · exact ⟨_, _, rfl, by simp, rfl⟩
  · generalize c.resolver.resolve fs r = answer at ha
    obtain ⟨resolver, answer⟩ := answer
    cases ha
    cases a with
    | none => exact ⟨_, _, rfl, by simp, rfl⟩
    | some at_ => exact ⟨_, _, rfl, by simp, rfl⟩

section command
variable {d : Text} {c : Command} (hd : d ≠ []) (hten : (10 : CodePoint) ∉ d)
  (hocc : ∀ i ∈ Text.occurrences d (c.render d), i ∈ c.brackets d)
include hd hten hocc

/-- The command of the first line is what comes after its blank. -/
theorem commandText_firstLine {y u : Text} (htail : c.tail = y ++ u) :
    Collector.commandText d (Command.render d { c with tail := y } ++ [10]) = 32 :: (y ++ [10]) := by
  let before := List.replicate c.depth depthMark ++ Field.all.flatMap (fieldText d c.value)
  have hline : Command.render d { c with tail := y } ++ [10] = before ++ d ++ 32 :: (y ++ [10]) := by
    simp [before, Command.render, body, CodePoint.ofChar]
  have hlast : Text.afterLast? d (Command.render d { c with tail := y } ++ [10]) =
      some (32 :: (y ++ [10])) := by
    refine Text.afterLast?_eq_some hline fun v w hvw => ?_
    have hmem : v.length ∈ Text.occurrences d (Command.render d { c with tail := y } ++ [10]) := by
      rw [hvw]
      exact Text.length_mem_occurrences v d w
    have hmem := Text.add_mem_occurrences [] u (Text.mem_occurrences_of_concat hd hten hmem)
    rw [List.nil_append, ← Command.render_of_tail htail, List.length_nil, Nat.zero_add] at hmem
    have hle := c.bracket_le d _ (hocc _ hmem)
    simp only [Command.fields, List.length_append] at hle
    simp only [before, List.length_append, List.length_replicate]
    omega
  rw [Collector.commandText, hlast, Option.getD_some]

/-- No line of a command but the first holds the delimiter. -/
theorem not_contains_of_tail {y z l : Text} (htail : c.tail = y ++ 10 :: z)
    (hl : l ∈ cutAfter 10 (z ++ [10])) : Text.contains d l = false := by
  refine Text.contains_eq_false_iff.2 fun v w hvw => ?_
  obtain ⟨a, x, e, b, hcut, rfl, -, -⟩ := eq_append_of_mem_cutAfter hl
  have hmem : (a ++ v).length ∈ Text.occurrences d (z ++ [10]) := by
    rw [hcut, hvw, show a ++ (v ++ d ++ w) ++ b = a ++ v ++ d ++ (w ++ b) by simp]
    exact Text.length_mem_occurrences _ _ _
  have hnone := Text.mem_occurrences_of_concat hd hten hmem
  rw [occurrences_of_tail hocc htail] at hnone
  cases hnone

/-- The lines of a command: after the first one, none holds the delimiter, and they are held back just if a
word is open at each line feed and none at the end. -/
theorem exists_lines (hwhole : c.isUnbroken = true) :
    ∃ y u ls, c.tail = y ++ u ∧
      cutAfter 10 (c.render d ++ [10]) = (Command.render d { c with tail := y } ++ [10]) :: ls ∧
      (∀ l ∈ ls, Text.contains d l = false) ∧
      (HeldBack (oddQuotes y) ls ↔ OpenAtBreaks 0 c.tail ∧ quotes c.tail % 2 = 0) := by
  rcases notMem_or_eq_append 10 c.tail with hy | ⟨y, z, htail, hy⟩
  · have hline : 10 ∉ c.render d := Command.lineFeed_notMem_render hten hwhole hy
    refine ⟨c.tail, [], [], (List.append_nil _).symm, cutAfter_append_cons hline [], by simp, ?_⟩
    rw [HeldBack, oddQuotes_eq, iff_true_intro (openAtBreaks_of_notMem hy), true_and, decide_eq_false_iff_not]
    omega
  · have hfirst : 10 ∉ Command.render d { c with tail := y } :=
      Command.lineFeed_notMem_render hten hwhole hy
    refine ⟨y, 10 :: z, cutAfter 10 (z ++ [10]), htail, ?_,
      fun l hl => not_contains_of_tail hd hten hocc htail hl, ?_⟩
    · rw [Command.render_of_tail htail, List.append_assoc, List.cons_append, cutAfter_append_cons hfirst]
    · rw [oddQuotes_eq, heldBack_cutAfter, htail, openAtBreaks_append_lineFeed hy, quotes_append_lineFeed]
      simp only [Nat.zero_add, and_assoc]

end command

/-- **When the rest of a command is held back.** A command is traced over the lines of `bs`, its words as the
shell prints them, and a line `next` without the delimiter comes after it. That line alone is passed on just
if the number of quotes that are left out is even before each line feed of a word, and in all words together.
The quotes left out are those right after a backslash of a word, its closing quote included. -/
theorem relayed_command (fs : FileSystem) (s : Settings) (c : Collector) (special : CodePoint → Bool)
    (cmd : Command) (ws : List Text) (bs next : Bytes) (hd : s.delimiter ≠ []) (hten : 10 ∉ s.delimiter)
    (hrelays : s.relaysOthers = true) (hdepth : 0 < cmd.depth) (hline : Numeral.IsDecimal (cmd.value .line))
    (hwhole : cmd.isUnbroken = true)
    (hocc : ∀ i ∈ Text.occurrences s.delimiter (cmd.render s.delimiter), i ∈ cmd.brackets s.delimiter)
    (htail : cmd.tail = printedCommand special ws)
    (hfile : ∃ a, (c.resolver.resolve fs cmd.record).2 = .ok a)
    (hbs : Text.ofBytes bs = cmd.render s.delimiter ++ [10])
    (hnext : Text.contains s.delimiter (Text.ofBytes next) = false) :
    let raws := Stream.lines bs ++ [next]
    (collectFrom fs s c raws).ending = .finished ∧
      ((collectFrom fs s c raws).relayed raws = [next] ↔
        (∀ before w after u v, ws = before ++ w :: after → w = u ++ 10 :: v →
          (leftOut before + escapes u) % 2 = 0) ∧ leftOut ws % 2 = 0) := by
  intro raws
  obtain ⟨y, u, ls, hy, hlines, hforeign, hheld⟩ := exists_lines hd hten hocc hwhole
  have hmap := map_ofBytes_lines bs
  rw [hbs, hlines] at hmap
  obtain ⟨raw, rest, hraws, hraw, hrest⟩ := List.map_eq_cons_iff.1 hmap
  -- the first line is a record, and opens the word
  have hread : read s.delimiter (Text.ofBytes raw) = .record cmd.record := by
    rw [hraw]
    exact read_firstLine hd hten hdepth hline hocc hy
  obtain ⟨c', e, hstep, he, hword⟩ := step_of_reading hread hfile
  rw [hraw, commandText_firstLine hd hten hocc hy, oddQuotes_firstLine] at hword
  -- the other lines are held back or not
  have hothers : ∀ raw ∈ rest ++ [next], Text.contains s.delimiter (Text.ofBytes raw) = false := by
    intro raw' hraw'
    rcases List.mem_append.1 hraw' with h | h
    · exact hforeign _ (hrest ▸ List.mem_map_of_mem h)
    · rw [List.mem_singleton.1 h, hnext]
  obtain ⟨hending, hrelayed⟩ := relayed_of_foreign fs (c := c') hrelays hothers
  rw [hword, hrest, hheld, htail, openAtBreaks_printedCommand, quotes_printedCommand] at hrelayed
  simp only [raws, hraws, List.cons_append]
  refine ⟨(ending_of_next hstep).trans hending, ?_⟩
  rw [relayed_of_ne hstep he, hrelayed]
  simp only [Nat.zero_add]

theorem relayed_command_brokenWord :
    let s : Settings := ⟨"zz", "/rc", true⟩
    let bs : Bytes := "+zzsource=/azzline=1zzpwd=/zzoldpwd=zzdirstack=zz echo 'it'\\''s\nall'\n"
    let next : Bytes := "hello\n"
    let raws := Stream.lines bs ++ [next]
    raws.length = 3 ∧ (collectFrom ⟨.directory 0o755 [], []⟩ s {} raws).relayed raws = [next] := by
  intro s bs next raws
  let ws : List Text := ["echo", "it's\nall"]
  let cmd : Command := ⟨1, fieldsWith "/a" "1" "/" [] [], printedCommand (fun _ => false) ws⟩
  have hplain : ∀ w ∈ ws, 92 ∉ w := by decide
  have hfile : ∃ a, (({} : Resolver).resolve ⟨.directory 0o755 [], []⟩ cmd.record).2 = .ok a := by
    refine ⟨none, ?_⟩
    simp only [cmd]
    cbv
  have h := relayed_command ⟨.directory 0o755 [], []⟩ s {} (fun _ => false) cmd ws bs next
    (by decide) (by decide) rfl (by decide)
    ⟨by decide, List.all_eq_true.1 (by decide), by decide⟩ (by decide)
    (by decide +kernel) rfl hfile (by decide +kernel) (by decide +kernel)
  refine ⟨by decide +kernel, h.2.2 ⟨fun before w after u v hws hw => ?_, ?_⟩⟩
  · have hbefore : leftOut before = 0 := leftOut_of_notMem fun x hx => hplain x (by rw [hws]; simp [hx])
    have hu : 92 ∉ u := fun hmem => hplain w (by rw [hws]; simp) (by rw [hw]; simp [hmem])
    rw [hbefore, escapes_of_notMem hu]
  · rw [leftOut_of_notMem hplain]

/-- A word that ends in a backslash passes for one that goes on: the line after its command is held back. -/
theorem relayed_command_backslash :
    let s : Settings := ⟨"zz", "/rc", true⟩
    let cmd : Command :=
      ⟨1, fieldsWith "/a" "1" "/" [] [], printedCommand (fun _ => false) ["echo", "a\\"]⟩
    let raw : Bytes := "+zzsource=/azzline=1zzpwd=/zzoldpwd=zzdirstack=zz echo 'a\\'\n"
    let next : Bytes := "hello\n"
    Text.ofBytes raw = cmd.render "zz" ++ [10] ∧
      (collect ⟨.directory 0o755 [], []⟩ s [raw, next]).relayed [raw, next] = [] := by
  intro s cmd raw next
  have hread : read "zz" (Text.ofBytes raw) = .record cmd.record := by decide +kernel
  have hword : oddQuotes (Collector.commandText "zz" (Text.ofBytes raw)) = true := by decide +kernel
  have hnext : Text.contains "zz" (Text.ofBytes next) = false := by decide +kernel
  have hfile : ∃ a, (({} : Resolver).resolve ⟨.directory 0o755 [], []⟩ cmd.record).2 = .ok a := by
    refine ⟨none, ?_⟩
    simp only [cmd]
    cbv
  obtain ⟨c, e, hstep, he, hc⟩ := step_of_reading (s := s) (c := {}) hread hfile
  have hheld := step_of_open ⟨.directory 0o755 [], []⟩ (s := s) (hc.trans hword) hnext
  refine ⟨by decide +kernel, ?_⟩
  rw [collect, relayed_of_ne hstep he, relayed_of_ne hheld (by simp)]
  rfl

end ShellCoverage.Trace
