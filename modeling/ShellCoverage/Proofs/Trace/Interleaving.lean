import ShellCoverage.Proofs.Trace.Counting
import ShellCoverage.Proofs.Trace.Pieces

/-!
# Traces that share their stream

A shell that has no descriptor of its own for a trace writes it to the error stream, where the output of
scripts stands between its lines. `collect_interleaved` says that this output makes no difference to what is
collected: a line without the delimiter may be passed on, and may change whether a word is thought to go on,
but neither reaches the resolver, the counts or the way a collection ends.

* `Interleaves` : a list that is made of two others, each in its order;
* `Collector.Agrees` : collectors that differ in nothing but the word that may go on;
* `step_agrees`, `step_of_foreign` : what one line does to two collectors that agree, and to one of them;
* `collectFrom_agrees` : what all lines do.
-/

namespace ShellCoverage.Trace

/-- `merged` consists of the items of `as` and of `bs`, each in their order. -/
inductive Interleaves {α : Type} : (as bs merged : List α) → Prop where
  | nil : Interleaves [] [] []
  | left (a : α) {as bs merged : List α} :
      Interleaves as bs merged → Interleaves (a :: as) bs (a :: merged)
  | right (b : α) {as bs merged : List α} :
      Interleaves as bs merged → Interleaves as (b :: bs) (b :: merged)

/-! ## Agreement -/

/-- The collectors differ in nothing but the word that may go on. -/
structure Collector.Agrees (c c' : Collector) : Prop where
  resolver : c.resolver = c'.resolver
  counts : c.counts = c'.counts

theorem Collector.Agrees.refl (c : Collector) : c.Agrees c := ⟨rfl, rfl⟩

theorem Collector.Agrees.trans {c c' c'' : Collector} (h : c.Agrees c') (h' : c'.Agrees c'') : c.Agrees c'' :=
  ⟨h.resolver.trans h'.resolver, h.counts.trans h'.counts⟩

/-- The lines had the same outcome, whatever their effects were called. -/
inductive StepResult.Agrees : StepResult → StepResult → Prop where
  | next {c c' : Collector} (h : c.Agrees c') (e e' : Effect) : Agrees (.next c e) (.next c' e')
  | collision : Agrees .collision .collision
  | failed {c c' : Collector} (h : c.Agrees c') (f : Failure) : Agrees (.failed c f) (.failed c' f)

/-- The collections have the same resolver and counts, and ended in the same way. -/
structure Collected.Agrees (r r' : Collected) : Prop where
  collector : r.collector.Agrees r'.collector
  ending : r.ending = r'.ending

/-! ## Lines -/

section step
variable (fs : FileSystem) {s s' : Settings} {c c' : Collector}

theorem takeRecord_agrees (hstartup : s.startupFile = s'.startupFile) (h : c.Agrees c') (line : Text)
    (r : Record) : (c.takeRecord fs s line r).Agrees (c'.takeRecord fs s' line r) := by
  obtain ⟨resolver, counts, inWord⟩ := c
  obtain ⟨resolver', counts', inWord'⟩ := c'
  obtain ⟨rfl, rfl⟩ := h
  have hsame (res : Resolver) (cs : Counts) (w w' : Bool) : Collector.Agrees ⟨res, cs, w⟩ ⟨res, cs, w'⟩ :=
    ⟨rfl, rfl⟩
  simp only [Collector.takeRecord, hstartup]
  split
  · exact StepResult.Agrees.next (hsame _ _ _ _) _ _
  · rcases resolver.resolve fs r with ⟨resolver', e | _ | at_⟩
    · exact StepResult.Agrees.failed (hsame _ _ _ _) _
    · exact StepResult.Agrees.next (hsame _ _ _ _) _ _
    · exact StepResult.Agrees.next (hsame _ _ _ _) _ _

theorem takeOther_agrees (h : c.Agrees c') (line : Text) :
    (c.takeOther s line).Agrees (c'.takeOther s' line) := by
  obtain ⟨d, e, hd, hresolver, hcounts⟩ := takeOther_eq s c line
  obtain ⟨d', e', hd', hresolver', hcounts'⟩ := takeOther_eq s' c' line
  rw [hd, hd']
  exact .next ⟨by rw [hresolver, hresolver', h.resolver], by rw [hcounts, hcounts', h.counts]⟩ e e'

/-- Whether other lines are passed on, and whether a word goes on, does not reach the outcome of a line. -/
theorem step_agrees (hdelimiter : s.delimiter = s'.delimiter) (hstartup : s.startupFile = s'.startupFile)
    (h : c.Agrees c') (raw : Bytes) : (c.step fs s raw).Agrees (c'.step fs s' raw) := by
  rw [Collector.step, Collector.step, hdelimiter]
  cases read s'.delimiter (Text.ofBytes raw) with
  | collision => exact .collision
  | badLine e => exact .failed h _
  | record r => exact takeRecord_agrees fs hstartup h _ r
  | other => exact takeOther_agrees h _
  | truncated => exact takeOther_agrees h _
  | mislabelled p => exact takeOther_agrees h _

/-- A line without the delimiter is no record. -/
theorem step_of_not_contains {raw : Bytes} (h : Text.contains s.delimiter (Text.ofBytes raw) = false) :
    c.step fs s raw = c.takeOther s (Text.ofBytes raw) := by
  rw [Collector.step]
  simp only [read_of_not_contains h]

/-- A line without the delimiter leaves a collector as it is, but for the word that may go on. -/
theorem step_of_foreign {raw : Bytes} (h : Text.contains s.delimiter (Text.ofBytes raw) = false) :
    ∃ c' e, c.step fs s raw = .next c' e ∧ c'.Agrees c := by
  obtain ⟨c', e, hother, hresolver, hcounts⟩ := takeOther_eq s c (Text.ofBytes raw)
  exact ⟨c', e, (step_of_not_contains fs h).trans hother, hresolver, hcounts⟩

end step

/-! ## Runs -/

/-- Lines without the delimiter may be left out. -/
theorem collectFrom_agrees {fs : FileSystem} {s s' : Settings} {c c' : Collector}
    {trace output merged : List Bytes} (hdelimiter : s.delimiter = s'.delimiter)
    (hstartup : s.startupFile = s'.startupFile) (hmerged : Interleaves trace output merged)
    (houtput : ∀ raw ∈ output, Text.contains s.delimiter (Text.ofBytes raw) = false) (h : c.Agrees c') :
    (collectFrom fs s c merged).Agrees (collectFrom fs s' c' trace) := by
  induction hmerged generalizing c c' with
  | nil => exact ⟨h, rfl⟩
  | left raw _ ih =>
    have hstep := step_agrees fs hdelimiter hstartup h raw
    rw [collectFrom, collectFrom]
    generalize c.step fs s raw = first at hstep
    generalize c'.step fs s' raw = second at hstep
    cases hstep with
    | next hnext e e' =>
      have hrest := ih houtput hnext
      exact ⟨hrest.collector, hrest.ending⟩
    | collision => exact ⟨h, rfl⟩
    | failed hfailed f => exact ⟨hfailed, rfl⟩
  | right raw _ ih =>
    obtain ⟨hraw, houtput⟩ := List.forall_mem_cons.1 houtput
    obtain ⟨c₁, e, hstep, hsame⟩ := step_of_foreign fs (c := c) hraw
    have hrest := ih houtput (hsame.trans h)
    rw [collectFrom_of_next hstep]
    exact ⟨hrest.collector, hrest.ending⟩

/-- **Other output makes no difference.** Lines without the delimiter, wherever they stand among the lines of
a trace and whether they are passed on or not, change neither the counts nor the way the collection ends:
whether a record collides with the delimiter, whether something fails, and with which failure. -/
theorem collect_interleaved (fs : FileSystem) (d startup : Text) (relays : Bool)
    {trace output merged : List Bytes} (hmerged : Interleaves trace output merged)
    (houtput : ∀ raw ∈ output, Text.contains d (Text.ofBytes raw) = false) :
    let shared := collect fs ⟨d, startup, relays⟩ merged
    let apart := collect fs ⟨d, startup, false⟩ trace
    shared.collector.counts = apart.collector.counts ∧
      shared.collector.resolver = apart.collector.resolver ∧ shared.ending = apart.ending := by
  intro shared apart
  have h : shared.Agrees apart := collectFrom_agrees rfl rfl hmerged houtput (.refl {})
  exact ⟨h.collector.counts, h.collector.resolver, h.ending⟩

theorem collect_interleaved_openWord :
    let fs : FileSystem := ⟨.directory 0o755 [("a.sh", .file 0o644 [])], []⟩
    let opened : Bytes := "+0fsource=a.sh0fline=30fpwd=/0foldpwd=0fdirstack=0f echo 'x\n"
    let output : Bytes := "it's\n"
    let closed : Bytes := "y'\n"
    let collision : Bytes := "+0fsource=a.sh0fline=40fpwd=/0foldpwd=0fdirstack=0f 0f\n"
    let shared := collect fs ⟨"0f", "/rc", true⟩ [opened, output, closed, collision, output]
    let apart := collect fs ⟨"0f", "/rc", false⟩ [opened, closed, collision]
    Text.contains "0f" (Text.ofBytes output) = false ∧
      shared.collector.counts = apart.collector.counts ∧ shared.ending = apart.ending := by
  intro fs opened output closed collision shared apart
  have houtput : Text.contains "0f" (Text.ofBytes output) = false := by decide +kernel
  have hmerged : Interleaves [opened, closed, collision] [output, output]
      [opened, output, closed, collision, output] := .left _ (.right _ (.left _ (.left _ (.right _ .nil))))
  have h := collect_interleaved fs "0f" "/rc" true hmerged
    (List.forall_mem_cons.2 ⟨houtput, List.forall_mem_singleton.2 houtput⟩)
  exact ⟨houtput, h.1, h.2.2⟩

end ShellCoverage.Trace
