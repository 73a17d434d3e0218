import ShellCoverage.Proofs.Trace.Counting
import ShellCoverage.Proofs.Trace.Pieces

/-!
# Traces in another order

Processes that run at the same time write their traces in no certain order. If the names of the scripts are absolute,
this makes no difference to the counts: neither the directories that were seen nor a word that may go on has a part in
them. What is collected are the hits of the names and lines of the records, one by one.

* `IsSettled`, `Settings.Settles` : names that mean the same file in every directory, and lines with such names;
* `hit?` : the hit of such a name and a line, apart from any run;
* `step_of_settled`, `collectFrom_of_settled` : what one line and what all lines add to the counts;
* `CountsAlike` : collections with the same counts;
* `collect_order` : the order of the lines does not matter, and neither does anything but the names and the lines of the
  records.
-/

namespace ShellCoverage.Trace

/-! ## Names -/

/-- The name means the same file in every directory: it is absolute, or empty. -/
def IsSettled (source : Text) : Prop := source = [] ∨ Path.isAbsolute source = true

theorem candidates_of_isSettled {source : Text} (h : IsSettled source) (hist : History) :
    candidates hist source = candidates {} source := by
  unfold candidates
  rcases h with h | h
  · rw [if_pos h, if_pos h]
  · rw [if_pos h, if_pos h]

/-- What a record has to do with counts: the name of its script and its line. -/
def place (r : Record) : Text × Nat := (r.source, r.line)

/-- The hit of a name and a line, if the name means a file without a directory. -/
def hit? (fs : FileSystem) (at_ : Text × Nat) : Option Counts.Hit :=
  match findScript fs {} at_.1 with
  | .ok (some path) => some ⟨path, at_.2, 1⟩
  | _ => none

theorem mem_of_mem_testedPaths {fs : FileSystem} {p : Text} {ps : List Text} (h : p ∈ testedPaths fs ps) : p ∈ ps := by
  induction ps with
  | nil => exact h
  | cons q ps ih =>
    unfold testedPaths at h
    split at h
    · rcases List.mem_cons.1 h with rfl | h
      · exact List.mem_cons_self
      · exact List.mem_cons_of_mem q (ih h)
    · rw [List.mem_singleton.1 h]
      exact List.mem_cons_self

/-! ## Lines -/

section step
variable {fs : FileSystem} {s : Settings} {raw : Bytes}

theorem not_collides_of_not_isFatal (h : (read s.delimiter (Text.ofBytes raw)).isFatal = false) :
    s.collides raw = false := by
  unfold Settings.collides
  cases hq : read s.delimiter (Text.ofBytes raw) with
  | collision =>
    rw [hq] at h
    cases h
  | record _ | other | truncated | mislabelled _ | badLine _ => rfl

theorem not_badLine_of_not_isFatal (h : (read s.delimiter (Text.ofBytes raw)).isFatal = false) (e : Numeral.Error) :
    read s.delimiter (Text.ofBytes raw) ≠ .badLine e := by
  intro hq
  rw [hq] at h
  cases h

/-- The answer to a record with a settled name is found without its history. -/
theorem resolve_of_isSettled (hfs : fs.tree.isWellNamed = true) {r : Resolver} {rec : Record}
    (hsettled : IsSettled rec.source) (htests : ∀ p ∈ candidates {} rec.source, ∃ b, fs.isFile? p = .ok b) :
    ∃ a, (r.resolve fs rec).2 = .ok a ∧ ∀ c : Counts, counted c a = c.addHits (hit? fs (place rec)).toList := by
  have hcandidates := candidates_of_isSettled hsettled
  obtain ⟨found, hfound, -⟩ := firstFile_of_tests hfs fun p hp => htests p (mem_of_mem_testedPaths hp)
  rw [Resolver.resolve_eq]
  unfold Resolver.answer hit? place findScript
  simp only [hcandidates, hfound]
  cases found with
  | none => exact ⟨none, rfl, fun _ => rfl⟩
  | some path => exact ⟨some (path, rec.line), rfl, fun _ => rfl⟩

/-- A line adds the hit of its record, whatever lines came before. -/
theorem step_of_settled (hfs : fs.tree.isWellNamed = true) (c : Collector)
    (hread : (read s.delimiter (Text.ofBytes raw)).isFatal = false)
    (hsettled : ∀ r, s.record? raw = some r → IsSettled r.source)
    (htests : ∀ r, s.record? raw = some r → ∀ p ∈ candidates {} r.source, ∃ b, fs.isFile? p = .ok b) :
    ∃ c' e, c.step fs s raw = .next c' e ∧
      c'.counts = c.counts.addHits ((s.record? raw).bind fun r => hit? fs (place r)).toList := by
  cases hrecord : s.record? raw with
  | none =>
    obtain ⟨c', e, hstep, -, hcounts⟩ :=
      step_of_none fs c (not_collides_of_not_isFatal hread) (not_badLine_of_not_isFatal hread) hrecord
    exact ⟨c', e, hstep, hcounts⟩
  | some r =>
    obtain ⟨a, ha, hcounted⟩ :=
      resolve_of_isSettled hfs (r := c.resolver) (hsettled r hrecord) (htests r hrecord)
    obtain ⟨c', e, hstep, -, hcounts⟩ := step_of_record fs c hrecord ha
    exact ⟨c', e, hstep, hcounts.trans (hcounted c.counts)⟩

end step

/-! ## Runs -/

/-- No line ends the collection, every name means the same file in every directory, and the tests whether these are
files do not fail. -/
structure Settings.Settles (s : Settings) (fs : FileSystem) (raws : List Bytes) : Prop where
  reads : ∀ raw ∈ raws, (read s.delimiter (Text.ofBytes raw)).isFatal = false
  settled : ∀ r ∈ s.records raws, IsSettled r.source
  tests : ∀ r ∈ s.records raws, ∀ p ∈ candidates {} r.source, ∃ b, fs.isFile? p = .ok b

theorem mem_records_cons {s : Settings} {raw : Bytes} {raws : List Bytes} {r : Record} :
    r ∈ s.records (raw :: raws) ↔ s.record? raw = some r ∨ r ∈ s.records raws := by
  unfold Settings.records
  simp

/-- It is a matter of the names and lines of the records, besides what ends a collection. -/
theorem Settings.Settles.of_places {s : Settings} {fs : FileSystem} {raws raws' : List Bytes}
    (h : s.Settles fs raws) (hreads : ∀ raw ∈ raws', (read s.delimiter (Text.ofBytes raw)).isFatal = false)
    (hplaces : ((s.records raws).map place).Perm ((s.records raws').map place)) : s.Settles fs raws' := by
  have hsame : ∀ r' ∈ s.records raws', ∃ r ∈ s.records raws, r.source = r'.source := by
    intro r' hr'
    obtain ⟨r, hr, heq⟩ := List.mem_map.1 (hplaces.mem_iff.2 (List.mem_map_of_mem hr'))
    exact ⟨r, hr, congrArg Prod.fst heq⟩
  refine ⟨hreads, fun r' hr' => ?_, fun r' hr' => ?_⟩
  · obtain ⟨r, hr, heq⟩ := hsame r' hr'
    exact heq ▸ h.settled r hr
  · obtain ⟨r, hr, heq⟩ := hsame r' hr'
    exact heq ▸ h.tests r hr

/-- What lines add to the counts: the hits of the names and lines of their records. -/
theorem collectFrom_of_settled {fs : FileSystem} (hfs : fs.tree.isWellNamed = true) {s : Settings}
    {raws : List Bytes} (h : s.Settles fs raws) (c : Collector) :
    (collectFrom fs s c raws).ending = .finished ∧
      (collectFrom fs s c raws).collector.counts =
        c.counts.addHits (((s.records raws).map place).filterMap (hit? fs)) := by
  induction raws generalizing c with
  | nil => exact ⟨rfl, rfl⟩
  | cons raw raws ih =>
    have hrest : s.Settles fs raws :=
      ⟨fun x hx => h.reads x (List.mem_cons_of_mem raw hx), fun r hr => h.settled r (mem_records_cons.2 (Or.inr hr)),
        fun r hr => h.tests r (mem_records_cons.2 (Or.inr hr))⟩
    obtain ⟨c', e, hstep, hcounts⟩ := step_of_settled hfs c (h.reads raw List.mem_cons_self)
      (fun r hr => h.settled r (mem_records_cons.2 (Or.inl hr)))
      (fun r hr => h.tests r (mem_records_cons.2 (Or.inl hr)))
    obtain ⟨hending, hall⟩ := ih hrest c'
    rw [collectFrom_of_next hstep]
    refine ⟨hending, hall.trans ?_⟩
    rw [hcounts, Counts.addHits, Counts.addHits, ← List.foldl_append]
    unfold Settings.records
    cases hrecord : s.record? raw with
    | none => simp [hrecord, Counts.addHits]
    | some r => cases hhit : hit? fs (place r) <;> simp [hrecord, hhit, Counts.addHits]

/-- Both collections took all their lines and have the same counts of the same files. -/
structure CountsAlike (r r' : Collected) : Prop where
  finished : r.ending = .finished
  finished' : r'.ending = .finished
  entries : r.collector.counts.entries = r'.collector.counts.entries
  hits : ∀ path line, r.collector.counts.hits path line = r'.collector.counts.hits path line

/-- Only the names and lines of the records matter, and how often each stands there. -/
theorem countsAlike_of_places {fs : FileSystem} (hfs : fs.tree.isWellNamed = true) {s : Settings}
    {raws raws' : List Bytes} (h : s.Settles fs raws)
    (hreads : ∀ raw ∈ raws', (read s.delimiter (Text.ofBytes raw)).isFatal = false)
    (hplaces : ((s.records raws).map place).Perm ((s.records raws').map place)) :
    CountsAlike (collect fs s raws) (collect fs s raws') := by
  obtain ⟨hending, hcounts⟩ := collectFrom_of_settled hfs h {}
  obtain ⟨hending', hcounts'⟩ := collectFrom_of_settled hfs (h.of_places hreads hplaces) {}
  have hsame := Counts.sameEntries_addHits {} (hplaces.filterMap (hit? fs))
  unfold collect
  refine ⟨hending, hending', ?_, ?_⟩
  · rw [hcounts, hcounts']
    exact hsame.entries_eq (Counts.isProper_empty.addHits _) (Counts.isProper_empty.addHits _)
  · rw [hcounts, hcounts']
    exact hsame.hits

/-- **The order of a trace does not matter.** Take lines none of which ends the collection, in which the name of every
script is absolute or empty, and a file system in which the tests of these names do not fail. In any other order, the
lines come to the same counts of the same files. So do any other lines that do not end the collection and whose records
have the same names and lines, whatever their directories, depths and texts of commands are. -/
theorem collect_order {fs : FileSystem} (hfs : fs.tree.isWellNamed = true) (s : Settings) (raws : List Bytes)
    (h : s.Settles fs raws) :
    (∀ raws', raws.Perm raws' → CountsAlike (collect fs s raws) (collect fs s raws')) ∧
      ∀ raws', (∀ raw ∈ raws', (read s.delimiter (Text.ofBytes raw)).isFatal = false) →
        ((s.records raws).map place).Perm ((s.records raws').map place) →
        CountsAlike (collect fs s raws) (collect fs s raws') := by
  refine ⟨fun raws' hperm => ?_, fun raws' => countsAlike_of_places hfs h⟩
  have hplaces : ((s.records raws).map place).Perm ((s.records raws').map place) :=
    (hperm.filterMap s.record?).map place
  exact countsAlike_of_places hfs h (fun raw hraw => h.reads raw (hperm.mem_iff.2 hraw)) hplaces

theorem collect_order_openWord :
    let fs : FileSystem := ⟨.directory 0o755 [("a.sh", .file 0o644 [])], []⟩
    let s : Settings := ⟨"0f", "/rc", true⟩
    let opened : Bytes := "+0fsource=/a.sh0fline=30fpwd=/x0foldpwd=0fdirstack=0f echo 'x\n"
    let closed : Bytes := "y'\n"
    let nested : Bytes := "++0fsource=/a.sh0fline=40fpwd=/0foldpwd=/x0fdirstack=0f ls\n"
    CountsAlike (collect fs s [opened, closed, nested]) (collect fs s [nested, closed, opened]) := by
  intro fs s opened closed nested
  have hopened : read "0f" (Text.ofBytes opened) = .record ⟨"/a.sh", 3, "/x", [], []⟩ := by decide +kernel
  have hclosed : read "0f" (Text.ofBytes closed) = .other := by decide +kernel
  have hnested : read "0f" (Text.ofBytes nested) = .record ⟨"/a.sh", 4, "/", "/x", []⟩ := by decide +kernel
  have hsource : ("/a.sh" : Text) ≠ "/rc" := by decide
  have hrecords : s.records [opened, closed, nested] = [⟨"/a.sh", 3, "/x", [], []⟩, ⟨"/a.sh", 4, "/", "/x", []⟩] := by
    simp [Settings.records, Settings.record?, s, hopened, hclosed, hnested, Reading.record?, Option.filter, hsource]
  have hcandidates : candidates {} "/a.sh" = [("/a.sh" : Text)] := by decide
  have hfile : fs.isFile? "/a.sh" = .ok true := by
    simp only [fs]
    cbv
  have hsettled : s.Settles fs [opened, closed, nested] := by
    refine ⟨?_, ?_, ?_⟩
    · simp [s, hopened, hclosed, hnested, Reading.isFatal]
    · rw [hrecords]
      simp only [List.forall_mem_cons, IsSettled]
      decide
    · rw [hrecords]
      simp [hcandidates, hfile]
  have hperm : [opened, closed, nested].Perm [nested, closed, opened] := (List.reverse_perm _).symm
  exact (collect_order (by decide +kernel) s _ hsettled).1 _ hperm

end ShellCoverage.Trace
