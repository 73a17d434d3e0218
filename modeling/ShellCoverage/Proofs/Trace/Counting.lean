import Mathlib
import ShellCoverage.Proofs.Coverage.Counts
import ShellCoverage.Proofs.FileSystem.Canonical
import ShellCoverage.Trace.Collector

/-!
# Every record is counted once

Collection goes through the lines of a trace, and tells apart records, commands of the startup file, and
other lines. `collect_counts` says what it comes to: one resolver is given the records in order, and each
answer counts once.

* `Settings.records` : the records that count, of some lines;
* `Resolver.resolve_eq`, `firstFile_of_tests` : what a resolver does, and the file that it finds;
* `Resolver.resolveAll` : the answers of one resolver to some records;
* `step_of_record`, `step_of_none` : what one line does to the counts and to the resolver;
* `collectFrom_tally` : what lines without a collision do to them;
* `collectFrom_append` : collection can be taken in parts.
-/

namespace ShellCoverage.Trace

/-! ## Answers -/

/-- The answer to a record: its location, or none. -/
abbrev Answer := Except FileError (Option Location)

/-- The answer is a line of a file. -/
def Answer.isAt (path : Text) (line : Int) : Answer → Bool
  | .ok (some (p, n)) => p = path && (n : Int) = line
  | _ => false

/-- The record was found in no file. -/
def Answer.isUnresolved : Answer → Bool
  | .ok none => true
  | _ => false

/-- The paths that are tested for the first file among them: those up to that file. -/
def testedPaths (fs : FileSystem) : List Text → List Text
  | [] => []
  | p :: ps =>
    match fs.isFile? p with
    | .ok false => p :: testedPaths fs ps
    | _ => [p]

namespace Resolver

/-- The answers to some records, one after the other. -/
def resolveAll (fs : FileSystem) (r : Resolver) : List Record → Resolver × List Answer
  | [] => (r, [])
  | rec :: recs =>
    let (r', a) := r.resolve fs rec
    let (last, as) := resolveAll fs r' recs
    (last, a :: as)

/-- The paths that are tested for some records. -/
def tested (fs : FileSystem) (r : Resolver) : List Record → List Text
  | [] => []
  | rec :: recs =>
    testedPaths fs (candidates (r.history.update rec.pwd rec.oldpwd) rec.source) ++
      tested fs (r.resolve fs rec).1 recs

section resolve
variable (fs : FileSystem) (r : Resolver) (rec : Record)

/-- The answer to a record: the file that is found, with the record's own line. -/
def answer : Answer :=
  (findScript fs (r.history.update rec.pwd rec.oldpwd) rec.source).map fun found =>
    found.map fun path => (path, rec.line)

/-- What a call does: the history is brought up to date, and a record without a file is counted. -/
theorem resolve_eq : r.resolve fs rec =
    (⟨r.history.update rec.pwd rec.oldpwd, r.unresolved + if (r.answer fs rec).isUnresolved then 1 else 0⟩,
      r.answer fs rec) := by
  unfold resolve answer
  dsimp only
  split
  next h => rw [h]; rfl
  next h => rw [h]; rfl
  next h => rw [h]; rfl

end resolve

end Resolver

theorem isFile_of_test {fs : FileSystem} {p : Text} {b : Bool} (h : fs.isFile? p = .ok b) : fs.isFile p = b := by
  unfold FileSystem.isFile? FileSystem.test at h
  unfold FileSystem.isFile
  split at h
  next => exact Except.ok.inj h
  next =>
    split at h
    · exact Except.ok.inj h
    · cases h

section answers
variable {fs : FileSystem} (hfs : fs.tree.isWellNamed = true)
include hfs

/-- If no test fails, the first file is the first path that is a regular file. -/
theorem firstFile_of_tests {ps : List Text}
    (h : ∀ p ∈ testedPaths fs ps, ∃ b, fs.isFile? p = .ok b) :
    ∃ found, firstFile fs ps = .ok found ∧
      match ps.find? fs.isFile with
      | none => found = none
      | some p => ∃ t, fs.canonical p = .ok t ∧ found = some t := by
  induction ps with
  | nil => exact ⟨none, rfl, rfl⟩
  | cons p ps ih =>
    unfold testedPaths at h
    unfold firstFile
    match hp : fs.isFile? p with
    | .error e =>
      simp only [hp] at h
      obtain ⟨b, hb⟩ := h p (List.mem_singleton_self p)
      cases hp.symm.trans hb
    | .ok true =>
      obtain ⟨t, ht⟩ := FileSystem.canonical_of_isFile hfs hp
      have hfind : (p :: ps).find? fs.isFile = some p := by simp [isFile_of_test hp]
      rw [hfind]
      exact ⟨some t, by simp only [ht]; rfl, t, ht, rfl⟩
    | .ok false =>
      simp only [hp] at h
      have hfind : (p :: ps).find? fs.isFile = ps.find? fs.isFile := by simp [isFile_of_test hp]
      rw [hfind]
      exact ih fun q hq => h q (List.mem_cons_of_mem p hq)

/-- If no test fails, a resolver has an answer, and counts it as unresolved if it is none. -/
theorem resolve_ok {r : Resolver} {rec : Record}
    (h : ∀ p ∈ testedPaths fs (candidates (r.history.update rec.pwd rec.oldpwd) rec.source),
      ∃ b, fs.isFile? p = .ok b) :
    ∃ a, (r.resolve fs rec).2 = .ok a ∧
      (r.resolve fs rec).1.unresolved = r.unresolved + if a = none then 1 else 0 := by
  obtain ⟨found, hfound, -⟩ := firstFile_of_tests hfs h
  have ha : r.answer fs rec = .ok (found.map fun path => (path, rec.line)) := by
    unfold Resolver.answer findScript
    rw [hfound]
    rfl
  rw [Resolver.resolve_eq, ha]
  refine ⟨_, rfl, ?_⟩
  cases found <;> rfl

end answers

/-! ## Lines -/

namespace Settings

/-- The record of a line, unless it is a command of the startup file. -/
def record? (s : Settings) (raw : Bytes) : Option Record :=
  (read s.delimiter (Text.ofBytes raw)).record?.filter fun r => r.source ≠ s.startupFile

/-- The records that count, of some lines. -/
def records (s : Settings) (raws : List Bytes) : List Record := raws.filterMap s.record?

/-- The delimiter occurs in the data of the line. -/
def collides (s : Settings) (raw : Bytes) : Bool := read s.delimiter (Text.ofBytes raw) = .collision

end Settings

theorem read_of_record? {s : Settings} {raw : Bytes} {r : Record} (h : s.record? raw = some r) :
    read s.delimiter (Text.ofBytes raw) = .record r ∧ r.source ≠ s.startupFile := by
  obtain ⟨hrecord, hsource⟩ := Option.filter_eq_some_iff.1 h
  refine ⟨?_, of_decide_eq_true hsource⟩
  cases hq : read s.delimiter (Text.ofBytes raw) with
  | record r' =>
    rw [hq] at hrecord
    cases hrecord
    rfl
  | other | truncated | mislabelled _ | badLine _ | collision =>
    rw [hq] at hrecord
    cases hrecord

/-- The counts with one answer counted. -/
def counted (c : Counts) (a : Option Location) : Counts := a.elim c fun at_ => c.add at_.1 at_.2 1

theorem hits_counted (c : Counts) (a : Option Location) (path : Text) (line : Int) :
    (counted c a).hits path line = c.hits path line + if Answer.isAt path line (.ok a) then 1 else 0 := by
  cases a with
  | none => rfl
  | some at_ =>
    obtain ⟨p, n⟩ := at_
    simp only [counted, Option.elim_some, Counts.hits_add, Answer.isAt, Bool.and_eq_true,
      decide_eq_true_iff]

/-- An answer is counted, or adds to the unresolved records. -/
theorem total_counted (c : Counts) (a : Option Location) :
    (counted c a).total + (if a = none then 1 else 0) = c.total + 1 := by
  cases a with
  | none => rfl
  | some at_ => exact Counts.total_add c at_.1 at_.2 1

section step
variable (fs : FileSystem) {s : Settings} (c : Collector) {raw : Bytes}

theorem takeOther_eq (s : Settings) (c : Collector) (line : Text) :
    ∃ c' e, c.takeOther s line = .next c' e ∧ c'.resolver = c.resolver ∧ c'.counts = c.counts := by
  rw [Collector.takeOther]
  split
  · exact ⟨_, _, rfl, rfl, rfl⟩
  · split <;> exact ⟨_, _, rfl, rfl, rfl⟩

theorem step_of_collides (h : s.collides raw = true) : c.step fs s raw = .collision := by
  rw [Collector.step]
  simp only [of_decide_eq_true h]

/-- A line without a record that counts leaves the counts and the resolver as they are. -/
theorem step_of_none (hcollides : s.collides raw = false)
    (hread : ∀ e, read s.delimiter (Text.ofBytes raw) ≠ .badLine e) (h : s.record? raw = none) :
    ∃ c' e, c.step fs s raw = .next c' e ∧ c'.resolver = c.resolver ∧ c'.counts = c.counts := by
  rw [Settings.record?] at h
  rw [Collector.step]
  match hq : read s.delimiter (Text.ofBytes raw) with
  | .collision => exact absurd hq (of_decide_eq_false hcollides)
  | .badLine e => exact absurd hq (hread e)
  | .record r =>
    have hstartup : r.source = s.startupFile := by
      simpa [hq, Reading.record?, Option.filter] using h
    simp only [Collector.takeRecord, if_pos hstartup]
    exact ⟨_, _, rfl, rfl, rfl⟩
  | .other | .truncated | .mislabelled _ => exact takeOther_eq s c _

/-- A line with a record that counts is answered by the resolver, and the answer is counted. -/
theorem step_of_record {r : Record} {a : Option Location} (h : s.record? raw = some r)
    (ha : (c.resolver.resolve fs r).2 = .ok a) :
    ∃ c' e, c.step fs s raw = .next c' e ∧ c'.resolver = (c.resolver.resolve fs r).1 ∧
      c'.counts = counted c.counts a := by
  obtain ⟨hread, hsource⟩ := read_of_record? h
  rw [Collector.step]
  simp only [hread, Collector.takeRecord, if_neg hsource]
  generalize c.resolver.resolve fs r = answer at ha
  obtain ⟨resolver, answer⟩ := answer
  cases ha
  cases a with
  | none => exact ⟨_, _, rfl, rfl, rfl⟩
  | some at_ => exact ⟨_, _, rfl, rfl, rfl⟩

end step

/-! ## Runs -/

theorem collectFrom_of_next {fs : FileSystem} {s : Settings} {c c' : Collector} {raw : Bytes} {e : Effect}
    (h : c.step fs s raw = .next c' e) (raws : List Bytes) :
    collectFrom fs s c (raw :: raws) =
      { collectFrom fs s c' raws with effects := e :: (collectFrom fs s c' raws).effects } := by
  rw [collectFrom, h]

/-- Collection can be taken in parts. -/
theorem collectFrom_append {fs : FileSystem} {s : Settings} {c : Collector} {as : List Bytes}
    (h : (collectFrom fs s c as).ending = .finished) (bs : List Bytes) :
    collectFrom fs s c (as ++ bs) =
      let r := collectFrom fs s c as
      let q := collectFrom fs s r.collector bs
      { q with effects := r.effects ++ q.effects } := by
  induction as generalizing c with
  | nil => rfl
  | cons a as ih =>
    rw [List.cons_append, collectFrom, collectFrom]
    rw [collectFrom] at h
    cases hstep : c.step fs s a with
    | collision =>
      rw [hstep] at h
      cases h
    | failed c' f =>
      rw [hstep] at h
      cases h
    | next c' e =>
      rw [hstep] at h
      simp only [ih h, List.cons_append]

/-- What lines without a collision come to: the resolver answers their records in order, each answer counts
once, and no line ends the collection. -/
theorem collectFrom_tally {fs : FileSystem} {s : Settings} (hfs : fs.tree.isWellNamed = true)
    {raws : List Bytes} {c : Collector} (hcollides : ∀ raw ∈ raws, s.collides raw = false)
    (hread : ∀ raw ∈ raws, ∀ e, read s.delimiter (Text.ofBytes raw) ≠ .badLine e)
    (htests : ∀ p ∈ c.resolver.tested fs (s.records raws), ∃ b, fs.isFile? p = .ok b) :
    let r := collectFrom fs s c raws
    let answers := c.resolver.resolveAll fs (s.records raws)
    r.ending = .finished ∧ r.effects.length = raws.length ∧ r.collector.resolver = answers.1 ∧
      (∀ path line, r.collector.counts.hits path line =
        c.counts.hits path line + answers.2.countP (Answer.isAt path line)) ∧
      r.collector.counts.total + answers.1.unresolved =
        c.counts.total + c.resolver.unresolved + (s.records raws).length := by
  induction raws generalizing c with
  | nil => exact ⟨rfl, rfl, rfl, fun _ _ => rfl, rfl⟩
  | cons raw raws ih =>
    obtain ⟨hcollision, hcollides⟩ := List.forall_mem_cons.1 hcollides
    obtain ⟨hraw, hread⟩ := List.forall_mem_cons.1 hread
    cases hrecord : s.record? raw with
    | none =>
      have hrecords : s.records (raw :: raws) = s.records raws := List.filterMap_cons_none hrecord
      rw [hrecords] at htests ⊢
      obtain ⟨c', e, hstep, hresolver, hcounts⟩ := step_of_none fs c hcollision hraw hrecord
      rw [← hresolver] at htests ⊢
      obtain ⟨hending, hlen, hlast, hhits, htotal⟩ := ih hcollides hread htests
      rw [collectFrom_of_next hstep, ← hcounts]
      exact ⟨hending, congrArg Nat.succ hlen, hlast, hhits, htotal⟩
    | some rec =>
      have hrecords : s.records (raw :: raws) = rec :: s.records raws := List.filterMap_cons_some hrecord
      rw [hrecords, Resolver.tested] at htests
      obtain ⟨hfirst, htests⟩ := List.forall_mem_append.1 htests
      obtain ⟨a, ha, hunresolved⟩ := resolve_ok hfs hfirst
      obtain ⟨c', e, hstep, hresolver, hcounts⟩ := step_of_record fs c hrecord ha
      rw [← hresolver] at htests
      obtain ⟨hending, hlen, hlast, hhits, htotal⟩ := ih hcollides hread htests
      have hall : c.resolver.resolveAll fs (rec :: s.records raws) =
          ((c'.resolver.resolveAll fs (s.records raws)).1,
            .ok a :: (c'.resolver.resolveAll fs (s.records raws)).2) := by
        rw [Resolver.resolveAll, hresolver, ← ha]
      rw [← hresolver] at hunresolved
      rw [hrecords, collectFrom_of_next hstep, hall]
      refine ⟨hending, congrArg Nat.succ hlen, hlast, fun path line => ?_, ?_⟩
      · have hcounted := hits_counted c.counts a path line
        rw [← hcounts] at hcounted
        calc (collectFrom fs s c' raws).collector.counts.hits path line
            = c'.counts.hits path line +
                (c'.resolver.resolveAll fs (s.records raws)).2.countP (Answer.isAt path line) :=
              hhits path line
          _ = _ := by
              rw [hcounted, List.countP_cons]
              omega
      · have hcounted := total_counted c.counts a
        rw [← hcounts] at hcounted
        calc (collectFrom fs s c' raws).collector.counts.total +
              (c'.resolver.resolveAll fs (s.records raws)).1.unresolved
            = c'.counts.total + c'.resolver.unresolved + (s.records raws).length := htotal
          _ = _ := by
              rw [List.length_cons]
              omega

/-- Items of the longer list without a partner are left out. -/
theorem zip_append_of_length {α β : Type} (as bs : List α) {cs : List β} (h : cs.length = as.length) :
    (as ++ bs).zip cs = as.zip cs := by
  have hzip : (as ++ bs).zip (cs ++ []) = as.zip cs ++ bs.zip [] := List.zip_append h.symm
  rwa [List.append_nil, List.zip_nil_right, List.append_nil] at hzip

/-- **Every record is counted once.** Up to the first line whose data hold the delimiter, one resolver is
given the records in order. The count of a line of a file is the number of its answers that are this line;
all counts together are the number of records less the unresolved ones; and that first line ends the
collection, so that it and the lines after it neither count nor are passed on. -/
theorem collect_counts (fs : FileSystem) (s : Settings) (raws : List Bytes)
    (hfs : fs.tree.isWellNamed = true)
    (hread : ∀ raw ∈ raws, ∀ e, read s.delimiter (Text.ofBytes raw) ≠ .badLine e)
    (htests : ∀ p ∈ Resolver.tested fs {} (s.records (raws.take (raws.findIdx s.collides))),
      ∃ b, fs.isFile? p = .ok b) :
    let k := raws.findIdx s.collides
    let recs := s.records (raws.take k)
    let answers := Resolver.resolveAll fs {} recs
    let r := collect fs s raws
    (∀ path line, r.collector.counts.hits path line = answers.2.countP (Answer.isAt path line)) ∧
      r.collector.counts.total + answers.1.unresolved = recs.length ∧
      r.collector.resolver = answers.1 ∧
      r.ending = (raws[k]?).elim .finished (fun raw => .collided (chomp (Text.ofBytes raw))) ∧
      r.effects.length = k ∧
      r.collector = (collect fs s (raws.take k)).collector ∧
      r.relayed raws = (collect fs s (raws.take k)).relayed (raws.take k) := by
  intro k recs answers r
  let before := collect fs s (raws.take k)
  have hbefore : ∀ raw ∈ raws.take k, s.collides raw = false := by
    intro raw hraw
    obtain ⟨i, hi, rfl⟩ := List.mem_take_iff_getElem.1 hraw
    exact List.not_of_lt_findIdx (Nat.lt_of_lt_of_le hi (Nat.min_le_left _ _))
  obtain ⟨hending, hlen, hresolver, hhits, htotal⟩ := collectFrom_tally (c := {}) hfs hbefore
    (fun raw hraw => hread raw (List.mem_of_mem_take hraw)) htests
  -- nothing is taken after the lines before the collision
  have hrest : collectFrom fs s before.collector (raws.drop k) = ⟨before.collector, [],
      (raws[k]?).elim .finished (fun raw => .collided (chomp (Text.ofBytes raw)))⟩ := by
    rw [← List.head?_drop]
    cases hdrop : raws.drop k with
    | nil => rfl
    | cons raw post =>
      have hraw : raws[k]? = some raw := by rw [← List.head?_drop, hdrop, List.head?_cons]
      rw [collectFrom, step_of_collides fs _ (List.findIdx_of_getElem?_eq_some hraw)]
      rfl
  have hr : r = ⟨before.collector, before.effects,
      (raws[k]?).elim .finished (fun raw => .collided (chomp (Text.ofBytes raw)))⟩ := by
    have hparts := collectFrom_append hending (raws.drop k)
    rw [List.take_append_drop] at hparts
    simp only [r, collect, hparts]
    rw [show collectFrom fs s {} (raws.take k) = before from rfl, hrest, List.append_nil]
  have hk : (raws.take k).length = k := by
    rw [List.length_take]
    exact Nat.min_eq_left List.findIdx_le_length
  have hrelayed : raws.zip before.effects = (raws.take k).zip before.effects := by
    conv_lhs => rw [← List.take_append_drop k raws]
    exact zip_append_of_length _ _ hlen
  rw [hr]
  refine ⟨fun path line => ?_, ?_, hresolver, rfl, hlen.trans hk, rfl, ?_⟩
  · rw [← Nat.zero_add (answers.2.countP _)]
    exact hhits path line
  · rw [← Nat.zero_add recs.length]
    exact htotal
  · rw [Collected.relayed, Collected.relayed]
    exact congrArg _ hrelayed

theorem collect_counts_collision :
    let fs : FileSystem := ⟨.directory 0o755 [("a.sh", .file 0o644 [])], []⟩
    let s : Settings := ⟨"0f", "/rc", true⟩
    let found : Bytes := "+0fsource=a.sh0fline=30fpwd=/0foldpwd=0fdirstack=0f ls\n"
    let lost : Bytes := "+0fsource=0fline=40fpwd=/0foldpwd=0fdirstack=0f ls\n"
    let collision : Bytes := "+0fsource=a.sh0fline=30fpwd=/0foldpwd=0fdirstack=0f 0f\n"
    let r := collect fs s [found, lost, found, collision, found]
    r.collector.counts.hits "/a.sh" 3 = 2 ∧ r.collector.counts.total + 1 = 3 ∧ r.effects.length = 3 := by
  intro fs s found lost collision r
  let raws := [found, lost, found, collision, found]
  let recs : List Record := [⟨"a.sh", 3, "/", [], []⟩, ⟨[], 4, "/", [], []⟩, ⟨"a.sh", 3, "/", [], []⟩]
  have hfound : read "0f" (Text.ofBytes found) = .record ⟨"a.sh", 3, "/", [], []⟩ := by decide +kernel
  have hlost : read "0f" (Text.ofBytes lost) = .record ⟨[], 4, "/", [], []⟩ := by decide +kernel
  have hcollision : read "0f" (Text.ofBytes collision) = .collision := by decide +kernel
  have hk : raws.findIdx s.collides = 3 := by
    simp [List.findIdx_cons, Settings.collides, raws, s, hfound, hlost, hcollision]
  have hrecords : s.records (raws.take (raws.findIdx s.collides)) = recs := by
    have hrc : ("a.sh" : Text) ≠ "/rc" ∧ ([] : Text) ≠ "/rc" := by decide
    rw [hk]
    simp [Settings.records, Settings.record?, raws, recs, s, hfound, hlost, Reading.record?, Option.filter,
      hrc]
  have htested : Resolver.tested fs {} recs = [("/a.sh" : Text), ("/a.sh" : Text)] := by
    simp only [fs, recs]
    cbv
  have hanswers : (Resolver.resolveAll fs {} recs).2 =
      [.ok (some ("/a.sh", 3)), .ok none, .ok (some ("/a.sh", 3))] := by
    simp only [fs, recs]
    cbv
  have hunresolved : (Resolver.resolveAll fs {} recs).1.unresolved = 1 := by
    simp only [fs, recs]
    cbv
  have hfile : fs.isFile? "/a.sh" = .ok true := by
    simp only [fs]
    cbv
  obtain ⟨hhits, htotal, -, -, hlength, -, -⟩ := collect_counts fs s raws (by decide +kernel)
    (by simp [raws, s, hfound, hlost, hcollision]) (by simp [hrecords, htested, hfile])
  rw [hrecords] at hhits htotal
  refine ⟨(hhits "/a.sh" 3).trans ?_, ?_, hlength.trans hk⟩
  · rw [hanswers]
    decide
  · rw [← hunresolved]
    exact htotal

end ShellCoverage.Trace
