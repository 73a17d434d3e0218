import Mathlib.Data.List.Destutter
import ShellCoverage.Proofs.Trace.Counting

/-!
# The history of directories

A resolver keeps a directory only if it differs from the one before it. Nothing is lost by that: each record is
answered as if every directory had been kept, since a path that was no file a moment ago, in the same directory, is
none now. The file system may change between two records, and so may answers to the same record.

* `Resolver.after`, `Resolver.answers` : what some calls leave behind, and what they return;
* `reverse_foldl_see`, `history_after` : the histories are the directories seen, without repetitions;
* `firstFile_foldl_see` : repetitions do not change which file is found first;
* `IsAnswer`, `isAnswer_answer` : the answer by a log that keeps every directory;
* `answers_congr` : what an answer depends on;
* `answers_by_log` : all of it, for any calls.
-/

namespace ShellCoverage.Trace

/-! ## Calls -/

/-- A record to be resolved, and the file system at that time. -/
abbrev Call := FileSystem × Record

namespace Resolver

/-- The resolver after some calls. -/
def after (r : Resolver) (calls : List Call) : Resolver :=
  calls.foldl (fun r c => (r.resolve c.1 c.2).1) r

/-- The answers to some calls, one after the other. -/
def answers (r : Resolver) : List Call → List Answer
  | [] => []
  | c :: calls => (r.resolve c.1 c.2).2 :: answers (r.resolve c.1 c.2).1 calls

theorem after_append (r : Resolver) (cs ds : List Call) : r.after (cs ++ ds) = (r.after cs).after ds :=
  List.foldl_append

/-- An answer is that of the resolver which the calls before leave behind. -/
theorem getElem?_answers (r : Resolver) (calls : List Call) (k : Nat) :
    (r.answers calls)[k]? = calls[k]?.map fun c => ((r.after (calls.take k)).resolve c.1 c.2).2 := by
  induction calls generalizing r k with
  | nil => simp [answers]
  | cons c calls ih =>
    cases k with
    | zero => rfl
    | succ k =>
      simp only [answers, List.getElem?_cons_succ, List.take_succ_cons]
      exact ih _ k

/-- The unresolved records are counted. -/
theorem unresolved_after (r : Resolver) (calls : List Call) :
    (r.after calls).unresolved = r.unresolved + (r.answers calls).countP Answer.isUnresolved := by
  induction calls generalizing r with
  | nil => rfl
  | cons c calls ih =>
    have hrest := ih (r.resolve c.1 c.2).1
    rw [resolve_eq] at hrest
    simp only [after, List.foldl_cons, answers, List.countP_cons, resolve_eq] at hrest ⊢
    omega

theorem answers_take (r : Resolver) (calls : List Call) (k : Nat) :
    r.answers (calls.take k) = (r.answers calls).take k := by
  induction calls generalizing r k with
  | nil => simp [answers]
  | cons c calls ih =>
    cases k with
    | zero => rfl
    | succ k => simp [answers, ih]

end Resolver

/-! ## Histories -/

theorem destutter'_concat (a : Text) (ts : List Text) (t : Text) :
    (ts ++ [t]).destutter' (· ≠ ·) a =
      if (ts.destutter' (· ≠ ·) a).getLast? = some t then ts.destutter' (· ≠ ·) a
      else ts.destutter' (· ≠ ·) a ++ [t] := by
  induction ts generalizing a with
  | nil => by_cases h : a = t <;> simp [h]
  | cons b ts ih =>
    rw [List.cons_append]
    by_cases h : a ≠ b
    · have hne : List.destutter' (· ≠ ·) b ts ≠ [] := List.destutter'_ne_nil ts (· ≠ ·)
      simp only [List.destutter'_cons, if_pos h, ih b, List.getLast?_cons_of_ne_nil hne]
      split <;> rfl
    · simp only [List.destutter'_cons, if_neg h, ih a]

/-- A value that comes after some others is kept if it is not the last one kept. -/
theorem destutter_concat (ts : List Text) (t : Text) :
    (ts ++ [t]).destutter (· ≠ ·) =
      if (ts.destutter (· ≠ ·)).getLast? = some t then ts.destutter (· ≠ ·) else ts.destutter (· ≠ ·) ++ [t] := by
  cases ts with
  | nil => simp
  | cons a ts =>
    simp only [List.cons_append, List.destutter_cons']
    exact destutter'_concat a ts t

/-- Values that are seen one after the other are kept without empty ones and repetitions. -/
theorem reverse_foldl_see (ts : List Text) :
    (ts.foldl (fun vs t => Visits.see t vs) []).reverse = (ts.filter (· ≠ [])).destutter (· ≠ ·) := by
  induction ts using List.reverseRecOn with
  | nil => rfl
  | append_singleton ts t ih =>
    rw [List.foldl_append, List.foldl_cons, List.foldl_nil, Visits.see, List.filter_append]
    by_cases ht : t = []
    · simp [ht, ih]
    · have hsingle : [t].filter (· ≠ []) = [t] := by simp [ht]
      rw [hsingle, destutter_concat, ← ih, List.getLast?_reverse]
      simp only [ht, decide_false, Bool.false_or, decide_eq_true_eq]
      split <;> simp

theorem suffix_see (t : Text) (vs : Visits) : vs <:+ Visits.see t vs := by
  unfold Visits.see
  split
  · exact List.suffix_refl vs
  · exact List.suffix_cons t vs

/-- What the histories hold after some calls. -/
theorem history_after (r : Resolver) (calls : List Call) :
    (r.after calls).history =
      ⟨(calls.map fun c => c.2.pwd).foldl (fun vs t => Visits.see t vs) r.history.pwds,
        (calls.map fun c => c.2.oldpwd).foldl (fun vs t => Visits.see t vs) r.history.oldpwds⟩ := by
  induction calls generalizing r with
  | nil => rfl
  | cons c calls ih =>
    rw [Resolver.after, List.foldl_cons, ← Resolver.after, ih, Resolver.resolve_eq]
    rfl

/-- Histories only grow. -/
theorem suffix_foldl_see (ts : List Text) (vs : Visits) : vs <:+ ts.foldl (fun vs t => Visits.see t vs) vs := by
  induction ts generalizing vs with
  | nil => exact List.suffix_refl vs
  | cons t ts ih => exact (suffix_see t vs).trans (ih _)

/-! ## Files -/

/-- A path that was just tested can be left out. -/
theorem firstFile_append_cons_cons (fs : FileSystem) (ps : List Text) (p : Text) (qs : List Text) :
    firstFile fs (ps ++ p :: p :: qs) = firstFile fs (ps ++ p :: qs) := by
  induction ps with
  | nil =>
    simp only [List.nil_append, firstFile]
    cases fs.isFile? p with
    | error e => rfl
    | ok b => cases b <;> rfl
  | cons q ps ih => simp only [List.cons_append, firstFile, ih]

/-- Empty values and repetitions make no difference to which file is found first. -/
theorem firstFile_foldl_see (fs : FileSystem) (f : Text → Text) (ts : List Text) (vs : Visits) :
    firstFile fs ((ts.foldl (fun vs t => Visits.see t vs) vs).map f) =
      firstFile fs (((ts.filter (· ≠ [])).reverse ++ vs).map f) := by
  induction ts generalizing vs with
  | nil => rfl
  | cons t ts ih =>
    rw [List.foldl_cons, ih, Visits.see]
    by_cases ht : t = []
    · simp [ht]
    · have hfilter : (t :: ts).filter (· ≠ []) = t :: ts.filter (· ≠ []) := by simp [ht]
      rw [hfilter, List.reverse_cons, List.append_assoc, List.singleton_append]
      by_cases hhead : vs.head? = some t
      · obtain ⟨vs', rfl⟩ := List.head?_eq_some_iff.1 hhead
        simp only [ht, hhead, decide_false, decide_true, Bool.or_true, if_true, List.map_append, List.map_cons]
        exact (firstFile_append_cons_cons fs _ _ _).symm
      · simp [ht, hhead]

/-- The paths that a name means where every directory is kept; the directories are given oldest first, and the newest
one is preferred. -/
def meant (dirs : List Text) (source : Text) : List Text :=
  if source = [] then []
  else if Path.isAbsolute source then [(Path.ofText source).toText]
  else dirs.reverse.map fun dir => ((Path.ofText dir).join (Path.ofText source)).toText

theorem firstFile_candidates (fs : FileSystem) (h : History) (ts : List Text)
    (hpwds : h.pwds = ts.foldl (fun vs t => Visits.see t vs) []) (source : Text) :
    firstFile fs (candidates h source) = firstFile fs (meant (ts.filter (· ≠ [])) source) := by
  unfold candidates meant
  split
  · rfl
  · split
    · rfl
    · rw [hpwds, firstFile_foldl_see, List.append_nil]

/-- The answer to a record by a log that keeps every directory: the first of the paths meant that is a regular file,
in canonical form, with the record's own line. -/
def IsAnswer (fs : FileSystem) (dirs : List Text) (rec : Record) (a : Option Location) : Prop :=
  match (meant dirs rec.source).find? fs.isFile with
  | none => a = none
  | some p => ∃ t, fs.canonical p = .ok t ∧ a = some (t, rec.line)

/-! ## Runs -/

/-- The calls differ in nothing but the previous working directory and the directory stack. -/
structure Call.Alike (c c' : Call) : Prop where
  fileSystem : c.1 = c'.1
  source : c.2.source = c'.2.source
  line : c.2.line = c'.2.line
  pwd : c.2.pwd = c'.2.pwd

/-- The previous working directory and the directory stack have no part in an answer. -/
theorem answer_congr {c c' : Call} (h : c.Alike c') {r r' : Resolver}
    (hpwds : r.history.pwds = r'.history.pwds) : r.answer c.1 c.2 = r'.answer c'.1 c'.2 := by
  have hcandidates : candidates (r.history.update c.2.pwd c.2.oldpwd) c.2.source =
      candidates (r'.history.update c'.2.pwd c'.2.oldpwd) c'.2.source := by
    unfold candidates History.update
    rw [h.source, h.pwd, hpwds]
  unfold Resolver.answer findScript
  rw [hcandidates, h.fileSystem, h.line]

theorem answers_congr {calls calls' : List Call} (h : List.Forall₂ Call.Alike calls calls') {r r' : Resolver}
    (hpwds : r.history.pwds = r'.history.pwds) : r.answers calls = r'.answers calls' := by
  induction h generalizing r r' with
  | nil => rfl
  | cons hc _ ih =>
    simp only [Resolver.answers, Resolver.resolve_eq]
    rw [answer_congr hc hpwds]
    congr 1
    apply ih
    unfold History.update
    rw [hc.pwd, hpwds]

/-- The values that some calls show for a field of their records, without empty ones. -/
def logged (field : Record → Text) (calls : List Call) : List Text :=
  (calls.map fun c => field c.2).filter (· ≠ [])

/-- After any calls, an answer is the one by the log of all directories. -/
theorem isAnswer_answer {calls : List Call} {c : Call} (hfs : c.1.tree.isWellNamed = true)
    (htests : ∀ p ∈ testedPaths c.1 (meant (logged Record.pwd (calls ++ [c])) c.2.source),
      ∃ b, c.1.isFile? p = .ok b) :
    ∃ a, (Resolver.after {} calls).answer c.1 c.2 = .ok a ∧
      IsAnswer c.1 (logged Record.pwd (calls ++ [c])) c.2 a := by
  have hpwds : ((Resolver.after {} calls).history.update c.2.pwd c.2.oldpwd).pwds =
      ((calls ++ [c]).map fun c => c.2.pwd).foldl (fun vs t => Visits.see t vs) [] := by
    rw [History.update, history_after, List.map_append, List.foldl_append]
    rfl
  obtain ⟨found, hfound, hfirst⟩ := firstFile_of_tests hfs htests
  refine ⟨found.map fun path => (path, c.2.line), ?_, ?_⟩
  · unfold Resolver.answer findScript
    rw [firstFile_candidates c.1 _ _ hpwds]
    exact congrArg (Except.map _) hfound
  · unfold IsAnswer
    cases hfind : (meant (logged Record.pwd (calls ++ [c])) c.2.source).find? c.1.isFile with
    | none =>
      simp only [hfind] at hfirst ⊢
      rw [hfirst]
      rfl
    | some p =>
      simp only [hfind] at hfirst ⊢
      obtain ⟨t, ht, rfl⟩ := hfirst
      exact ⟨t, ht, rfl⟩

/-- **Records are answered as by a log of all directories.** Take any calls of a resolver, with file systems that may
differ from call to call. After each call, the histories are the non-empty directories seen so far without
consecutive repetitions, and every history is the beginning of all later ones; the unresolved records are the answers
without a file. A call whose tests do not fail is answered as by the log in which every directory is kept. No answer
depends on a previous working directory or on a directory stack. -/
theorem answers_by_log (calls : List Call) :
    let after k := Resolver.after {} (calls.take k)
    let answers := Resolver.answers {} calls
    (∀ k, (after k).history.pwds.reverse = (logged Record.pwd (calls.take k)).destutter (· ≠ ·) ∧
      (after k).history.oldpwds.reverse = (logged Record.oldpwd (calls.take k)).destutter (· ≠ ·) ∧
      (after k).unresolved = (answers.take k).countP Answer.isUnresolved) ∧
    (∀ j k, j ≤ k → (after j).history.pwds.reverse <+: (after k).history.pwds.reverse ∧
      (after j).history.oldpwds.reverse <+: (after k).history.oldpwds.reverse) ∧
    (∀ k c, calls[k]? = some c → c.1.tree.isWellNamed = true →
      (∀ p ∈ testedPaths c.1 (meant (logged Record.pwd (calls.take (k + 1))) c.2.source),
        ∃ b, c.1.isFile? p = .ok b) →
      ∃ a, answers[k]? = some (.ok a) ∧ IsAnswer c.1 (logged Record.pwd (calls.take (k + 1))) c.2 a) ∧
    (∀ calls', List.Forall₂ Call.Alike calls calls' → Resolver.answers {} calls' = answers) := by
  intro after answers
  refine ⟨fun k => ⟨?_, ?_, ?_⟩, fun j k hjk => ?_, fun k c hc hfs htests => ?_, fun calls' h => ?_⟩
  · simp only [after, history_after]
    exact reverse_foldl_see _
  · simp only [after, history_after]
    exact reverse_foldl_see _
  · have hcount := Resolver.unresolved_after {} (calls.take k)
    rw [Resolver.answers_take] at hcount
    exact hcount.trans (Nat.zero_add _)
  · -- the later histories are the earlier ones with more directories seen
    obtain ⟨rest, hrest⟩ : calls.take j <+: calls.take k := List.take_prefix_take_left hjk
    simp only [after, ← hrest, Resolver.after_append, List.reverse_prefix, history_after (Resolver.after {} _)]
    exact ⟨suffix_foldl_see _ _, suffix_foldl_see _ _⟩
  · have htake : calls.take (k + 1) = calls.take k ++ [c] := by
      rw [List.take_add_one, hc, Option.toList_some]
    rw [htake] at htests ⊢
    obtain ⟨a, ha, hanswer⟩ := isAnswer_answer hfs htests
    refine ⟨a, ?_, hanswer⟩
    simp only [answers, Resolver.getElem?_answers, hc, Option.map_some, Resolver.resolve_eq]
    exact congrArg some ha
  · exact (answers_congr h rfl).symm

theorem answers_by_log_appearing :
    let before : FileSystem :=
      ⟨.directory 0o755 [("a", .directory 0o755 [("s.sh", .file 0o644 [])]), ("b", .directory 0o755 [])], []⟩
    let now : FileSystem :=
      ⟨.directory 0o755 [("a", .directory 0o755 [("s.sh", .file 0o644 [])]),
        ("b", .directory 0o755 [("s.sh", .file 0o644 [])])], []⟩
    let last : Record := ⟨"s.sh", 4, [], "/a", []⟩
    let calls : List Call :=
      [(before, ⟨"s.sh", 1, "/a", [], []⟩), (before, ⟨"s.sh", 2, "/b", "/a", []⟩),
        (before, ⟨"s.sh", 3, "/b", "/a", ["/b"]⟩), (now, last)]
    let a : Text := "/a"
    let b : Text := "/b"
    (Resolver.after {} calls).history.pwds.reverse = [a, b] ∧
      ∃ found, (Resolver.answers {} calls)[3]? = some (.ok found) ∧ IsAnswer now [a, b, b] last found := by
  intro before now last calls a b
  have hlog : logged Record.pwd (calls.take (3 + 1)) = [a, b, b] := by decide
  have hnow : now.tree.isWellNamed = true := by decide +kernel
  have hfile : now.isFile? "/b/s.sh" = .ok true := by
    simp only [now]
    cbv
  have htested : testedPaths now (meant [a, b, b] last.source) = [("/b/s.sh" : Text)] := by
    simp only [now, last, a, b]
    cbv
  obtain ⟨hhistory, -, hanswers, -⟩ := answers_by_log calls
  refine ⟨?_, ?_⟩
  · have hkept : [a, b, b].destutter (· ≠ ·) = [a, b] := by decide
    have hall : calls.take 4 = calls := rfl
    have hpwds := (hhistory 4).1
    rw [hlog, hkept] at hpwds
    simp only [hall] at hpwds
    exact hpwds
  · have htests : ∀ p ∈ testedPaths now (meant (logged Record.pwd (calls.take (3 + 1))) last.source),
        ∃ b, now.isFile? p = .ok b := by
      intro p hp
      rw [hlog, htested, List.mem_singleton] at hp
      exact ⟨true, hp ▸ hfile⟩
    have hanswer := hanswers 3 (now, last) rfl hnow htests
    rw [hlog] at hanswer
    exact hanswer

end ShellCoverage.Trace
