import ShellCoverage.Failure
import ShellCoverage.Proofs.Coverage.Counts

/-!
# Calls

Counts are used through calls. A call adds executions of a line, and is refused if their number is negative, or it asks
something. Only the hits that are accepted have an effect, and this does not depend on their order.

* `Query`, `Answer`, `answer` : what can be asked;
* `Call`, `perform`, `afterCalls` : one call, and some in turn;
* `Call.hit?`, `accepted`, `afterCalls_eq` : the hits that some calls count;
* `SameEntries.answer_eq` : the same entries give the same answers;
* `Tallies` : what the counts of some hits are;
* `calls_tallied` : what can be observed after any calls.
-/

namespace ShellCoverage.Counts

/-- What can be asked. -/
inductive Query where
  /-- How often a line ran. -/
  | hits (path : Text) (line : Int)
  /-- The lines of a file that have entries, with their counts. -/
  | lines (path : Text)
  /-- The files with entries, which is also what an iteration goes through. -/
  | files
  /-- Their number. -/
  | size
  /-- Whether there are any. -/
  | nonempty
  /-- Whether a file is one of them. -/
  | has (path : Text)
  /-- The counts of a file as an array. -/
  | toList (path : Text) (length : Int)
  /-- The arrays of all files. -/
  | arrays

/-- What is answered. -/
inductive Answer where
  | number (n : Nat)
  | truth (b : Bool)
  | paths (ps : List Text)
  | lines (ls : List (Int × Nat))
  | array (items : List (Option Nat))
  | arrays (rows : List (Text × List (Option Nat)))
  deriving DecidableEq

/-- The answer to a question. -/
def answer (c : Counts) : Query → Answer
  | .hits path line => .number (c.hits path line)
  | .lines path => .lines (c.sortedLines path)
  | .files => .paths c.files
  | .size => .number c.size
  | .nonempty => .truth (c.size != 0)
  | .has path => .truth (c.has path)
  | .toList path length => .array (c.toList path length)
  | .arrays => .arrays c.arrays

/-- Something that is done with counts. -/
inductive Call where
  | hit (path : Text) (line count : Int)
  | ask (q : Query)

/-- The counts after a call, and what is answered or why the call is refused. -/
def perform (c : Counts) : Call → Counts × Except Failure (Option Answer)
  | .hit path line count =>
    match c.hit path line count with
    | some c' => (c', .ok none)
    | none => (c, .error .decreasingCount)
  | .ask q => (c, .ok (some (c.answer q)))

/-- The counts after some calls. -/
def afterCalls (calls : List Call) : Counts := calls.foldl (fun c x => (c.perform x).1) {}

/-! ## Accepted hits -/

/-- The hit that a call counts. A refused call counts none, and neither does a question. -/
def Call.hit? : Call → Option Hit
  | .hit path line count => if 0 ≤ count then some ⟨path, line, count.toNat⟩ else none
  | .ask _ => none

/-- The hits that some calls count, in their order. -/
def accepted (calls : List Call) : List Hit := calls.filterMap Call.hit?

theorem perform_hit_of_neg (c : Counts) (path : Text) (line : Int) {count : Int} (h : count < 0) :
    c.perform (.hit path line count) = (c, .error .decreasingCount) := by
  rw [perform, hit, if_pos h]

theorem perform_hit_of_nonneg (c : Counts) (path : Text) (line : Int) {count : Int} (h : 0 ≤ count) :
    c.perform (.hit path line count) = (c.add path line count.toNat, .ok none) := by
  have hnot : ¬ count < 0 := by omega
  rw [perform, hit, if_neg hnot]

theorem perform_fst (c : Counts) (x : Call) : (c.perform x).1 = c.addHits x.hit?.toList := by
  cases x with
  | ask q => rfl
  | hit path line count =>
    rw [Call.hit?]
    by_cases h : 0 ≤ count
    · rw [if_pos h, perform_hit_of_nonneg c path line h]
      rfl
    · rw [if_neg h, perform_hit_of_neg c path line (by omega)]
      rfl

/-- Some calls come to the hits that they count. -/
theorem foldl_perform (c : Counts) (calls : List Call) :
    calls.foldl (fun c x => (c.perform x).1) c = c.addHits (accepted calls) := by
  induction calls generalizing c with
  | nil => rfl
  | cons x calls ih =>
    have hfirst : accepted (x :: calls) = x.hit?.toList ++ accepted calls := by
      rw [accepted, List.filterMap_cons]
      cases x.hit? <;> rfl
    rw [List.foldl_cons, ih, perform_fst, hfirst, addHits_append]

theorem afterCalls_eq (calls : List Call) : afterCalls calls = ofHits (accepted calls) := foldl_perform {} calls

/-- A call that counts nothing leaves no trace. -/
theorem afterCalls_of_hit?_eq_none {x : Call} (hx : x.hit? = none) (before later : List Call) :
    afterCalls (before ++ x :: later) = afterCalls (before ++ later) := by
  have hsame : accepted (before ++ x :: later) = accepted (before ++ later) := by
    rw [accepted, accepted, List.filterMap_append, List.filterMap_append, List.filterMap_cons_none hx]
  rw [afterCalls_eq, afterCalls_eq, hsame]

/-! ## Observations -/

theorem size_eq_length_files (c : Counts) : c.size = c.files.length := by
  have hlength : c.files.length = (Table.keys c.table).length := (List.mergeSort_perm _ _).length_eq
  rw [hlength, Table.keys, List.length_map, size]

/-- The same entries give the same answers. -/
theorem SameEntries.answer_eq {c c' : Counts} (h : c.SameEntries c') (hc : c.IsProper) (hc' : c'.IsProper)
    (q : Query) : c.answer q = c'.answer q := by
  have hsize : c.size = c'.size := by
    rw [size_eq_length_files, size_eq_length_files, h.files_eq hc hc']
  cases q with
  | hits path line => exact congrArg Answer.number (h.hits path line)
  | lines path => exact congrArg Answer.lines (h.sortedLines_eq hc hc' path)
  | files => exact congrArg Answer.paths (h.files_eq hc hc')
  | size => exact congrArg Answer.number hsize
  | nonempty => rw [answer, answer, hsize]
  | has path =>
    refine congrArg Answer.truth (Bool.eq_iff_iff.2 ?_)
    rw [has_iff, has_iff]
    exact h.files path
  | toList path length => exact congrArg Answer.array (h.toList_eq path length)
  | arrays => exact congrArg Answer.arrays (h.arrays_eq hc hc')

/-- What the counts of some hits are: sums, line by line, for the files that were hit. -/
structure Tallies (xs : List Hit) (c : Counts) : Prop where
  hits : ∀ path line, c.hits path line =
    (xs.map fun x => if x.path = path ∧ x.line = line then x.count else 0).sum
  mem_files : ∀ path, path ∈ c.files ↔ ∃ x ∈ xs, x.path = path
  ascending : c.files.Pairwise (· < ·)
  size : c.size = c.files.length
  nonempty : c.answer .nonempty = .truth true ↔ ∃ path, path ∈ c.files
  has : ∀ path, c.has path = true ↔ path ∈ c.files

theorem tallies_ofHits (xs : List Hit) : Tallies xs (ofHits xs) := by
  refine ⟨hits_ofHits_eq_sum xs, fun path => mem_files_ofHits, pairwise_files (isProper_ofHits xs).files,
    size_eq_length_files _, ?_, fun path => ?_⟩
  · have hnonempty : (ofHits xs).files.length ≠ 0 ↔ ∃ path, path ∈ (ofHits xs).files := by
      rw [ne_eq, List.length_eq_zero_iff, List.eq_nil_iff_forall_not_mem, not_forall_not]
    rw [← hnonempty, answer, size_eq_length_files, Answer.truth.injEq, bne_iff_ne]
  · rw [has_iff, mem_files]

/-- **What can be observed after any calls.** The counts are the sums of the accepted hits, and the files those with an
accepted hit. A hit is refused if its number is negative, and then leaves no trace that could be observed at any later
time; neither does a question. Counts never decrease, and the order of the calls makes no difference. -/
theorem calls_tallied (calls : List Call) :
    Tallies (accepted calls) (afterCalls calls) ∧
    (∀ path line count,
      (count < 0 →
        (afterCalls calls).perform (.hit path line count) = (afterCalls calls, .error .decreasingCount)) ∧
      (0 ≤ count → ((afterCalls calls).perform (.hit path line count)).2 = .ok none)) ∧
    (∀ before x later, calls = before ++ x :: later → x.hit? = none →
      ∀ q, (afterCalls calls).answer q = (afterCalls (before ++ later)).answer q) ∧
    (∀ more path line, (afterCalls calls).hits path line ≤ (afterCalls (calls ++ more)).hits path line) ∧
    ∀ calls', calls.Perm calls' → ∀ q, (afterCalls calls).answer q = (afterCalls calls').answer q := by
  refine ⟨?_, fun path line count => ⟨fun h => ?_, fun h => ?_⟩, fun before x later hcalls hx q => ?_,
    fun more path line => ?_, fun calls' hperm q => ?_⟩
  · rw [afterCalls_eq]
    exact tallies_ofHits _
  · exact perform_hit_of_neg _ path line h
  · rw [perform_hit_of_nonneg _ path line h]
  · rw [hcalls, afterCalls_of_hit?_eq_none hx]
  · have happend : accepted (calls ++ more) = accepted calls ++ accepted more := List.filterMap_append
    rw [afterCalls_eq, afterCalls_eq, happend, hits_ofHits_append]
    exact Nat.le_add_right _ _
  · have haccepted : (accepted calls).Perm (accepted calls') := hperm.filterMap _
    have hproper (calls : List Call) : (afterCalls calls).IsProper := by
      rw [afterCalls_eq]
      exact isProper_ofHits _
    have hsame : (afterCalls calls).SameEntries (afterCalls calls') := by
      rw [afterCalls_eq, afterCalls_eq]
      exact sameEntries_addHits {} haccepted
    exact hsame.answer_eq (hproper calls) (hproper calls') q

theorem calls_tallied_refused :
    let path : Text := "/a.sh"
    let first : Call := .hit path 3 2
    let refused : Call := .hit path 1 (-1)
    let asked : Call := .ask (.hits path 7)
    (afterCalls [first]).perform refused = (afterCalls [first], .error .decreasingCount) ∧
      (∀ q, (afterCalls [first, refused, asked, first]).answer q = (afterCalls [first, asked, first]).answer q) ∧
      (∀ q, (afterCalls [first, asked, first]).answer q = (afterCalls [first, first]).answer q) ∧
      ∀ q, (afterCalls [refused, first, asked]).answer q = (afterCalls [asked, first, refused]).answer q := by
  intro path first refused asked
  refine ⟨?_, ?_, ?_, ?_⟩
  · exact ((calls_tallied [first]).2.1 path 1 (-1)).1 (by decide)
  · exact (calls_tallied _).2.2.1 [first] refused [asked, first] rfl rfl
  · exact (calls_tallied _).2.2.1 [first] asked [first] rfl rfl
  · exact (calls_tallied _).2.2.2.2 _ (List.reverse_perm _).symm

end ShellCoverage.Counts
