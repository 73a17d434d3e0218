import ShellCoverage.Proofs.Report.Columns
import ShellCoverage.Proofs.Report.ResultSet

/-!
# Adding up the commands of a resultset

The arrays of all commands of a resultset have a sum if every file of every command has an array, and each line of the
arrays of each path adds up. A column of items adds up if all of them count, or all are texts, or all are lists.

* `hasArray` : the values that give an array;
* `AddsUp`, `exists_combined_iff` : when the arrays of all commands have a sum;
* `exists_sumsTo_iff` : when the items of a line have a sum.
-/

namespace ShellCoverage

namespace ResultSet

open Json Value Report

variable {s : ResultSet}

/-! ## Arrays -/

/-- The value has items. -/
def hasItems : Value → Bool
  | .text _ | .list _ | .object _ => true
  | _ => false

/-- The value gives the array of a file: an object in its member `lines`, any other value itself. -/
def hasArray : Value → Bool
  | .object ms => (Table.get? linesName ms).any hasItems
  | v => hasItems v

theorem exists_items_iff {v : Value} : (∃ vs, v.items = .ok vs) ↔ hasItems v = true := by
  cases v <;> simp [Value.items, hasItems]

theorem exists_linesOf_iff {v : Value} : (∃ ls, linesOf v = .ok ls) ↔ hasArray v = true := by
  cases v with
  | object ms =>
    rw [hasArray, linesOf]
    cases Table.get? linesName ms with
    | none => simp
    | some w => rw [Option.any_some, ← exists_items_iff]
  | null | bool | int | float | text | list => simp [linesOf, hasArray, ← exists_items_iff]

/-- The arrays that the commands have for a path, in the order of the commands. -/
def arraysAt (s : ResultSet) (path : Text) : List LineArray :=
  s.filterMap fun p => (Table.get? path p.2.coverage).bind fun v => (linesOf v).toOption

/-- All files have arrays, and all lines of these add up. -/
structure AddsUp (s : ResultSet) : Prop where
  hasArray : ∀ p ∈ s, ∀ f ∈ p.2.coverage, hasArray f.2 = true
  column : ∀ path i, ∃ v, SumsTo (column (s.arraysAt path) i) v

/-! ## Entries -/

theorem exists_result_iff {e : Entry} : (∃ r, e.result = .ok r) ↔ ∀ f ∈ e.coverage, hasArray f.2 = true := by
  rw [Entry.result, Except.exists_mapM_iff]
  refine forall₂_congr fun f _ => ?_
  rw [← exists_linesOf_iff]
  constructor
  · rintro ⟨row, hrow⟩
    obtain ⟨ls, hls, -⟩ := Except.map_eq_ok_iff.1 hrow
    exact ⟨ls, hls⟩
  · rintro ⟨ls, hls⟩
    exact ⟨(f.1, ls), Except.map_eq_ok_iff.2 ⟨ls, hls, rfl⟩⟩

/-- The arrays of a command, path by path. -/
theorem get?_result {e : Entry} {r : Result} (h : e.result = .ok r) (path : Text) :
    Table.keys r = Table.keys e.coverage ∧
      Table.get? path r = (Table.get? path e.coverage).bind fun v => (linesOf v).toOption := by
  rw [Entry.result] at h
  generalize e.coverage = fs at h ⊢
  induction fs generalizing r with
  | nil =>
    cases h
    exact ⟨rfl, rfl⟩
  | cons f fs ih =>
    obtain ⟨row, rows, hrow, hrows, rfl⟩ := Except.mapM_cons_eq_ok_iff.1 h
    obtain ⟨ls, hls, rfl⟩ := Except.map_eq_ok_iff.1 hrow
    obtain ⟨hkeys, hget⟩ := ih hrows
    refine ⟨congrArg (f.1 :: ·) hkeys, ?_⟩
    rw [Table.get?, Table.get?, hget]
    by_cases hpath : f.1 = path
    · rw [if_pos hpath, if_pos hpath, Option.bind_some, hls]
      rfl
    · rw [if_neg hpath, if_neg hpath]

/-- The results of all commands. -/
def results (s : ResultSet) : Except DataError (List Result) := s.mapM fun p => p.2.result

theorem exists_results_iff :
    (∃ rs, s.results = .ok rs) ↔ ∀ p ∈ s, ∀ f ∈ p.2.coverage, hasArray f.2 = true := by
  rw [results, Except.exists_mapM_iff]
  exact forall₂_congr fun p _ => exists_result_iff

theorem arraysOf_results {rs : List Result} (h : s.results = .ok rs) (path : Text) :
    arraysOf rs path = s.arraysAt path := by
  rw [results] at h
  induction s generalizing rs with
  | nil =>
    cases h
    rfl
  | cons p s ih =>
    obtain ⟨r, rs, hr, hrs, rfl⟩ := Except.mapM_cons_eq_ok_iff.1 h
    rw [arraysOf, arraysAt, List.filterMap_cons, List.filterMap_cons, (get?_result hr path).2, ← arraysOf,
      ← arraysAt, ih hrs]

/-- Adding up the commands in their turn gives the sum of their results. -/
theorem combined_eq_ok_iff {r : Result} :
    s.combined = .ok r ↔ ∃ rs, s.results = .ok rs ∧ combineResults rs = .ok r := by
  have hfold (acc acc' : Result) : s.foldlM combined.addEntry acc = .ok acc' ↔
      ∃ rs, s.results = .ok rs ∧
        (rs.map fun r => r.map fun p => (p.1, Value.list p.2)).foldlM addFiles acc = .ok acc' := by
    rw [results]
    induction s generalizing acc with
    | nil => exact ⟨fun h => ⟨[], rfl, h⟩, by rintro ⟨rs, hrs, h⟩; cases hrs; exact h⟩
    | cons p s ih =>
      simp only [List.foldlM_cons, combined.addEntry, Except.bind_eq_ok_iff, ih, Except.mapM_cons_eq_ok_iff]
      constructor
      · rintro ⟨next, ⟨r, hr, hnext⟩, rs, hrs, h⟩
        exact ⟨r :: rs, ⟨r, rs, hr, hrs, rfl⟩, Except.bind_eq_ok_iff.2 ⟨next, hnext, h⟩⟩
      · rintro ⟨_, ⟨r, rs, hr, hrs, rfl⟩, h⟩
        obtain ⟨next, hnext, h⟩ := Except.bind_eq_ok_iff.1 h
        exact ⟨next, ⟨r, hr, hnext⟩, rs, hrs, h⟩
  simp only [combined, combineResults, combineValues, Except.map_eq_ok_iff, hfold]
  constructor
  · rintro ⟨acc, ⟨rs, hrs, hacc⟩, rfl⟩
    exact ⟨rs, hrs, acc, hacc, rfl⟩
  · rintro ⟨rs, hrs, acc, hacc, rfl⟩
    exact ⟨acc, ⟨rs, hrs, hacc⟩, rfl⟩

/-! ## Sums -/

/-- No path stands twice in an entry that can be written and read back. -/
theorem nodup_coverage (hs : s.toValue.Every IsPlain) {p : Text × Entry} (hp : p ∈ s) :
    (Table.keys p.2.coverage).Nodup := by
  have hentry : (Value.object p.2.members).Every IsPlain := everyMember_iff.1 hs.2 _ (List.mem_map_of_mem hp)
  have hcoverage := everyMember_iff.1 hentry.2 _ (Table.mem_of_get? p.2.has_coverage)
  exact hcoverage.here.1

theorem nodup_results (hs : s.toValue.Every IsPlain) {rs : List Result} (h : s.results = .ok rs) {r : Result}
    (hr : r ∈ rs) : (Table.keys r).Nodup := by
  obtain ⟨p, hp, hpr⟩ := (Except.mem_mapM_iff h).1 hr
  rw [(get?_result hpr []).1]
  exact nodup_coverage hs hp

/-- The arrays of all commands have a sum just if they add up. -/
theorem exists_combined_iff (hs : s.toValue.Every IsPlain) : (∃ r, s.combined = .ok r) ↔ s.AddsUp := by
  simp only [combined_eq_ok_iff]
  constructor
  · rintro ⟨r, rs, hrs, hr⟩
    refine ⟨exists_results_iff.1 ⟨rs, hrs⟩, fun path i => ?_⟩
    rw [← arraysOf_results hrs]
    exact (exists_combineResults_iff fun _ => nodup_results hs hrs).1 ⟨r, hr⟩ path i
  · intro h
    obtain ⟨rs, hrs⟩ := exists_results_iff.2 h.hasArray
    obtain ⟨r, hr⟩ := (exists_combineResults_iff fun _ => nodup_results hs hrs).2 fun path i => by
      rw [arraysOf_results hrs]
      exact h.column path i
    exact ⟨r, rs, hrs, hr⟩

end ResultSet

/-! ## Items that add up -/

namespace Report

open Json Value

/-- What items are added up as. -/
inductive Group where
  | number
  | text
  | list
  deriving DecidableEq

/-- What an item is added up as: one that counts as nothing is a number. -/
def group? (v : Value) : Option Group :=
  match v with
  | .null | .bool _ | .int _ | .float _ => some .number
  | .text t => some (if t = [] then .number else .text)
  | .list vs => some (if vs.isEmpty then .number else .list)
  | .object ms => if ms.isEmpty then some .number else none

theorem group?_of_number {v : Value} {x : Number} (h : v.number? = some x) : group? v = some .number := by
  cases v with
  | bool | int | float => rfl
  | null | text | list | object => cases h

theorem group?_orZero (v : Value) : group? v.orZero = group? v := by
  cases v with
  | text t => cases t <;> rfl
  | list vs => cases vs <;> rfl
  | object ms => cases ms <;> rfl
  | null | bool | int | float =>
    rw [orZero]
    split <;> rfl

theorem ne_nil_of_orZero_text {v : Value} {t : Text} (h : v.orZero = .text t) : t ≠ [] := by
  rintro rfl
  rw [orZero] at h
  split at h
  next hv =>
    cases h
    cases hv
  next => cases h

theorem ne_nil_of_orZero_list {v : Value} {vs : List Value} (h : v.orZero = .list vs) : vs ≠ [] := by
  rintro rfl
  rw [orZero] at h
  split at h
  next hv =>
    cases h
    cases hv
  next => cases h

theorem orZero_of_text {v : Value} (h : group? v = some .text) : ∃ t, v.orZero = .text t := by
  cases v with
  | text t => cases t with
    | nil => cases h
    | cons c t => exact ⟨c :: t, rfl⟩
  | list vs => cases vs <;> cases h
  | object ms => cases ms <;> cases h
  | null | bool | int | float => cases h

theorem orZero_of_list {v : Value} (h : group? v = some .list) : ∃ vs, v.orZero = .list vs := by
  cases v with
  | list vs => cases vs with
    | nil => cases h
    | cons w vs => exact ⟨w :: vs, rfl⟩
  | text t => cases t <;> cases h
  | object ms => cases ms <;> cases h
  | null | bool | int | float => cases h

/-- Values that have a sum are numbers, texts or lists, and so is the sum. -/
theorem add_eq_ok {a b c : Value} (h : a.add b = .ok c) :
    (∃ x y z, a.number? = some x ∧ b.number? = some y ∧ c.number? = some z) ∨
      (∃ s t, a = .text s ∧ b = .text t ∧ c = .text (s ++ t)) ∨
      ∃ vs ws, a = .list vs ∧ b = .list ws ∧ c = .list (vs ++ ws) := by
  have hmap {n : Int} {f : Float → Value} (h : (toFloat n).map f = .ok c) : ∃ x, f x = c := by
    obtain ⟨x, -, hx⟩ := Except.map_eq_ok_iff.1 h
    exact ⟨x, hx⟩
  rw [add.eq_def] at h
  split at h
  next =>
    cases h
    exact .inr (.inl ⟨_, _, rfl, rfl, rfl⟩)
  next => cases h
  next =>
    cases h
    exact .inr (.inr ⟨_, _, rfl, rfl, rfl⟩)
  next => cases h
  next =>
    split at h
    next ha hb =>
      cases h
      exact .inl ⟨_, _, _, ha, hb, rfl⟩
    next ha hb =>
      obtain ⟨x, rfl⟩ := hmap h
      exact .inl ⟨_, _, _, ha, hb, rfl⟩
    next ha hb =>
      obtain ⟨x, rfl⟩ := hmap h
      exact .inl ⟨_, _, _, ha, hb, rfl⟩
    next ha hb =>
      cases h
      exact .inl ⟨_, _, _, ha, hb, rfl⟩
    next => cases h

theorem eq_null {v : Value} (h : v.isNull = true) : v = .null := by
  cases v <;> first | rfl | cases h

/-- Items with a sum are added up as the same, and so is the sum. -/
theorem group?_of_combineItems {a b c : Value} (h : combineItems a b = .ok c) :
    ∃ g, group? a = some g ∧ group? b = some g ∧ group? c = some g := by
  rw [combineItems] at h
  split at h
  next hnull =>
    rw [Bool.and_eq_true] at hnull
    obtain ⟨rfl, rfl⟩ : a = .null ∧ b = .null := ⟨eq_null hnull.1, eq_null hnull.2⟩
    cases h
    exact ⟨.number, rfl, rfl, rfl⟩
  next =>
    rw [← group?_orZero a, ← group?_orZero b]
    rcases add_eq_ok h with ⟨x, y, z, ha, hb, hc⟩ | ⟨s, t, ha, hb, rfl⟩ | ⟨vs, ws, ha, hb, rfl⟩
    · exact ⟨.number, group?_of_number ha, group?_of_number hb, group?_of_number hc⟩
    · have hs := ne_nil_of_orZero_text ha
      have ht := ne_nil_of_orZero_text hb
      exact ⟨.text, by rw [ha, group?, if_neg hs], by rw [hb, group?, if_neg ht], by simp [group?, hs]⟩
    · have hvs := ne_nil_of_orZero_list ha
      have hws := ne_nil_of_orZero_list hb
      exact ⟨.list, by simp [ha, group?, hvs], by simp [hb, group?, hws], by simp [group?, hvs]⟩

/-- The value is no floating-point number. -/
def IsExactItem (v : Value) : Prop := ∀ x, v ≠ .float x

theorem number?_orZero {v : Value} (h : group? v = some .number) (hv : IsExactItem v) :
    ∃ n, v.orZero.number? = some (.int n) := by
  cases v with
  | null => exact ⟨0, rfl⟩
  | bool b => cases b <;> exact ⟨_, rfl⟩
  | int n =>
    rw [orZero]
    split <;> exact ⟨_, rfl⟩
  | float x => exact absurd rfl (hv x)
  | text t => cases t with
    | nil => exact ⟨0, rfl⟩
    | cons => cases h
  | list vs => cases vs with
    | nil => exact ⟨0, rfl⟩
    | cons => cases h
  | object ms => cases ms with
    | nil => exact ⟨0, rfl⟩
    | cons => cases h

theorem add_of_number {a b : Value} {m n : Int} (ha : a.number? = some (.int m)) (hb : b.number? = some (.int n)) :
    a.add b = .ok (.int (m + n)) := by
  rw [add.eq_def]
  split
  next => cases ha
  next => cases ha
  next => cases ha
  next => cases ha
  next => simp only [ha, hb]

/-- Items that are added up as the same have a sum, if none is a floating-point number. -/
theorem exists_combineItems {a b : Value} {g : Group} (hga : group? a = some g) (hgb : group? b = some g)
    (ha : IsExactItem a) (hb : IsExactItem b) : ∃ c, combineItems a b = .ok c ∧ IsExactItem c := by
  rw [combineItems]
  split
  next => exact ⟨.null, rfl, nofun⟩
  next =>
    cases g with
    | number =>
      obtain ⟨m, hm⟩ := number?_orZero hga ha
      obtain ⟨n, hn⟩ := number?_orZero hgb hb
      exact ⟨_, add_of_number hm hn, nofun⟩
    | text =>
      obtain ⟨s, hs⟩ := orZero_of_text hga
      obtain ⟨t, ht⟩ := orZero_of_text hgb
      exact ⟨.text (s ++ t), by rw [hs, ht, add], nofun⟩
    | list =>
      obtain ⟨vs, hvs⟩ := orZero_of_list hga
      obtain ⟨ws, hws⟩ := orZero_of_list hgb
      exact ⟨.list (vs ++ ws), by rw [hvs, hws, add], nofun⟩

theorem group?_of_foldlM {a sum : Value} {vs : List Value} {g : Group} (ha : group? a = some g)
    (h : vs.foldlM combineItems a = .ok sum) : ∀ v ∈ vs, group? v = some g := by
  induction vs generalizing a with
  | nil => exact nofun
  | cons b vs ih =>
    rw [List.foldlM_cons] at h
    obtain ⟨c, hc, h⟩ := Except.bind_eq_ok_iff.1 h
    obtain ⟨g', hga, hgb, hgc⟩ := group?_of_combineItems hc
    cases ha.symm.trans hga
    exact List.forall_mem_cons.2 ⟨hgb, ih hgc h⟩

theorem exists_foldlM_combineItems {a : Value} {vs : List Value} {g : Group} (ha : group? a = some g)
    (hvs : ∀ v ∈ vs, group? v = some g) (hexact : ∀ v ∈ a :: vs, IsExactItem v) :
    ∃ sum, vs.foldlM combineItems a = .ok sum := by
  induction vs generalizing a with
  | nil => exact ⟨a, rfl⟩
  | cons b vs ih =>
    obtain ⟨hgb, hvs⟩ := List.forall_mem_cons.1 hvs
    obtain ⟨ha', hb, hexact⟩ := List.forall_mem_cons.1 hexact |>.imp id List.forall_mem_cons.1
    obtain ⟨c, hc, hc'⟩ := exists_combineItems ha hgb ha' hb
    obtain ⟨g', hga, -, hgc⟩ := group?_of_combineItems hc
    cases ha.symm.trans hga
    obtain ⟨sum, hsum⟩ := ih hgc hvs (List.forall_mem_cons.2 ⟨hc', hexact⟩)
    exact ⟨sum, Except.bind_eq_ok_iff.2 ⟨c, hc, hsum⟩⟩

/-- **Items add up if all count, or all are texts, or all are lists.** A single item is taken as it is. Floating-point
numbers are left out, as an integer can be too large to be added to them. -/
theorem exists_sumsTo_iff {vs : List Value} (hvs : ∀ v ∈ vs, IsExactItem v) :
    (∃ sum, SumsTo vs sum) ↔ vs.length ≤ 1 ∨ ∃ g, ∀ v ∈ vs, group? v = some g := by
  match vs with
  | [] => exact iff_of_true ⟨.null, rfl⟩ (Or.inl (Nat.zero_le 1))
  | [a] => exact iff_of_true ⟨a, rfl⟩ (Or.inl (Nat.le_refl 1))
  | a :: b :: ws =>
    constructor
    · rintro ⟨sum, h⟩
      obtain ⟨c, hc, h⟩ := Except.bind_eq_ok_iff.1 h
      obtain ⟨g, hga, hgb, hgc⟩ := group?_of_combineItems hc
      exact Or.inr ⟨g, List.forall_mem_cons.2 ⟨hga, List.forall_mem_cons.2 ⟨hgb, group?_of_foldlM hgc h⟩⟩⟩
    · rintro (hlen | ⟨g, hg⟩)
      · simp at hlen
      · obtain ⟨ha, hg⟩ := List.forall_mem_cons.1 hg
        exact exists_foldlM_combineItems ha hg hvs

end Report

end ShellCoverage
