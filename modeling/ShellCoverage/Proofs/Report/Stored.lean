import Mathlib
import ShellCoverage.Proofs.Report.ResultSet

/-!
# Resultsets that are saved and loaded

A resultset to which results were stored, one after the other, is loaded from a file as it was saved to it. Its texts
are any but those with two surrogates that make a pair, as the reader would join these.

* `Stored`, `Stored.IsSafe` : what is stored;
* `ofStores` : the resultset after everything was stored;
* `load_of_save_ofStores` : it is loaded as it was saved, and has the last results.
-/

namespace ShellCoverage.ResultSet

open Json Value

/-- The item for a line that has an integer, or nothing. -/
def itemOf : Option Int → Value
  | some n => .int n
  | none => .null

/-- What is stored: the name of a command, the arrays of its files, and a time. -/
structure Stored where
  name : Text
  files : List (Text × List (Option Int))
  timestamp : Int

namespace Stored

/-- The result that is stored. -/
def result (w : Stored) : Report.Result := w.files.map fun p => (p.1, p.2.map itemOf)

/-- Each file has one array, no text has two surrogates that make a pair, and no integer has more digits than can
be written. -/
structure IsSafe (w : Stored) : Prop where
  nodup : (Table.keys w.files).Nodup
  name_isUnpaired : w.name.IsUnpaired
  path_isUnpaired : ∀ p ∈ w.files, p.1.IsUnpaired
  item_lt : ∀ p ∈ w.files, ∀ n, some n ∈ p.2 → n.natAbs < 10 ^ Numeral.digitLimit
  timestamp_lt : w.timestamp.natAbs < 10 ^ Numeral.digitLimit

variable {w : Stored}

theorem mem_result {p : Text × Report.LineArray} (h : p ∈ w.result) :
    ∃ q ∈ w.files, p = (q.1, q.2.map itemOf) := by
  obtain ⟨q, hq, rfl⟩ := List.mem_map.1 h
  exact ⟨q, hq, rfl⟩

theorem IsSafe.isCounted (h : w.IsSafe) : IsCounted w.result where
  nodup := by
    rw [result, Table.keys, List.map_map]
    exact h.nodup
  isUnpaired path hpath := by
    obtain ⟨p, hp, rfl⟩ := List.mem_map.1 hpath
    obtain ⟨q, hq, rfl⟩ := mem_result hp
    exact h.path_isUnpaired q hq
  items p hp v hv := by
    obtain ⟨q, -, rfl⟩ := mem_result hp
    obtain ⟨item, -, rfl⟩ := List.mem_map.1 hv
    cases item with
    | none => exact Or.inl rfl
    | some n => exact Or.inr ⟨n, rfl⟩

theorem IsSafe.isSafe_item (h : w.IsSafe) {p : Text × Report.LineArray} (hp : p ∈ w.result) {v : Value}
    (hv : v ∈ p.2) : v.IsSafe := by
  obtain ⟨q, hq, rfl⟩ := mem_result hp
  obtain ⟨item, hitem, rfl⟩ := List.mem_map.1 hv
  cases item with
  | none => exact ⟨⟨trivial, trivial⟩, trivial⟩
  | some n => exact ⟨⟨trivial, trivial⟩, h.item_lt q hq n hitem⟩

end Stored

/-- The resultset after some results were stored to another one. -/
def storeAll (s : ResultSet) (ws : List Stored) : ResultSet :=
  ws.foldl (fun s w => s.store w.name (arrays w.result) w.timestamp) s

/-- The resultset to which some results were stored. -/
def ofStores (ws : List Stored) : ResultSet := storeAll [] ws

/-- What was stored last under a name. -/
def lastStored? (ws : List Stored) (name : Text) : Option Stored := ws.reverse.find? (·.name = name)

theorem every_isSafe_storeAll {s : ResultSet} (hs : s.toValue.Every IsSafe) {ws : List Stored}
    (hws : ∀ w ∈ ws, w.IsSafe) : (storeAll s ws).toValue.Every IsSafe := by
  induction ws generalizing s with
  | nil => exact hs
  | cons w ws ih =>
    obtain ⟨hw, hws⟩ := List.forall_mem_cons.1 hws
    refine ih (every_store (fun _ => IsRegular.isSafe) hs hs.here.isPlain hw.name_isUnpaired hw.isCounted ?_ ?_) hws
    · exact fun p hp v hv => hw.isSafe_item hp hv
    · exact ⟨⟨trivial, trivial⟩, hw.timestamp_lt⟩

theorem every_isSafe_ofStores {ws : List Stored} (hws : ∀ w ∈ ws, w.IsSafe) : (ofStores ws).toValue.Every IsSafe :=
  every_isSafe_storeAll every_isSafe_nil hws

theorem exists_render_ofStores {ws : List Stored} (hws : ∀ w ∈ ws, w.IsSafe) : ∃ t, (ofStores ws).render = .ok t :=
  exists_render (every_isSafe_ofStores hws)

theorem result_storeAll (s : ResultSet) (ws : List Stored) (name : Text) :
    (storeAll s ws).result name =
      match lastStored? ws name with
      | some w => .ok w.result
      | none => s.result name := by
  induction ws generalizing s with
  | nil => rfl
  | cons w ws ih =>
    rw [storeAll, List.foldl_cons, ← storeAll, ih, lastStored?, lastStored?, List.reverse_cons, List.find?_append]
    cases ws.reverse.find? (·.name = name) with
    | some w' => rfl
    | none =>
      rw [Option.none_or, result_store, List.find?_singleton]
      by_cases hname : w.name = name
      · simp only [hname, if_true, decide_true]
      · simp only [hname, if_false, decide_false, Bool.false_eq_true]

/-- **A resultset is loaded as it was saved.** Whatever was stored to it, saving fails for the file system alone; from
a file that can be read afterwards, what was saved is loaded, with the names in their order; and the result of each
command is the last one stored under its name. -/
theorem load_of_save_ofStores {ws : List Stored} (hws : ∀ w ∈ ws, w.IsSafe) :
    (∀ (fs fs' : FileSystem) (path : Path) (e : Failure), (ofStores ws).save fs path = (fs', .error e) →
      ∃ e', e = .file e') ∧
    (∀ (fs fs' : FileSystem) (path : Path), (ofStores ws).save fs path = (fs', .ok ()) →
      fs'.holdsFile path.toText = true → load fs' path = .ok (ofStores ws)) ∧
    ∀ name, (ofStores ws).result name =
      match lastStored? ws name with
      | some w => .ok w.result
      | none => .error (.noMember name) := by
  have hregular : (ofStores ws).toValue.Every IsRegular := (every_isSafe_ofStores hws).imp fun _ hv => hv.toIsRegular
  refine ⟨fun fs fs' path e hsave => ?_, fun fs fs' path hsave hfile => load_of_save hregular hsave hfile,
    fun name => result_storeAll [] ws name⟩
  cases saves_save hsave with
  | noDirectory | refused => exact ⟨_, rfl⟩
  | cut hmade hrender hwrite =>
    obtain ⟨t, ht⟩ := exists_render_ofStores hws
    cases hrender.symm.trans ht

/-- A result is replaced by a later one, and a path that stands for bytes outside UTF-8 comes back. -/
theorem load_of_save_ofStores_replaced :
    let ws : List Stored := [⟨"b", [("/a", [some (-1), none])], 5⟩, ⟨[0x1F600, 34, 10], [], 0⟩,
      ⟨"b", [([47, 0xDC80], [some 7, none]), ("/c", [])], 9⟩]
    let fs : FileSystem := ⟨.directory 0o755 [], []⟩
    (∀ w ∈ ws, w.IsSafe) ∧ ∃ fs', (ofStores ws).save fs (Path.ofText "c/r") = (fs', .ok ()) ∧
      fs'.holdsFile "c/r" = true ∧ load fs' (Path.ofText "c/r") = .ok (ofStores ws) ∧
      (ofStores ws).result "b" = .ok [([47, 0xDC80], [.int 7, .null]), ("/c", [])] := by
  intro ws fs
  have hsmall {n : Int} (h : n.natAbs < 10) : n.natAbs < 10 ^ Numeral.digitLimit :=
    Nat.lt_of_lt_of_le h (Nat.le_self_pow (by decide) 10)
  have hws : ∀ w ∈ ws, w.IsSafe := by
    refine List.forall_mem_cons.2 ⟨?_, List.forall_mem_cons.2 ⟨?_, List.forall_mem_singleton.2 ?_⟩⟩
    · refine ⟨by decide, by decide, List.forall_mem_singleton.2 (by decide), ?_, hsmall (by decide)⟩
      simpa using hsmall (n := 1) (by decide)
    · exact ⟨by decide, by decide, nofun, nofun, hsmall (by decide)⟩
    · refine ⟨by decide, by decide, List.forall_mem_cons.2 ⟨by decide, List.forall_mem_singleton.2 (by decide)⟩,
        ?_, hsmall (by decide)⟩
      simpa using hsmall (n := 7) (by decide)
  have hpath : (Path.ofText "c/r").toText = "c/r" := by cbv
  have hmade : fs.makeDirectories (Path.ofText "c/r").parent =
      (⟨.directory 0o755 [("c", .directory 0o755 [])], []⟩, .ok ()) := by cbv
  have hwrite (content : Bytes) : FileSystem.write ⟨.directory 0o755 [("c", .directory 0o755 [])], []⟩ "c/r" content =
      .ok ⟨.directory 0o755 [("c", .directory 0o755 [("r", .file 0o644 content)])], []⟩ := by cbv
  have hholds (content : Bytes) : FileSystem.holdsFile
      ⟨.directory 0o755 [("c", .directory 0o755 [("r", .file 0o644 content)])], []⟩ "c/r" = true := by cbv
  obtain ⟨-, hload, hresult⟩ := load_of_save_ofStores hws
  obtain ⟨t, ht⟩ := exists_render_ofStores hws
  have hsave := save_of_render hmade ht (hpath ▸ hwrite _)
  exact ⟨hws, _, hsave, hholds _, hload fs _ _ hsave (hpath ▸ hholds _), (hresult "b").trans rfl⟩
end ShellCoverage.ResultSet
