import ShellCoverage.Proofs.FileSystem.Directories
import ShellCoverage.Proofs.Json.Cut
import ShellCoverage.Proofs.Json.Loaded
import ShellCoverage.Proofs.Json.Printed
import ShellCoverage.Report.ResultSet

/-!
# Resultsets in files

A resultset is loaded from a file as it was saved to it. What is not written in full cannot be loaded: neither
the text before a number that is too large is a resultset, nor is that of a device.

* `ofValue_eq_ok_iff` : resultsets and their values;
* `ofBytes_of_render`, `ofBytes_of_render_error` : resultsets and the bytes of files;
* `IsCounted`, `every_store` : values of a resultset after something was stored;
* `Saves`, `load_of_save`, `load_of_save_cases` : what is loaded after saving.
-/

namespace ShellCoverage.ResultSet

open Json Value

/-! ## Values -/

theorem Entry.ext {e e' : Entry} (h : e.members = e'.members) : e = e' := by
  obtain ⟨ms, c, hc⟩ := e
  obtain ⟨ms', c', hc'⟩ := e'
  cases h
  cases hc.symm.trans hc'
  rfl

theorem Entry.ofValue?_eq_some_iff {v : Value} {e : Entry} : Entry.ofValue? v = some e ↔ v = e.toValue := by
  constructor
  · intro h
    rw [ofValue?.eq_def] at h
    split at h
    next ms =>
      split at h
      next =>
        cases h
        rfl
      next => cases h
    next => cases h
  · rintro rfl
    rw [toValue, ofValue?]
    split
    next c h => exact congrArg some (Entry.ext rfl)
    next h => exact absurd e.has_coverage (h _)

theorem entriesOf_eq_ok_iff {path : Text} {ms : List (Text × Value)} {s : ResultSet} :
    entriesOf path ms = .ok s ↔ ms = s.map fun p => (p.1, p.2.toValue) := by
  induction ms generalizing s with
  | nil =>
    rw [entriesOf, Except.ok.injEq]
    exact ⟨fun h => h ▸ rfl, fun h => (List.map_eq_nil_iff.1 h.symm).symm⟩
  | cons m ms ih =>
    obtain ⟨name, v⟩ := m
    rw [entriesOf]
    cases hv : Entry.ofValue? v with
    | none =>
      refine iff_of_false nofun fun h => ?_
      cases s with
      | nil => cases h
      | cons p s =>
        rw [List.map_cons, List.cons.injEq, Prod.mk.injEq] at h
        rw [Entry.ofValue?_eq_some_iff.2 h.1.2] at hv
        cases hv
    | some e =>
      rw [Entry.ofValue?_eq_some_iff] at hv
      subst hv
      rw [Except.map_eq_ok_iff]
      constructor
      · rintro ⟨s', hs', rfl⟩
        rw [ih.1 hs', List.map_cons]
      · intro h
        cases s with
        | nil => cases h
        | cons p s =>
          rw [List.map_cons, List.cons.injEq, Prod.mk.injEq] at h
          obtain ⟨⟨rfl, hentry⟩, hrest⟩ := h
          exact ⟨s, ih.2 hrest, by rw [Entry.ext (Value.object.inj hentry)]⟩

theorem ofValue_eq_ok_iff {path : Text} {v : Value} {s : ResultSet} : ofValue path v = .ok s ↔ v = s.toValue := by
  rw [ofValue.eq_def]
  split
  next ms => rw [entriesOf_eq_ok_iff, toValue, Value.object.injEq]
  next hv =>
    constructor
    · intro h
      cases h
    · rintro rfl
      exact absurd rfl (hv _)

/-- An empty resultset. -/
theorem every_isSafe_nil : Value.Every IsSafe (toValue []) := ⟨isSafe_object List.nodup_nil nofun, trivial⟩

/-! ## Storing -/

section
variable {s : ResultSet} {name : Text} {r : Report.Result} {timestamp : Int}

/-- The arrays of a result as values. -/
def arrays (r : Report.Result) : List (Text × Value) := r.map fun p => (p.1, .list p.2)

theorem keys_toValues (s : ResultSet) : Table.keys (s.map fun p => (p.1, p.2.toValue)) = Table.keys s := by
  rw [Table.keys, List.map_map]
  rfl

/-- The arrays of an entry are those from which it was made. -/
theorem result_make (r : Report.Result) (timestamp : Int) : (Entry.make (arrays r) timestamp).result = .ok r := by
  have hall : ((arrays r).map fun p => (p.1, Value.object [(linesName, p.2)])).mapM
      (fun p => (linesOf p.2).map fun ls => (p.1, ls)) = .ok r := by
    induction r with
    | nil => rfl
    | cons p r ih => exact Except.mapM_cons_eq_ok_iff.2 ⟨p, r, rfl, ih, rfl⟩
  exact hall

/-- Storing a result sets the arrays of its command. -/
theorem result_store (s : ResultSet) (name name' : Text) (r : Report.Result) (timestamp : Int) :
    (s.store name (arrays r) timestamp).result name' = if name = name' then .ok r else s.result name' := by
  rw [result, store, Table.get?_insert]
  by_cases hname : name = name'
  · rw [if_pos hname, if_pos hname]
    exact result_make r timestamp
  · rw [if_neg hname, if_neg hname, result]

/-- What is asked of a result that is stored: arrays of integers and nulls, and paths without pairs of
surrogates. -/
structure IsCounted (r : Report.Result) : Prop where
  nodup : (Table.keys r).Nodup
  isUnpaired : ∀ path ∈ Table.keys r, path.IsUnpaired
  items : ∀ p ∈ r, ∀ v ∈ p.2, v = .null ∨ ∃ n, v = .int n

/-! ### Values in a resultset

A property of all values holds after storing, if it holds of the integers that are stored, and of all lists,
objects and nulls that can be read back. -/

variable {P : Value → Prop} (hP : ∀ v : Value, v.IsRegular → (∀ n, v ≠ .int n) → P v)
include hP

theorem every_array {vs : List Value} (hvs : ∀ v ∈ vs, v = .null ∨ ∃ n, v = .int n) (hints : ∀ v ∈ vs, P v) :
    Value.Every P (.list vs) := by
  refine ⟨hP _ ⟨trivial, trivial⟩ nofun, everyItem_iff.2 fun v hv => ?_⟩
  have hpv := hints v hv
  rcases hvs v hv with rfl | ⟨n, rfl⟩
  · exact hpv
  · exact hpv

theorem every_object {ms : List (Text × Value)} (hnodup : (Table.keys ms).Nodup)
    (hnames : ∀ name ∈ Table.keys ms, name.IsUnpaired) (hms : ∀ m ∈ ms, m.2.Every P) :
    Value.Every P (.object ms) := ⟨hP _ ⟨⟨hnodup, hnames⟩, trivial⟩ nofun, everyMember_iff.2 hms⟩

theorem every_make (hr : IsCounted r) (hints : ∀ p ∈ r, ∀ v ∈ p.2, P v) (htimestamp : P (.int timestamp)) :
    (Entry.make (arrays r) timestamp).toValue.Every P := by
  have hlines : linesName.IsUnpaired := by decide
  have hnames : ∀ name ∈ [coverageName, timestampName], name.IsUnpaired :=
    List.forall_mem_cons.2 ⟨by decide, List.forall_mem_singleton.2 (by decide)⟩
  have hnodup : [coverageName, timestampName].Nodup := by decide
  have hfiles : Value.Every P (.object ((arrays r).map fun p => (p.1, .object [(linesName, p.2)]))) := by
    have hkeys : Table.keys ((arrays r).map fun p => (p.1, Value.object [(linesName, p.2)])) = Table.keys r := by
      simp only [Table.keys, arrays, List.map_map, Function.comp_def]
    refine every_object hP (hkeys ▸ hr.nodup) (hkeys ▸ hr.isUnpaired) fun m hm => ?_
    simp only [arrays, List.map_map, List.mem_map, Function.comp_apply] at hm
    obtain ⟨p, hp, rfl⟩ := hm
    refine every_object hP (List.nodup_singleton _) (List.forall_mem_singleton.2 hlines) ?_
    exact List.forall_mem_singleton.2 (every_array hP (hr.items p hp) (hints p hp))
  exact every_object hP hnodup hnames (List.forall_mem_cons.2 ⟨hfiles, List.forall_mem_singleton.2 htimestamp⟩)

/-- All values of a resultset still have a property after something was stored. -/
theorem every_store (hs : s.toValue.Every P) (hplain : s.toValue.IsPlain) (hname : name.IsUnpaired)
    (hr : IsCounted r) (hints : ∀ p ∈ r, ∀ v ∈ p.2, P v) (htimestamp : P (.int timestamp)) :
    (s.store name (arrays r) timestamp).toValue.Every P := by
  rw [toValue, IsPlain, keys_toValues] at hplain
  refine every_object hP ?_ ?_ fun m hm => ?_
  · rw [keys_toValues]
    exact Table.nodup_insert _ _ hplain.1
  · rw [keys_toValues]
    intro name' hname'
    rcases Table.mem_keys_insert.1 hname' with hold | rfl
    · exact hplain.2 name' hold
    · exact hname
  · obtain ⟨p, hp, rfl⟩ := List.mem_map.1 hm
    rcases Table.mem_of_mem_insert hp with rfl | hp
    · exact every_make hP hr hints htimestamp
    · exact everyMember_iff.1 hs.2 _ (List.mem_map_of_mem hp)

end

/-! ## Bytes -/

section
variable {s : ResultSet} {path : Text}

/-- A resultset with integers that are small enough has a text. -/
theorem exists_render (hs : s.toValue.Every IsSafe) : ∃ t, s.render = .ok t :=
  ⟨_, Except.map_eq_ok_iff.2 ⟨_, render_eq_ok (hs.imp fun _ hv => hv.fits), rfl⟩⟩

/-- The text of a resultset is read as the resultset. -/
theorem ofBytes_of_render (path : Text) (hs : s.toValue.Every IsRegular) {t : Text} (ht : s.render = .ok t) :
    t.toBytes? = some t.printedBytes ∧ ofBytes path t.printedBytes = .ok s := by
  obtain ⟨u, hu, rfl⟩ := Except.map_eq_ok_iff.1 ht
  have hfits := every_fits_of_render hs hu
  have hprinted : Text.IsPrinted (u ++ [10]) :=
    ((isPrinted_render (hs.imp fun _ h => h.isExact)).1 u hu).append (by decide)
  rw [render_eq_ok hfits] at hu
  cases hu
  refine ⟨Text.toBytes?_of_isPrinted hprinted, ?_⟩
  rw [ofBytes, Text.ofBytes?_of_isPrinted hprinted]
  dsimp only
  rw [Text.unifyLineEnds_of_isPrinted hprinted, read_layout (Every.isSafe hs hfits)]
  exact ofValue_eq_ok_iff.2 rfl

/-- What is written up to a number that is too large is no resultset. -/
theorem ofBytes_of_render_error (path : Text) (hs : s.toValue.Every IsRegular) {t : Text} {e : Numeral.Error}
    (ht : s.render = .error (t, e)) : ∃ e', ofBytes path (t.toBytes?.getD []) = .error e' := by
  have hrender : Json.render s.toValue = .error (t, e) := by
    rw [render] at ht
    cases hu : Json.render s.toValue with
    | ok u =>
      rw [hu] at ht
      cases ht
    | error p =>
      rw [hu] at ht
      cases ht
      rfl
  have hlarge : ¬ s.toValue.Every Fits := by
    intro hfits
    rw [render_eq_ok hfits] at hrender
    cases hrender
  obtain ⟨p, e', hp, f, hf⟩ := render_of_large hs hlarge
  cases hrender.symm.trans hp
  have hprinted := (isPrinted_render (hs.imp fun _ h => h.isExact)).2 t e hrender
  rw [Text.toBytes?_of_isPrinted hprinted, Option.getD_some, ofBytes, Text.ofBytes?_of_isPrinted hprinted]
  dsimp only
  rw [Text.unifyLineEnds_of_isPrinted hprinted, hf]
  exact ⟨_, rfl⟩

theorem ofBytes_nil (path : Text) : ∃ e, ofBytes path [] = .error e := by
  have htext : Text.ofBytes? [] = .ok [] := by rw [Text.ofBytes?, Text.ofBytesFrom?]
  rw [ofBytes, htext]
  dsimp only
  rw [Text.unifyLineEnds]
  exact ⟨_, rfl⟩

/-- What is read from a file can be read again once it is written. -/
theorem every_isPlain_of_ofBytes {content : Bytes} (h : ofBytes path content = .ok s) :
    s.toValue.Every IsPlain := by
  rw [ofBytes] at h
  split at h
  next => cases h
  next t ht =>
    split at h
    next => cases h
    next v hv =>
      rw [ofValue_eq_ok_iff] at h
      exact h ▸ every_isPlain_of_read (Text.isScalar_of_ofBytes? ht).unifyLineEnds hv

end

/-! ## Loading -/

section
variable {s s₀ : ResultSet} {fs fs' : FileSystem} {path : Path} {place : List Name} {x : Node}

theorem load_of_locate_error {e : FileError} (h : fs.locate true path.toText = .error e) :
    load fs path = .ok [] ∨ ∃ e, load fs path = .error e := by
  rw [load, FileSystem.exists?, FileSystem.test, h]
  by_cases habsent : FileSystem.isAbsence e = true
  · simp only [habsent, if_true, true_or]
  · exact Or.inr ⟨.file e, by simp only [habsent, Bool.false_eq_true, if_false]⟩

theorem load_of_locate (h : fs.locate true path.toText = .ok (place, x)) :
    load fs path =
      match fs.read path.toText with
      | .error e => .error (.resultSet (.unreadable path.toText e.message))
      | .ok content => (ofBytes path.toText content).mapError .resultSet := by
  have hexists : fs.exists? path.toText = .ok true := by rw [FileSystem.exists?, FileSystem.test, h]
  cases hread : fs.read path.toText with
  | error e => simp only [load, hexists, hread]
  | ok content => simp only [load, hexists, hread]

theorem load_of_file {mode : Nat} {content : Bytes}
    (h : fs.locate true path.toText = .ok (place, .file mode content))
    (hreadable : (Node.file mode content).isReadable = true) :
    load fs path = (ofBytes path.toText content).mapError .resultSet := by
  have hread : fs.read path.toText = .ok content := by
    rw [FileSystem.read, h]
    simp only [bind, Except.bind, hreadable, if_true]
  rw [load_of_locate h, hread]

/-- A resultset with integers that are small enough is loaded from files with some content. -/
theorem exists_content_load (hs : s.toValue.Every IsSafe) : ∃ content, ∀ {fs : FileSystem} {path : Path}
    {place : List Name} {mode : Nat}, fs.locate true path.toText = .ok (place, .file mode content) →
      (Node.file mode []).isReadable = true → load fs path = .ok s := by
  obtain ⟨t, ht⟩ := exists_render hs
  refine ⟨t.printedBytes, fun h hreadable => ?_⟩
  rw [load_of_file h hreadable, (ofBytes_of_render _ (hs.imp fun _ hv => hv.toIsRegular) ht).2]
  rfl

/-- Nothing but a regular file can be loaded. -/
theorem load_of_not_file (h : fs.locate true path.toText = .ok (place, x))
    (hx : ¬ (x.isFile = true ∧ x.isReadable = true)) : ∃ e, load fs path = .error e := by
  rw [load_of_locate h, FileSystem.read, h]
  cases x with
  | file mode content =>
    have hclosed : ¬ (Node.file mode content).isReadable = true := fun hreadable => hx ⟨rfl, hreadable⟩
    exact ⟨_, by simp only [bind, Except.bind, hclosed, Bool.false_eq_true, if_false]; rfl⟩
  | directory => exact ⟨_, rfl⟩
  | link | device | fifo =>
    obtain ⟨e, he⟩ := ofBytes_nil path.toText
    exact ⟨.resultSet e, congrArg (Except.mapError Failure.resultSet) he⟩

/-- What is there but cannot be loaded is no resultset. -/
theorem resultSet_of_load_error {e : Failure} (hexists : fs.exists? path.toText = .ok true)
    (h : load fs path = .error e) : ∃ e', e = .resultSet e' := by
  rw [load, hexists] at h
  dsimp only at h
  split at h
  next =>
    cases h
    exact ⟨_, rfl⟩
  next content _ =>
    cases hs : ofBytes path.toText content with
    | error e' =>
      rw [hs] at h
      cases h
      exact ⟨e', rfl⟩
    | ok s =>
      rw [hs] at h
      cases h

/-- A resultset that is loaded from a file can be read again once it is written. -/
theorem every_isPlain_of_load (h : load fs path = .ok s) : s.toValue.Every IsPlain := by
  rw [load] at h
  split at h
  next => cases h
  next =>
    cases h
    exact ⟨⟨List.nodup_nil, nofun⟩, trivial⟩
  next =>
    split at h
    next => cases h
    next content _ =>
      cases hs : ofBytes path.toText content with
      | error e =>
        rw [hs] at h
        cases h
      | ok s' =>
        rw [hs] at h
        cases h
        exact every_isPlain_of_ofBytes hs

/-! ## Saving -/

/-- What saving a resultset does. -/
inductive Saves (s : ResultSet) (fs : FileSystem) (path : Path) : FileSystem → Except Failure Unit → Prop
  /-- The directory cannot be made. -/
  | noDirectory {fs' : FileSystem} {e : FileError} (hmade : fs.makeDirectories path.parent = (fs', .error e)) :
      Saves s fs path fs' (.error (.file e))
  /-- The file cannot be written. -/
  | refused {fs' : FileSystem} {content : Bytes} {e : FileError}
      (hmade : fs.makeDirectories path.parent = (fs', .ok ()))
      (hwrite : fs'.write path.toText content = .error e) : Saves s fs path fs' (.error (.file e))
  /-- The file is written. -/
  | written {fs₁ fs' : FileSystem} {t : Text} (hmade : fs.makeDirectories path.parent = (fs₁, .ok ()))
      (hrender : s.render = .ok t) (hwrite : fs₁.write path.toText (t.toBytes?.getD []) = .ok fs') :
      Saves s fs path fs' (.ok ())
  /-- The file is written up to a number that is too large. -/
  | cut {fs₁ fs' : FileSystem} {t : Text} {e : Numeral.Error}
      (hmade : fs.makeDirectories path.parent = (fs₁, .ok ())) (hrender : s.render = .error (t, e))
      (hwrite : fs₁.write path.toText (t.toBytes?.getD []) = .ok fs') : Saves s fs path fs' (.error (.numeral e))

theorem saves_save {o : Except Failure Unit} (h : s.save fs path = (fs', o)) : Saves s fs path fs' o := by
  rw [save] at h
  split at h
  next hmade =>
    cases h
    exact .noDirectory hmade
  next hmade =>
    cases hrender : s.render with
    | ok t =>
      rw [hrender] at h
      dsimp only at h
      split at h
      next hwrite =>
        cases h
        exact .refused hmade hwrite
      next hwrite =>
        cases h
        exact .written hmade hrender hwrite
    | error p =>
      rw [hrender] at h
      dsimp only at h
      split at h
      next hwrite =>
        cases h
        exact .refused hmade hwrite
      next hwrite =>
        cases h
        exact .cut hmade hrender hwrite

/-- Saving does nothing else. -/
theorem save_of_saves {o : Except Failure Unit} (h : Saves s fs path fs' o) : s.save fs path = (fs', o) := by
  cases h with
  | noDirectory hmade => rw [save, hmade]
  | refused hmade hwrite =>
    rw [save, hmade]
    dsimp only
    rw [FileSystem.write_eq_error hwrite]
  | written hmade hrender hwrite =>
    rw [save, hmade]
    dsimp only
    rw [hrender]
    dsimp only
    rw [hwrite]
  | cut hmade hrender hwrite =>
    rw [save, hmade]
    dsimp only
    rw [hrender]
    dsimp only
    rw [hwrite]

/-- A resultset that can be written is saved. -/
theorem save_of_render {s : ResultSet} {fs fs₁ fs' : FileSystem} {path : Path} {t : Text}
    (hmade : fs.makeDirectories path.parent = (fs₁, .ok ())) (hrender : s.render = .ok t)
    (hwrite : fs₁.write path.toText (t.toBytes?.getD []) = .ok fs') : s.save fs path = (fs', .ok ()) :=
  save_of_saves (.written hmade hrender hwrite)

/-- What is loaded after something was written: what it is read as, or nothing that could be loaded. -/
theorem load_of_write {content : Bytes} (h : fs.write path.toText content = .ok fs') :
    load fs' path = (ofBytes path.toText content).mapError .resultSet ∨ ∃ e, load fs' path = .error e := by
  rcases FileSystem.locate_of_write h with ⟨place, mode, hfile, -⟩ | ⟨rfl, place, x, hx, hplain, -⟩
  · by_cases hreadable : (Node.file mode content).isReadable = true
    · exact Or.inl (load_of_file hfile hreadable)
    · exact Or.inr (load_of_not_file hfile fun hr => hreadable hr.2)
  · exact Or.inr (load_of_not_file hx fun hfile => by rw [hplain] at hfile; cases hfile.1)

theorem load_of_write_error {content : Bytes} {e : FileError} (h : fs.write path.toText content = .error e) :
    load fs path = .ok [] ∨ ∃ e, load fs path = .error e := by
  rcases FileSystem.locate_of_write_error h with ⟨e, he⟩ | ⟨place, x, hx, hdir⟩
  · exact load_of_locate_error he
  · refine Or.inr (load_of_not_file hx fun hfile => ?_)
    cases x with
    | directory => cases hfile.1
    | file | link | device | fifo => cases hdir

/-- What is saved to a file is loaded from it. -/
theorem load_of_save (hs : s.toValue.Every IsRegular) (h : s.save fs path = (fs', .ok ()))
    (hfile : fs'.holdsFile path.toText = true) : load fs' path = .ok s := by
  cases saves_save h with
  | written hmade hrender hwrite =>
    obtain ⟨hbytes, hs'⟩ := ofBytes_of_render path.toText hs hrender
    rw [hbytes, Option.getD_some] at hwrite
    obtain ⟨place, mode, content, hlocate, hreadable⟩ := FileSystem.holdsFile_iff.1 hfile
    rcases FileSystem.locate_of_write hwrite with ⟨place', mode', hfile, -⟩ | ⟨rfl, place', x, hx, hplain, -⟩
    · cases hlocate.symm.trans hfile
      rw [load_of_file hlocate hreadable, hs']
      rfl
    · cases hlocate.symm.trans hx
      cases hplain

/-- Making the directory of a file from which a resultset was loaded changes nothing, unless there was no file; and
if it fails there is none afterwards. -/
theorem load_of_makeDirectories (hpath : path.IsNormal) (h₀ : load fs path = .ok s₀) {o : Except FileError Unit}
    (h : fs.makeDirectories path.parent = (fs', o)) :
    fs' = fs ∨ s₀ = [] ∧ ((∃ e, o = .error e) → ∃ e, fs'.locate true path.toText = .error e) := by
  rcases FileSystem.makeDirectories_parent hpath h with hsame | ⟨⟨e, habsent⟩, hfailed⟩
  · exact Or.inl hsame
  · rcases load_of_locate_error habsent with hempty | ⟨e, he⟩
    · cases h₀.symm.trans hempty
      exact Or.inr ⟨rfl, hfailed⟩
    · cases h₀.symm.trans he

/-- After saving in place of a resultset that was loaded, either that one is still loaded, after a failure, or the
saved one is, or none can be. -/
theorem load_of_save_cases (hpath : path.IsNormal) (hs : s.toValue.Every IsRegular) (h₀ : load fs path = .ok s₀)
    {o : Except Failure Unit} (h : s.save fs path = (fs', o)) :
    (load fs' path = .ok s₀ ∧ ∃ e, o = .error e) ∨ (load fs' path = .ok s ∧ o = .ok ()) ∨
      ∃ e, load fs' path = .error e := by
  cases saves_save h with
  | noDirectory hmade =>
    rcases load_of_makeDirectories hpath h₀ hmade with rfl | ⟨rfl, hfailed⟩
    · exact Or.inl ⟨h₀, _, rfl⟩
    · obtain ⟨e, he⟩ := hfailed ⟨_, rfl⟩
      exact (load_of_locate_error he).imp (fun hload => ⟨hload, _, rfl⟩) Or.inr
  | refused hmade hwrite =>
    rcases load_of_makeDirectories hpath h₀ hmade with rfl | ⟨rfl, -⟩
    · exact Or.inl ⟨h₀, _, rfl⟩
    · exact (load_of_write_error hwrite).imp (fun hload => ⟨hload, _, rfl⟩) Or.inr
  | written hmade hrender hwrite =>
    obtain ⟨hbytes, hs'⟩ := ofBytes_of_render path.toText hs hrender
    rw [hbytes, Option.getD_some] at hwrite
    refine Or.inr ((load_of_write hwrite).imp (fun hload => ?_) id)
    rw [hload, hs']
    exact ⟨rfl, rfl⟩
  | cut hmade hrender hwrite =>
    obtain ⟨e, he⟩ := ofBytes_of_render_error path.toText hs hrender
    rcases load_of_write hwrite with hload | hload
    · exact Or.inr (Or.inr ⟨.resultSet e, by rw [hload, he]; rfl⟩)
    · exact Or.inr (Or.inr hload)

end

end ShellCoverage.ResultSet
