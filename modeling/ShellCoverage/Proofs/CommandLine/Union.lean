import ShellCoverage.Proofs.CommandLine.Files
import ShellCoverage.Proofs.FileSystem.Frame
import ShellCoverage.Proofs.Report.Counted

/-!
# Uniting files in any order and in groups

The sum of some resultset files depends on neither their order nor the groups in which they are united, and files that
are no resultsets are left out of it. What is written for a group is loaded as one command with the sum of the group,
and it leaves the other files as they were, unless one of them is the same file.

* `IsWritable`, `save_of_isWritable` : files that keep what is written to them;
* `IsInput`, `sumOf`, `toUnion_of_loads` : files that can be united, their sum, and what is done with it;
* `CanKeep`, `Kept`, `load_of_union` : what is loaded after a union;
* `Adds` : what a file adds to a sum;
* `Batches`, `Holds`, `Batches.holds` : unions of groups, one after the other;
* `union_sum` : any order, and any groups;
* `unions_astray` : places that keep no sum, or that of another group.
-/

namespace ShellCoverage

open Json

/-! ## Files -/

namespace FileSystem

/-- A path keeps what is written to it: its directory is there or can be made, and then a regular file that may be read
stands at the path after something was written. -/
def IsWritable (fs : FileSystem) (path : Path) : Prop :=
  ∃ fs₁ content fs', fs.makeDirectories path.parent = (fs₁, .ok ()) ∧
    fs₁.write path.toText content = .ok fs' ∧ fs'.holdsFile path.toText = true

end FileSystem

namespace ResultSet

variable {s : ResultSet} {fs fs' : FileSystem} {path other : Path}

theorem save_of_isWritable (h : fs.IsWritable path) (hs : s.toValue.Every Value.IsSafe) :
    ∃ fs', s.save fs path = (fs', .ok ()) ∧ load fs' path = .ok s ∧ fs'.exists? path.toText = .ok true := by
  obtain ⟨fs₁, _, _, hmade, hwrite, hfile⟩ := h
  obtain ⟨t, ht⟩ := exists_render hs
  obtain ⟨fs', hwritten, hholds⟩ := FileSystem.exists_write hwrite hfile (t.toBytes?.getD [])
  have hsave := save_of_render hmade ht hwritten
  obtain ⟨place, mode, content, hlocate, -⟩ := FileSystem.holdsFile_iff.1 hholds
  refine ⟨fs', hsave, load_of_save (hs.imp fun _ hv => hv.toIsRegular) hsave hholds, ?_⟩
  rw [FileSystem.exists?, FileSystem.test, hlocate]

/-- What is loaded from bytes does not depend on the name of the file. -/
theorem ofBytes_of_ofBytes {name name' : Text} {content : Bytes} (h : ofBytes name content = .ok s) :
    ofBytes name' content = .ok s := by
  rw [ofBytes] at h ⊢
  cases ht : Text.ofBytes? content with
  | error f =>
    rw [ht] at h
    cases h
  | ok t =>
    rw [ht] at h
    dsimp only at h ⊢
    cases hv : Json.read t.unifyLineEnds with
    | error e =>
      rw [hv] at h
      cases h
    | ok v =>
      rw [hv] at h
      exact ofValue_eq_ok_iff.2 (ofValue_eq_ok_iff.1 h)

theorem exists?_eq_true_iff {path : Text} :
    fs.exists? path = .ok true ↔ ∃ place x, fs.locate true path = .ok (place, x) := by
  rw [FileSystem.exists?, FileSystem.test]
  cases fs.locate true path with
  | ok r => exact iff_of_true rfl ⟨r.1, r.2, rfl⟩
  | error e =>
    refine iff_of_false (fun h => ?_) ?_
    · dsimp only at h
      split at h <;> cases h
    · rintro ⟨place, x, h⟩
      cases h

/-- What is loaded does not depend on the entries of directories. -/
theorem load_congr {q q' : List Name} {x x' : Node} (h : fs.locate true path.toText = .ok (q, x))
    (h' : fs'.locate true path.toText = .ok (q', x')) (hbare : x'.bare = x.bare) : load fs' path = load fs path := by
  have hread : fs'.read path.toText = fs.read path.toText := by
    rw [FileSystem.read, FileSystem.read, h, h']
    cases x <;> cases x' <;> cases hbare <;> rfl
  rw [load_of_locate h, load_of_locate h', hread]

/-- What is loaded from a file does not depend on where it stands. -/
theorem load_of_content {q q' : List Name} {mode : Nat} {content : Bytes}
    (h : fs.locate true path.toText = .ok (q, .file mode content))
    (h' : fs'.locate true other.toText = .ok (q', .file mode content))
    (hreadable : (Node.file mode []).isReadable = true) (hs : load fs path = .ok s) : load fs' other = .ok s := by
  rw [load_of_file h hreadable] at hs
  rw [load_of_file h' hreadable]
  cases hbytes : ofBytes path.toText content with
  | error e =>
    rw [hbytes] at hs
    cases hs
  | ok s' =>
    rw [hbytes] at hs
    cases hs
    rw [ofBytes_of_ofBytes hbytes]
    rfl

/-- What is saved does not change what is loaded from another file. -/
theorem load_of_save_other (hsave : s.save fs path = (fs', .ok ()))
    (hexists : fs.exists? other.toText = .ok true)
    (hapart : ¬ FileSystem.SameFile fs' path.toText other.toText) :
    load fs' other = load fs other ∧ fs'.exists? other.toText = .ok true := by
  obtain ⟨q, x, hx⟩ := exists?_eq_true_iff.1 hexists
  cases saves_save hsave with
  | written hmade hrender hwrite =>
    obtain ⟨y, hy, hbare⟩ := FileSystem.keeps_makeDirectories hmade _ q x hx
    obtain ⟨z, hz, hbare'⟩ := FileSystem.locate_of_write_other hwrite hy hapart
    exact ⟨load_congr hx hz (hbare'.trans hbare), exists?_eq_true_iff.2 ⟨q, z, hz⟩⟩

/-- The sum of a single command is its result. -/
theorem combined_single {r : Report.Result} (h : Report.combineResults [r] = .ok r) (name : Text) (timestamp : Int) :
    combined [(name, Entry.make (arrays r) timestamp)] = .ok r :=
  combined_eq_ok_iff.2 ⟨[r], Except.mapM_cons_eq_ok_iff.2 ⟨r, [], result_make r timestamp, rfl, rfl⟩, h⟩

end ResultSet

namespace CommandLine.Answer

open Report ResultSet

variable {c : Context} {fs fs' : FileSystem} {path output : Path} {files : List Path} {name : Text} {verbose : Bool}

/-! ## Files that are united -/

/-- Integers and nulls are loaded from the file, or nothing as it is absent; or it is refused as no resultset. -/
def IsInput (fs : FileSystem) (path : Path) : Prop :=
  (∃ s, ResultSet.load fs path = .ok s ∧ s.HoldsCounts) ∨ ∃ e, ResultSet.load fs path = .error (.resultSet e)

/-- The sum of the files that are used. -/
def sumOf (fs : FileSystem) (files : List Path) : Except DataError Result :=
  combineResults (files.filterMap (used? fs))

theorem IsInput.exists? (h : IsInput fs path) : ∃ there, fs.exists? path.toText = .ok there := by
  cases hexists : fs.exists? path.toText with
  | ok there => exact ⟨there, rfl⟩
  | error e =>
    have hload : ResultSet.load fs path = .error (.file e) := by rw [ResultSet.load, hexists]
    rcases h with ⟨s, hs, -⟩ | ⟨e', he⟩
    · cases hload.symm.trans hs
    · cases hload.symm.trans he

theorem used?_eq (fs : FileSystem) (path : Path) :
    used? fs path = (ResultSet.load fs path).toOption.bind fun s => s.combined.toOption := by
  rw [used?, combinedOf]
  cases ResultSet.load fs path with
  | error e => rfl
  | ok s =>
    show (s.combined.mapError Failure.data).toOption = s.combined.toOption
    cases s.combined <;> rfl

/-- What is used of a file from which integers and nulls are loaded. -/
theorem exists_used? {s : ResultSet} (hs : ResultSet.load fs path = .ok s) (hcounts : s.HoldsCounts) :
    ∃ r, used? fs path = some r ∧ IsCounted r := by
  obtain ⟨r, hr, hcounted⟩ := exists_combined_counted (every_isPlain_of_load hs) hcounts
  refine ⟨r, ?_, hcounted⟩
  rw [used?_eq, hs]
  exact congrArg Except.toOption hr

theorem IsInput.loadsSum (h : IsInput fs path) : LoadsSum fs path := by
  intro s hs
  rcases h with ⟨s', hs', hcounts⟩ | ⟨e, he⟩
  · cases hs.symm.trans hs'
    obtain ⟨r, hr, -⟩ := exists_combined_counted (every_isPlain_of_load hs) hcounts
    exact (exists_combined_iff (every_isPlain_of_load hs)).1 ⟨r, hr⟩
  · cases hs.symm.trans he

/-- A file is used if it can be loaded. -/
theorem IsInput.used?_cases (h : IsInput fs path) :
    (∃ s, ResultSet.load fs path = .ok s) ∧ (∃ r, used? fs path = some r ∧ IsCounted r) ∨
      (∀ s, ResultSet.load fs path ≠ .ok s) ∧ used? fs path = none := by
  rcases h with ⟨s, hs, hcounts⟩ | ⟨e, he⟩
  · exact Or.inl ⟨⟨s, hs⟩, exists_used? hs hcounts⟩
  · refine Or.inr ⟨fun s hs => ?_, ?_⟩
    · cases he.symm.trans hs
    · rw [used?_eq, he]
      rfl

section
variable (hfiles : ∀ path ∈ files, IsInput fs path)
include hfiles

theorem isCounted_used : ∀ r ∈ files.filterMap (used? fs), IsCounted r := by
  intro r hr
  obtain ⟨path, hpath, hused⟩ := List.mem_filterMap.1 hr
  rcases (hfiles path hpath).used?_cases with ⟨-, r', hr', hcounted⟩ | ⟨-, hnone⟩
  · cases hr'.symm.trans hused
    exact hcounted
  · cases hnone.symm.trans hused

theorem used_eq_nil_iff :
    files.filterMap (used? fs) = [] ↔ ∀ path ∈ files, ∀ s, ResultSet.load fs path ≠ .ok s := by
  rw [List.filterMap_eq_nil_iff]
  refine forall₂_congr fun path hpath => ?_
  rcases (hfiles path hpath).used?_cases with ⟨⟨s, hs⟩, r, hr, -⟩ | ⟨hno, hnone⟩
  · exact iff_of_false (by rw [hr]; exact nofun) fun hno => hno s hs
  · exact iff_of_true hnone hno

theorem isTally_used : ∀ r ∈ files.filterMap (used? fs), IsTally r :=
  fun r hr => isTally_of_isCounted (isCounted_used hfiles r hr)

theorem exists_sumOf : ∃ r, sumOf fs files = .ok r ∧ IsCounted r :=
  exists_combineResults_counted (isCounted_used hfiles)

end

/-- Files that can be united are. -/
theorem unites_of_isInput (hfiles : ∀ path ∈ files, IsInput c.fileSystem path) (verbose : Bool) (output : Path)
    (name : Text) : Unites c verbose files output name := by
  refine (unites_iff verbose output name fun path hpath => (hfiles path hpath).exists?).2
    ⟨fun path hpath => (hfiles path hpath).loadsSum, ?_⟩
  obtain ⟨r, hr, -⟩ := exists_sumOf hfiles
  exact (exists_combineResults_iff fun r hr => (isCounted_used hfiles r hr).nodup).1 ⟨r, hr⟩

theorem toUnion_of_no_load (hfiles : ∀ path ∈ files, IsInput c.fileSystem path)
    (hno : ∀ path ∈ files, ∀ s, ResultSet.load c.fileSystem path ≠ .ok s) (verbose : Bool) (output : Path)
    (name : Text) : (toUnion c verbose files output name).exit = .ok failureStatus ∧
      (toUnion c verbose files output name).fileSystem = c.fileSystem := by
  have hunites := unites_of_isInput hfiles verbose output name
  rw [Unites, if_pos ((used_eq_nil_iff hfiles).2 hno)] at hunites
  rw [hunites]
  exact ⟨rfl, rfl⟩

/-- The sum of the files is saved as the only command. -/
theorem toUnion_of_loads (hfiles : ∀ path ∈ files, IsInput c.fileSystem path)
    (hloads : ∃ path ∈ files, ∃ s, ResultSet.load c.fileSystem path = .ok s) {r : Result}
    (hr : sumOf c.fileSystem files = .ok r) (verbose : Bool) (output : Path) (name : Text) :
    ∃ saved, (ResultSet.store [] name (arrays r) c.clock).save c.fileSystem output =
        ((toUnion c verbose files output name).fileSystem, saved) ∧
      (toUnion c verbose files output name).exit = saved.map fun _ => 0 := by
  have hunites := unites_of_isInput hfiles verbose output name
  have hused : files.filterMap (used? c.fileSystem) ≠ [] := by
    obtain ⟨path, hpath, s, hs⟩ := hloads
    exact fun hnil => (used_eq_nil_iff hfiles).1 hnil path hpath s hs
  rw [Unites, if_neg hused] at hunites
  obtain ⟨-, r', saved, hr', hsave, hexit⟩ := hunites
  cases hr.symm.trans hr'
  exact ⟨saved, hsave, hexit⟩

/-! ## What is kept -/

/-- What is asked of a place where a sum is to be kept under a name. -/
structure CanKeep (fs : FileSystem) (clock : Int) (output : Path) (name : Text) : Prop where
  isWritable : fs.IsWritable output
  name_isUnpaired : name.IsUnpaired
  clock_lt : clock.natAbs < 10 ^ Numeral.digitLimit

/-- The sum of some files has no integer with more digits than can be written. -/
def SumFits (fs : FileSystem) (files : List Path) : Prop :=
  ∀ r, sumOf fs files = .ok r → ∀ p ∈ r, ∀ v ∈ p.2, v.Fits

/-- After a union, the sum is loaded from the output as the only command. -/
structure Kept (a : Answer) (output : Path) (name : Text) (clock : Int) (r : Result) : Prop where
  exit_eq : a.exit = .ok 0
  load_eq : ResultSet.load a.fileSystem output = .ok [(name, Entry.make (arrays r) clock)]

theorem every_isSafe_store {r : Result} {clock : Int} (hr : IsCounted r) (hfits : ∀ p ∈ r, ∀ v ∈ p.2, v.Fits)
    (hname : name.IsUnpaired) (hclock : clock.natAbs < 10 ^ Numeral.digitLimit) :
    (ResultSet.store [] name (arrays r) clock).toValue.Every Value.IsSafe := by
  refine every_store (fun _ => Value.IsRegular.isSafe) every_isSafe_nil every_isSafe_nil.here.isPlain hname hr
    (fun p hp v hv => ⟨?_, hfits p hp v hv⟩) ⟨⟨trivial, trivial⟩, hclock⟩
  rcases hr.items p hp v hv with rfl | ⟨n, rfl⟩ <;> exact ⟨trivial, trivial⟩

/-- The sum of files is kept where it can be. -/
theorem load_of_union (hfiles : ∀ path ∈ files, IsInput c.fileSystem path)
    (hloads : ∃ path ∈ files, ∃ s, ResultSet.load c.fileSystem path = .ok s) (hfits : SumFits c.fileSystem files)
    {r : Result} (hr : sumOf c.fileSystem files = .ok r) (hkept : CanKeep c.fileSystem c.clock output name)
    (verbose : Bool) :
    Kept (toUnion c verbose files output name) output name c.clock r ∧
      (toUnion c verbose files output name).fileSystem.exists? output.toText = .ok true ∧
      (ResultSet.store [] name (arrays r) c.clock).save c.fileSystem output =
        ((toUnion c verbose files output name).fileSystem, .ok ()) := by
  obtain ⟨saved, hsave, hexit⟩ := toUnion_of_loads hfiles hloads hr verbose output name
  obtain ⟨r', hr', hcounted⟩ := exists_sumOf hfiles
  cases hr.symm.trans hr'
  have hsafe := every_isSafe_store hcounted (hfits r hr) hkept.name_isUnpaired hkept.clock_lt
  obtain ⟨fs', hsave', hload, hexists⟩ := save_of_isWritable hkept.isWritable hsafe
  cases hsave'.symm.trans hsave
  exact ⟨⟨hexit, hload⟩, hexists, hsave⟩

/-! ## Files that add a result -/

/-- The file is loaded, and adds the result to a sum. -/
structure Adds (fs : FileSystem) (path : Path) (r : Result) : Prop where
  isInput : IsInput fs path
  loads : ∃ s, ResultSet.load fs path = .ok s
  used : used? fs path = some r

theorem used_of_adds {rs : List Result} (h : List.Forall₂ (Adds fs) files rs) :
    (∀ path ∈ files, IsInput fs path) ∧ (∀ path ∈ files, ∃ s, ResultSet.load fs path = .ok s) ∧
      files.filterMap (used? fs) = rs := by
  induction h with
  | nil => exact ⟨nofun, nofun, rfl⟩
  | cons hpath hpaths ih =>
    obtain ⟨hinput, hloads, hused⟩ := ih
    refine ⟨List.forall_mem_cons.2 ⟨hpath.isInput, hinput⟩, List.forall_mem_cons.2 ⟨hpath.loads, hloads⟩, ?_⟩
    rw [List.filterMap_cons_some hpath.used, hused]

/-- A file that is absent adds nothing. -/
theorem adds_of_absent (h : fs.exists? path.toText = .ok false) : Adds fs path [] := by
  have hload : ResultSet.load fs path = .ok [] := by rw [ResultSet.load, h]
  refine ⟨Or.inl ⟨[], hload, List.forall_mem_nil _⟩, ⟨[], hload⟩, ?_⟩
  rw [used?_eq, hload]
  cbv

/-- A sum that was kept can be united again, and is its own sum. -/
theorem adds_of_load {r : Result} {clock : Int} (hr : IsCounted r) (hsum : combineResults [r] = .ok r)
    (hload : ResultSet.load fs path = .ok [(name, Entry.make (arrays r) clock)]) : Adds fs path r := by
  refine ⟨Or.inl ⟨_, hload, List.forall_mem_singleton.2 fun f hf => ?_⟩, ⟨_, hload⟩, ?_⟩
  · obtain ⟨p, hp, rfl⟩ := List.mem_map.1 hf
    obtain ⟨q, hq, rfl⟩ := List.mem_map.1 hp
    exact ⟨q.2, rfl, hr.items q hq⟩
  · rw [used?_eq, hload]
    exact congrArg Except.toOption (combined_single hsum name clock)

/-- A file that has the sum of some files adds this sum. -/
theorem adds_of_sumOf {r : Result} {clock : Int} (hfiles : ∀ path ∈ files, IsInput fs path)
    (hr : sumOf fs files = .ok r) (hload : ResultSet.load fs' output = .ok [(name, Entry.make (arrays r) clock)]) :
    Adds fs' output r := by
  obtain ⟨r', hr', hcounted⟩ := exists_sumOf hfiles
  cases hr.symm.trans hr'
  exact adds_of_load hcounted (combineResults_sum (isTally_used hfiles) hr) hload

/-- Any sum that can be written is added by files with some content. -/
theorem exists_content_adds {r : Result} (hr : IsCounted r) (hsum : combineResults [r] = .ok r)
    (hfits : ∀ p ∈ r, ∀ v ∈ p.2, v.Fits) :
    ∃ content, ∀ {fs : FileSystem} {path : Path} {place : List Name} {mode : Nat},
      fs.locate true path.toText = .ok (place, .file mode content) → (Node.file mode []).isReadable = true →
        Adds fs path r := by
  have hclock : (0 : Int).natAbs < 10 ^ Numeral.digitLimit := (Value.isSafe_int (by decide)).fits
  obtain ⟨content, hcontent⟩ := exists_content_load (every_isSafe_store hr hfits Text.isUnpaired_nil hclock)
  exact ⟨content, fun h hreadable => adds_of_load hr hsum (hcontent h hreadable)⟩

/-- A directory is no resultset. -/
theorem isInput_of_directory {place : List Name} {mode : Nat} {entries : List (Name × Node)}
    (h : fs.locate true path.toText = .ok (place, .directory mode entries)) :
    IsInput fs path ∧ used? fs path = none := by
  obtain ⟨e, he⟩ := load_of_not_file h (fun hfile => Bool.false_ne_true hfile.1)
  obtain ⟨e', rfl⟩ := resultSet_of_load_error (exists?_eq_true_iff.2 ⟨_, _, h⟩) he
  refine ⟨Or.inr ⟨e', he⟩, ?_⟩
  rw [used?_eq, he]
  rfl

/-! ## Groups -/

/-- A union of some of the files. -/
structure Batch where
  files : List Path
  output : Path
  name : Text
  /-- The time of the union. -/
  clock : Int

/-- What is done for a group. -/
def Batch.answer (c : Context) (verbose : Bool) (fs : FileSystem) (b : Batch) : Answer :=
  toUnion { c with fileSystem := fs, clock := b.clock } verbose b.files b.output b.name

/-- What a union leaves, where a file is written whatever its content is. -/
theorem Batch.exists_answer (c : Context) (verbose : Bool) (b : Batch) (tree : Bytes → FileSystem) {r : Result}
    {fs₁ : FileSystem} (hfiles : ∀ path ∈ b.files, IsInput fs path)
    (hloads : ∃ path ∈ b.files, ∃ s, ResultSet.load fs path = .ok s) (hr : sumOf fs b.files = .ok r)
    (hfits : ∀ p ∈ r, ∀ v ∈ p.2, v.Fits) (hname : b.name.IsUnpaired)
    (hclock : b.clock.natAbs < 10 ^ Numeral.digitLimit)
    (hmade : fs.makeDirectories b.output.parent = (fs₁, .ok ()))
    (hwrite : ∀ content, fs₁.write b.output.toText content = .ok (tree content))
    (hholds : ∀ content, (tree content).holdsFile b.output.toText = true) :
    CanKeep fs b.clock b.output b.name ∧ Kept (b.answer c verbose fs) b.output b.name b.clock r ∧
      ∃ content, (b.answer c verbose fs).fileSystem = tree content ∧ Adds (tree content) b.output r := by
  have hkept : CanKeep fs b.clock b.output b.name :=
    ⟨⟨fs₁, [], _, hmade, hwrite [], hholds []⟩, hname, hclock⟩
  have hsum : SumFits fs b.files := fun r' hr' => Except.ok.inj (hr.symm.trans hr') ▸ hfits
  obtain ⟨hunited, -, hsave⟩ :=
    load_of_union (c := { c with fileSystem := fs, clock := b.clock }) hfiles hloads hsum hr hkept verbose
  obtain ⟨content, hcontent⟩ : ∃ content, (b.answer c verbose fs).fileSystem = tree content := by
    cases saves_save hsave with
    | written hmade' hrender hwritten =>
      cases hmade.symm.trans hmade'
      exact ⟨_, Except.ok.inj (hwritten.symm.trans (hwrite _))⟩
  exact ⟨hkept, hunited, content, hcontent, hcontent ▸ adds_of_sumOf hfiles hr hunited.load_eq⟩

/-- What a union of files leaves that add some results. -/
theorem Batch.exists_answer_of_adds (c : Context) (verbose : Bool) (b : Batch) (tree : Bytes → FileSystem)
    {rs : List Result} {r : Result} {fs₁ : FileSystem} (hadds : List.Forall₂ (Adds fs) b.files rs) (hne : b.files ≠ [])
    (hr : combineResults rs = .ok r) (hfits : ∀ p ∈ r, ∀ v ∈ p.2, v.Fits) (hname : b.name.IsUnpaired)
    (hclock : b.clock.natAbs < 10 ^ Numeral.digitLimit) (hmade : fs.makeDirectories b.output.parent = (fs₁, .ok ()))
    (hwrite : ∀ content, fs₁.write b.output.toText content = .ok (tree content))
    (hholds : ∀ content, (tree content).holdsFile b.output.toText = true) :
    Kept (b.answer c verbose fs) b.output b.name b.clock r ∧
      ∃ content, (b.answer c verbose fs).fileSystem = tree content ∧ Adds (tree content) b.output r := by
  obtain ⟨hfiles, hloads, hused⟩ := used_of_adds hadds
  obtain ⟨path, hpath⟩ := List.exists_mem_of_ne_nil b.files hne
  have hsum : sumOf fs b.files = .ok r := by rw [sumOf, hused, hr]
  exact (b.exists_answer c verbose tree hfiles ⟨path, hpath, hloads path hpath⟩ hsum hfits hname hclock hmade hwrite
    hholds).2

/-- Unions of groups of some files, one after the other, with the file system after the last of them. -/
inductive Batches (c : Context) (verbose : Bool) (inputs : List Path) : List Batch → FileSystem → Prop
  | start : Batches c verbose inputs [] c.fileSystem
  /-- One more union: some file of the group can be loaded, files of the group that were absent at first still are, the
  output can keep the sum, and it is none of the files and of the other outputs. -/
  | next {bs : List Batch} {fs : FileSystem} (h : Batches c verbose inputs bs fs) (b : Batch)
      (hfiles : b.files ⊆ inputs) (hloads : ∃ path ∈ b.files, ∃ s, ResultSet.load c.fileSystem path = .ok s)
      (habsent : ∀ path ∈ b.files, c.fileSystem.exists? path.toText = .ok false →
        fs.exists? path.toText = .ok false)
      (hfits : SumFits c.fileSystem b.files) (hkept : CanKeep fs b.clock b.output b.name)
      (hinputs : ∀ path ∈ inputs,
        ¬ FileSystem.SameFile (b.answer c verbose fs).fileSystem b.output.toText path.toText)
      (houtputs : ∀ b' ∈ bs,
        ¬ FileSystem.SameFile (b.answer c verbose fs).fileSystem b.output.toText b'.output.toText) :
      Batches c verbose inputs (bs ++ [b]) (b.answer c verbose fs).fileSystem

/-- What stands in the files and in the outputs after some unions of groups. -/
structure Holds (c : Context) (inputs : List Path) (bs : List Batch) (fs : FileSystem) : Prop where
  unchanged : ∀ path ∈ inputs, c.fileSystem.exists? path.toText = .ok true →
    fs.exists? path.toText = .ok true ∧ ResultSet.load fs path = ResultSet.load c.fileSystem path
  subset : ∀ b ∈ bs, b.files ⊆ inputs
  kept : ∀ b ∈ bs, fs.exists? b.output.toText = .ok true ∧ ∃ r, sumOf c.fileSystem b.files = .ok r ∧
    ResultSet.load fs b.output = .ok [(b.name, Entry.make (arrays r) b.clock)]

section
variable {inputs : List Path} {bs : List Batch}

theorem sumOf_congr (h : ∀ path ∈ files, ResultSet.load fs' path = ResultSet.load fs path) :
    sumOf fs' files = sumOf fs files := by
  refine congrArg combineResults (List.filterMap_congr fun path hpath => ?_)
  rw [used?_eq, used?_eq, h path hpath]

theorem isInput_congr (h : ResultSet.load fs' path = ResultSet.load fs path) : IsInput fs' path ↔ IsInput fs path := by
  rw [IsInput, IsInput, h]

/-- A group whose absent files are still absent is loaded as at first. -/
theorem Holds.load_eq (hfiles : ∀ path ∈ inputs, IsInput c.fileSystem path) (h : Holds c inputs bs fs)
    (hmem : files ⊆ inputs)
    (habsent : ∀ path ∈ files, c.fileSystem.exists? path.toText = .ok false → fs.exists? path.toText = .ok false) :
    ∀ path ∈ files, ResultSet.load fs path = ResultSet.load c.fileSystem path := by
  intro path hpath
  obtain ⟨there, hthere⟩ := (hfiles path (hmem hpath)).exists?
  cases there with
  | true => exact (h.unchanged path (hmem hpath) hthere).2
  | false => rw [ResultSet.load, ResultSet.load, habsent path hpath hthere, hthere]

theorem Batches.holds (hfiles : ∀ path ∈ inputs, IsInput c.fileSystem path) (h : Batches c verbose inputs bs fs) :
    Holds c inputs bs fs := by
  induction h with
  | start => exact ⟨fun _ _ h => ⟨h, rfl⟩, nofun, nofun⟩
  | @next bs fs h b hmem hloads habsent hfits hkept hinputs houtputs ih =>
    have hsame := ih.load_eq hfiles hmem habsent
    have hinput : ∀ path ∈ b.files, IsInput c.fileSystem path := fun path hpath => hfiles path (hmem hpath)
    obtain ⟨r, hr, -⟩ := exists_sumOf hinput
    have hsum := sumOf_congr hsame
    have hloads' : ∃ path ∈ b.files, ∃ s, ResultSet.load fs path = .ok s := by
      obtain ⟨path, hpath, s, hs⟩ := hloads
      exact ⟨path, hpath, s, (hsame path hpath).trans hs⟩
    obtain ⟨hunited, hexists, hsave⟩ := load_of_union (c := { c with fileSystem := fs, clock := b.clock })
      (fun path hpath => (isInput_congr (hsame path hpath)).2 (hinput path hpath)) hloads'
      (fun r hr => hfits r (hsum ▸ hr)) (hsum.trans hr) hkept verbose
    refine ⟨fun path hpath hthere => ?_, fun b' hb' => ?_, fun b' hb' => ?_⟩
    · obtain ⟨hthere', hload⟩ := ih.unchanged path hpath hthere
      obtain ⟨hload', hthere''⟩ := load_of_save_other hsave hthere' (hinputs path hpath)
      exact ⟨hthere'', hload'.trans hload⟩
    · rcases List.mem_append.1 hb' with hb' | hb'
      · exact ih.subset b' hb'
      · cases List.mem_singleton.1 hb'
        exact hmem
    · rcases List.mem_append.1 hb' with hb' | hb'
      · obtain ⟨hthere, r', hr', hload⟩ := ih.kept b' hb'
        obtain ⟨hkeptload, hthere'⟩ := load_of_save_other hsave hthere (houtputs b' hb')
        exact ⟨hthere', r', hr', hkeptload.trans hload⟩
      · cases List.mem_singleton.1 hb'
        exact ⟨hexists, r, hr, hunited.load_eq⟩

/-- One more union, where the output is written whatever its content is. -/
theorem Batches.exists_next (hfiles : ∀ path ∈ inputs, IsInput c.fileSystem path)
    (h : Batches c verbose inputs bs fs) (b : Batch) (tree : Bytes → FileSystem) {r : Result} {fs₁ : FileSystem}
    (hmem : b.files ⊆ inputs) (hloads : ∃ path ∈ b.files, ∃ s, ResultSet.load c.fileSystem path = .ok s)
    (habsent : ∀ path ∈ b.files, c.fileSystem.exists? path.toText = .ok false → fs.exists? path.toText = .ok false)
    (hr : sumOf c.fileSystem b.files = .ok r) (hfits : ∀ p ∈ r, ∀ v ∈ p.2, v.Fits) (hname : b.name.IsUnpaired)
    (hclock : b.clock.natAbs < 10 ^ Numeral.digitLimit) (hmade : fs.makeDirectories b.output.parent = (fs₁, .ok ()))
    (hwrite : ∀ content, fs₁.write b.output.toText content = .ok (tree content))
    (hholds : ∀ content, (tree content).holdsFile b.output.toText = true)
    (hapart : ∀ content, ∀ path ∈ inputs ++ bs.map (·.output),
      ¬ FileSystem.SameFile (tree content) b.output.toText path.toText) :
    ∃ content, Batches c verbose inputs (bs ++ [b]) (tree content) := by
  have hsame := (h.holds hfiles).load_eq hfiles hmem habsent
  have hloads' : ∃ path ∈ b.files, ∃ s, ResultSet.load fs path = .ok s := by
    obtain ⟨path, hpath, s, hs⟩ := hloads
    exact ⟨path, hpath, s, (hsame path hpath).trans hs⟩
  obtain ⟨hkept, -, content, hcontent, -⟩ := b.exists_answer c verbose tree
    (fun path hpath => (isInput_congr (hsame path hpath)).2 (hfiles path (hmem hpath))) hloads'
    ((sumOf_congr hsame).trans hr) hfits hname hclock hmade hwrite hholds
  have hapart := hapart content
  rw [← hcontent] at hapart
  refine ⟨content, hcontent ▸ ?_⟩
  exact h.next b hmem hloads habsent (fun r' hr' => Except.ok.inj (hr.symm.trans hr') ▸ hfits) hkept
    (fun path hpath => hapart path (List.mem_append_left _ hpath))
    fun b' hb' => hapart _ (List.mem_append_right _ (List.mem_map_of_mem hb'))

/-- The sum of the outputs is that of all files in the groups. -/
theorem Holds.sumOf_outputs (hfiles : ∀ path ∈ inputs, IsInput c.fileSystem path) (h : Holds c inputs bs fs) :
    (∀ path ∈ bs.map (·.output), IsInput fs path ∧ ∃ s, ResultSet.load fs path = .ok s) ∧
      sumOf fs (bs.map (·.output)) = sumOf c.fileSystem (bs.flatMap (·.files)) := by
  have hinput (b : Batch) (hb : b ∈ bs) : ∀ path ∈ b.files, IsInput c.fileSystem path :=
    fun path hpath => hfiles path (h.subset b hb hpath)
  constructor
  · intro path hpath
    obtain ⟨b, hb, rfl⟩ := List.mem_map.1 hpath
    obtain ⟨-, r, hr, hload⟩ := h.kept b hb
    exact ⟨(adds_of_sumOf (hinput b hb) hr hload).isInput, _, hload⟩
  · have hsums : List.Forall₂ (fun rs sum => combineResults rs = .ok sum)
        (bs.map fun b => b.files.filterMap (used? c.fileSystem)) ((bs.map (·.output)).filterMap (used? fs)) := by
      have houtputs := h.kept
      clear h hfiles
      induction bs with
      | nil => exact .nil
      | cons b bs ih =>
        obtain ⟨hinput, hinputs⟩ := List.forall_mem_cons.1 hinput
        obtain ⟨⟨-, r, hr, hload⟩, houtputs⟩ := List.forall_mem_cons.1 houtputs
        rw [List.map_cons, List.map_cons, List.filterMap_cons, (adds_of_sumOf hinput hr hload).used]
        exact .cons hr (ih hinputs houtputs)
    have htally : ∀ rs ∈ bs.map (fun b => b.files.filterMap (used? c.fileSystem)), ∀ r ∈ rs, IsTally r := by
      intro rs hrs
      obtain ⟨b, hb, rfl⟩ := List.mem_map.1 hrs
      exact isTally_used (hinput b hb)
    rw [sumOf, combineResults_flatten htally hsums, sumOf, List.filterMap_flatMap, List.flatMap_def]

end

/-- **Uniting does not depend on order or groups.** For files from which integers and nulls are loaded, or nothing as
they are absent, or which are refused as no resultset: if none is loaded, the command fails and changes nothing.
Otherwise the files that are loaded have a sum, which is loaded from any output that can keep it as the only command.
Another order of the files makes no difference, and neither does it make one to unite groups of them first, each with a
file that is loaded, to outputs that are none of the files and apart from each other, and then the outputs. -/
theorem union_sum (c : Context) (verbose : Bool) {files : List Path}
    (hfiles : ∀ path ∈ files, IsInput c.fileSystem path) :
    ((∀ path ∈ files, ∀ s, ResultSet.load c.fileSystem path ≠ .ok s) → ∀ output name,
      (toUnion c verbose files output name).exit = .ok 1 ∧
        (toUnion c verbose files output name).fileSystem = c.fileSystem) ∧
    ((∃ path ∈ files, ∃ s, ResultSet.load c.fileSystem path = .ok s) → SumFits c.fileSystem files →
      ∃ r, sumOf c.fileSystem files = .ok r ∧
        (∀ output name, CanKeep c.fileSystem c.clock output name →
          Kept (toUnion c verbose files output name) output name c.clock r) ∧
        (∀ files' output name, files'.Perm files →
          (toUnion c verbose files' output name).exit = (toUnion c verbose files output name).exit ∧
            (toUnion c verbose files' output name).fileSystem = (toUnion c verbose files output name).fileSystem) ∧
        ∀ bs fs, Batches c verbose files bs fs → (bs.flatMap (·.files)).Perm files →
          ∀ clock output name, CanKeep fs clock output name →
            Kept (toUnion { c with fileSystem := fs, clock } verbose (bs.map (·.output)) output name) output name
              clock r) := by
  refine ⟨fun hno output name => toUnion_of_no_load hfiles hno verbose output name, fun hloads hfits => ?_⟩
  obtain ⟨r, hr, -⟩ := exists_sumOf hfiles
  have hperm {files' : List Path} (h : files'.Perm files) : sumOf c.fileSystem files' = .ok r :=
    (combineResults_perm (isCounted_used hfiles) (h.symm.filterMap _)).symm.trans hr
  refine ⟨r, hr, fun output name hkept => (load_of_union hfiles hloads hfits hr hkept verbose).1,
    fun files' output name h => ?_, fun bs fs hbatches hgroups clock output name hkept => ?_⟩
  · obtain ⟨path, hpath, s, hs⟩ := hloads
    obtain ⟨saved, hsave, hexit⟩ := toUnion_of_loads hfiles ⟨path, hpath, s, hs⟩ hr verbose output name
    obtain ⟨saved', hsave', hexit'⟩ := toUnion_of_loads (fun path hpath => hfiles path (h.subset hpath))
      ⟨path, h.symm.subset hpath, s, hs⟩ (hperm h) verbose output name
    obtain ⟨hfs, rfl⟩ := Prod.mk.inj (hsave'.symm.trans hsave)
    exact ⟨hexit'.trans hexit.symm, hfs⟩
  · obtain ⟨houtputs, hsum⟩ := (hbatches.holds hfiles).sumOf_outputs hfiles
    have hsum' := hsum.trans (hperm hgroups)
    have hloaded : ∃ path ∈ bs.map (·.output), ∃ s, ResultSet.load fs path = .ok s := by
      obtain ⟨path, hpath, -⟩ := hloads
      obtain ⟨b, hb, -⟩ := List.mem_flatMap.1 (hgroups.symm.subset hpath)
      exact ⟨b.output, List.mem_map_of_mem hb, (houtputs _ (List.mem_map_of_mem hb)).2⟩
    exact (load_of_union (c := { c with fileSystem := fs, clock }) (fun path hpath => (houtputs path hpath).1)
      hloaded (fun r' hr' => hfits r' (hr.trans (hsum'.symm.trans hr'))) hsum' hkept verbose).1

/-- A directory, which is no resultset, and a file that is absent are united with counts, in two groups, the first of
which makes a directory for its output. -/
theorem union_sum_twoGroups :
    let tree (x : Bytes) : FileSystem := ⟨.directory 0o755 [("d", .directory 0o755 []), ("r", .file 0o644 x)], []⟩
    let c (x : Bytes) : Context := ⟨tree x, [], 0, "zz"⟩
    let d := Path.ofText "d"
    let n := Path.ofText "n"
    let file := Path.ofText "r"
    let r : Result := [("/f", [.int 1, .null])]
    let bs : List Batch := [⟨[file, d], Path.ofText "g/1", "a", 5⟩, ⟨[n], Path.ofText "2", "b", 6⟩]
    ∃ x fs, (∀ path ∈ [d, n, file], IsInput (tree x) path) ∧ sumOf (tree x) [d, n, file] = .ok r ∧
      Batches (c x) false [d, n, file] bs fs ∧
      Kept (toUnion { c x with fileSystem := fs, clock := 7 } false (bs.map (·.output)) (Path.ofText "o") "u")
        (Path.ofText "o") "u" 7 r := by
  intro tree c d n file r bs
  -- the file systems after the unions, whatever was written
  let tree₁ (x y : Bytes) : FileSystem := ⟨.directory 0o755
    [("d", .directory 0o755 []), ("r", .file 0o644 x), ("g", .directory 0o755 [("1", .file 0o644 y)])], []⟩
  let tree₂ (x y z : Bytes) : FileSystem := ⟨.directory 0o755 [("d", .directory 0o755 []), ("r", .file 0o644 x),
    ("g", .directory 0o755 [("1", .file 0o644 y)]), ("2", .file 0o644 z)], []⟩
  let tree₃ (x y z : Bytes) : FileSystem := ⟨.directory 0o755 [("d", .directory 0o755 []), ("r", .file 0o644 x),
    ("g", .directory 0o755 [("1", .file 0o644 y)]), ("2", .file 0o644 z), ("o", .file 0o644 [])], []⟩
  have hr : IsCounted r := by
    refine ⟨by decide, by decide, List.forall_mem_singleton.2 ?_⟩
    exact List.forall_mem_cons.2 ⟨Or.inr ⟨1, rfl⟩, List.forall_mem_singleton.2 (Or.inl rfl)⟩
  have hsmall {n : Int} (h : n.natAbs < 10 ^ 10) : n.natAbs < 10 ^ Numeral.digitLimit := (Value.isSafe_int h).fits
  have hfits : ∀ p ∈ r, ∀ v ∈ p.2, v.Fits :=
    List.forall_mem_singleton.2 (List.forall_mem_cons.2 ⟨hsmall (by decide), List.forall_mem_singleton.2 trivial⟩)
  -- what is loaded at first
  have hlocate (x : Bytes) : (tree x).locate true file.toText = .ok (["r"], .file 0o644 x) := by cbv
  have hdirectory (x : Bytes) : (tree x).locate true d.toText = .ok (["d"], .directory 0o755 []) := by cbv
  have habsent (x : Bytes) : (tree x).exists? n.toText = .ok false := by cbv
  obtain ⟨x, hcontent⟩ := exists_content_adds hr (by cbv) hfits
  have hfile := hcontent (hlocate x) (by decide)
  have hnone := adds_of_absent (habsent x)
  obtain ⟨hrefused, hunused⟩ := isInput_of_directory (hdirectory x)
  have hfiles : ∀ path ∈ [d, n, file], IsInput (tree x) path :=
    List.forall_mem_cons.2 ⟨hrefused, List.forall_mem_cons.2 ⟨hnone.isInput, List.forall_mem_singleton.2 hfile.isInput⟩⟩
  have hsum : sumOf (tree x) [d, n, file] = .ok r := by
    rw [sumOf, List.filterMap_cons_none hunused, List.filterMap_cons_some hnone.used,
      List.filterMap_cons_some hfile.used]
    cbv
  -- the groups
  have hsum₁ : sumOf (tree x) [file, d] = .ok r := by
    rw [sumOf, List.filterMap_cons_some hfile.used, List.filterMap_cons_none hunused]
    cbv
  have hsum₂ : sumOf (tree x) [n] = .ok [] := by
    rw [sumOf, List.filterMap_cons_some hnone.used]
    cbv
  have hmade₁ : (tree x).makeDirectories (Path.ofText "g/1").parent =
      (⟨.directory 0o755 [("d", .directory 0o755 []), ("r", .file 0o644 x), ("g", .directory 0o755 [])], []⟩,
        .ok ()) := by cbv
  have hlocate₁ (y : Bytes) : (tree₁ x y).locate true (Path.ofText "g/1").toText = .ok (["g", "1"], .file 0o644 y) := by
    simp only [tree₁]
    cbv
  have habsent₁ (y : Bytes) : (tree₁ x y).exists? n.toText = .ok false := by
    simp only [tree₁]
    cbv
  have hlocate₂ (y z : Bytes) : (tree₂ x y z).locate true (Path.ofText "2").toText = .ok (["2"], .file 0o644 z) := by
    simp only [tree₂]
    cbv
  have hmade₂ (y : Bytes) : (tree₁ x y).makeDirectories (Path.ofText "2").parent = (tree₁ x y, .ok ()) := by
    simp only [tree₁]
    cbv
  have hapart₁ (y : Bytes) : ∀ path ∈ [d, n, file],
      ¬ FileSystem.SameFile (tree₁ x y) (Path.ofText "g/1").toText path.toText := by
    refine List.forall_mem_cons.2 ⟨?_, List.forall_mem_cons.2 ⟨?_, List.forall_mem_singleton.2 ?_⟩⟩
    all_goals
      refine FileSystem.not_sameFile (hlocate₁ y) ?_
      simp only [tree₁]
      cbv
      intro h
      cases h
  have hapart₂ (y z : Bytes) : ∀ path ∈ [d, n, file, Path.ofText "g/1"],
      ¬ FileSystem.SameFile (tree₂ x y z) (Path.ofText "2").toText path.toText := by
    refine List.forall_mem_cons.2 ⟨?_, List.forall_mem_cons.2 ⟨?_, List.forall_mem_cons.2 ⟨?_,
      List.forall_mem_singleton.2 ?_⟩⟩⟩
    all_goals
      refine FileSystem.not_sameFile (hlocate₂ y z) ?_
      simp only [tree₂]
      cbv
      intro h
      cases h
  have hstart : Batches (c x) false [d, n, file] [] (tree x) := .start
  obtain ⟨y, hbatches₁⟩ := hstart.exists_next hfiles ⟨[file, d], Path.ofText "g/1", "a", 5⟩ (tree₁ x) (by decide)
    ⟨file, List.mem_cons_self, hfile.loads⟩ (fun _ _ h => h) hsum₁ hfits (by decide) (hsmall (by decide)) hmade₁
    (fun _ => by simp only [tree₁]; cbv) (fun _ => by simp only [tree₁]; cbv) hapart₁
  obtain ⟨z, hbatches₂⟩ := hbatches₁.exists_next hfiles ⟨[n], Path.ofText "2", "b", 6⟩ (tree₂ x y) (by decide)
    ⟨n, List.mem_singleton_self _, hnone.loads⟩ (List.forall_mem_singleton.2 fun _ => habsent₁ y) hsum₂
    (List.forall_mem_nil _) (by decide) (hsmall (by decide)) (hmade₂ y) (fun _ => by simp only [tree₁, tree₂]; cbv)
    (fun _ => by simp only [tree₂]; cbv) (hapart₂ y)
  have hkept : CanKeep (tree₂ x y z) 7 (Path.ofText "o") "u" := by
    refine ⟨⟨tree₂ x y z, [], tree₃ x y z, ?_, ?_, ?_⟩, by decide, hsmall (by decide)⟩
    · simp only [tree₂]
      cbv
    · simp only [tree₂, tree₃]
      cbv
    · simp only [tree₃]
      cbv
  obtain ⟨r', hr', -, -, hgroups⟩ := (union_sum (c x) false hfiles).2 ⟨file, by decide, hfile.loads⟩
    (fun r' hr' => Except.ok.inj (hsum.symm.trans hr') ▸ hfits)
  cases hsum.symm.trans hr'
  exact ⟨x, _, hfiles, hsum, hbatches₂, hgroups _ _ hbatches₂ (by decide) 7 _ _ hkept⟩

/-- What is asked of the places is needed. A device keeps nothing of what is written. Two paths to one file keep one sum
for two groups. A directory that is made for an output makes a file be there that was absent at first. -/
theorem unions_astray :
    let tree (x : Bytes) : FileSystem := ⟨.directory 0o755 [("null", .device), ("r", .file 0o644 x)], []⟩
    let union (x : Bytes) (fs : FileSystem) (files : List Path) (output : Path) :=
      Batch.answer ⟨tree x, [], 0, "zz"⟩ false fs ⟨files, output, "u", 0⟩
    let n := Path.ofText "n"
    let file := Path.ofText "r"
    let through := Path.ofText "m/../r"
    let device := Path.ofText "null"
    let o := Path.ofText "o"
    let o' := Path.ofText "../o"
    let inside := Path.ofText "m/o"
    let last := Path.ofText "t"
    let r : Result := [("/f", [.int 1, .null])]
    ∃ x, (∀ path ∈ [n, file, through], IsInput (tree x) path) ∧
      ((union x (tree x) [n] device).exit = .ok 0 ∧
        ∃ e, ResultSet.load (union x (tree x) [n] device).fileSystem device = .error e) ∧
      (let a₁ := union x (tree x) [file] o
        let a₂ := union x a₁.fileSystem [n] o'
        Kept a₁ o "u" 0 r ∧ Kept a₂ o' "u" 0 [] ∧ Kept (union x a₂.fileSystem [o, o'] last) last "u" 0 [] ∧
          Kept (union x (tree x) [file, n] last) last "u" 0 r) ∧
      (let a₁ := union x (tree x) [n] inside
        let a₂ := union x a₁.fileSystem [through] o
        Kept a₁ inside "u" 0 [] ∧ Kept a₂ o "u" 0 r ∧ Kept (union x a₂.fileSystem [inside, o] last) last "u" 0 r ∧
          Kept (union x (tree x) [n, through] last) last "u" 0 []) := by
  intro tree union n file through device o o' inside last r
  have hr : IsCounted r := by
    refine ⟨by decide, by decide, List.forall_mem_singleton.2 ?_⟩
    exact List.forall_mem_cons.2 ⟨Or.inr ⟨1, rfl⟩, List.forall_mem_singleton.2 (Or.inl rfl)⟩
  have hsmall {n : Int} (h : n.natAbs < 10 ^ 10) : n.natAbs < 10 ^ Numeral.digitLimit := (Value.isSafe_int h).fits
  have hfits : ∀ p ∈ r, ∀ v ∈ p.2, v.Fits :=
    List.forall_mem_singleton.2 (List.forall_mem_cons.2 ⟨hsmall (by decide), List.forall_mem_singleton.2 trivial⟩)
  have hlocate (x : Bytes) : (tree x).locate true file.toText = .ok (["r"], .file 0o644 x) := by cbv
  have habsent (x : Bytes) : (tree x).exists? n.toText = .ok false := by cbv
  have hthrough (x : Bytes) : (tree x).exists? through.toText = .ok false := by cbv
  obtain ⟨x, hcontent⟩ := exists_content_adds hr (by cbv) hfits
  have hfile := hcontent (hlocate x) (by decide)
  have hnone := adds_of_absent (habsent x)
  have hnone' := adds_of_absent (hthrough x)
  have hone : combineResults [r] = .ok r := by cbv
  have hzero : combineResults [[]] = .ok [] := by cbv
  have hboth : combineResults [[], []] = .ok [] := by cbv
  have hempty : IsCounted [] := ⟨by decide, List.forall_mem_nil _, List.forall_mem_nil _⟩
  have hmade : (tree x).makeDirectories o.parent = (tree x, .ok ()) := by
    simp only [tree]
    cbv
  have step {fs fs₁ : FileSystem} {files : List Path} {rs : List Result} {r : Result} (output : Path)
      (after : Bytes → FileSystem) (hadds : List.Forall₂ (Adds fs) files rs) (hne : files ≠ [])
      (hr : combineResults rs = .ok r) (hfits : ∀ p ∈ r, ∀ v ∈ p.2, v.Fits)
      (hmade : fs.makeDirectories output.parent = (fs₁, .ok ()))
      (hwrite : ∀ content, fs₁.write output.toText content = .ok (after content))
      (hholds : ∀ content, (after content).holdsFile output.toText = true) :=
    Batch.exists_answer_of_adds ⟨tree x, [], 0, "zz"⟩ false ⟨files, output, "u", 0⟩ after hadds hne hr hfits
      (by decide : Text.IsUnpaired "u") (hsmall (by decide : Int.natAbs 0 < 10 ^ 10)) hmade hwrite hholds
  refine ⟨x, List.forall_mem_cons.2 ⟨hnone.isInput, List.forall_mem_cons.2
    ⟨hfile.isInput, List.forall_mem_singleton.2 hnone'.isInput⟩⟩, ?_, ?_, ?_⟩
  · -- the device takes what is written
    have hwrite (content : Bytes) : (tree x).write device.toText content = .ok (tree x) := by
      simp only [tree]
      cbv
    have hdevice : (tree x).locate true device.toText = .ok (["null"], .device) := by
      simp only [tree]
      cbv
    have hsum : sumOf (tree x) [n] = .ok [] := by
      rw [sumOf, List.filterMap_cons_some hnone.used]
      cbv
    obtain ⟨t, ht⟩ := exists_render (every_isSafe_store hempty (List.forall_mem_nil _) (by decide : Text.IsUnpaired "u")
      (hsmall (by decide : Int.natAbs 0 < 10 ^ 10)))
    obtain ⟨saved, hsave, hexit⟩ := toUnion_of_loads (c := ⟨tree x, [], 0, "zz"⟩)
      (List.forall_mem_singleton.2 hnone.isInput) ⟨n, List.mem_singleton_self _, hnone.loads⟩ hsum false device "u"
    obtain ⟨hfs, rfl⟩ := Prod.mk.inj (hsave.symm.trans (save_of_render hmade ht (hwrite _)))
    have hafter : (union x (tree x) [n] device).fileSystem = tree x := hfs
    refine ⟨hexit, ?_⟩
    rw [hafter]
    exact load_of_not_file hdevice (by decide)
  · -- the second output is the first one
    let tree₁ (y : Bytes) : FileSystem :=
      ⟨.directory 0o755 [("null", .device), ("r", .file 0o644 x), ("o", .file 0o644 y)], []⟩
    let tree₂ (y z : Bytes) : FileSystem :=
      ⟨.directory 0o755 [("null", .device), ("r", .file 0o644 x), ("o", .file 0o644 y), ("t", .file 0o644 z)], []⟩
    let tree₃ (z : Bytes) : FileSystem :=
      ⟨.directory 0o755 [("null", .device), ("r", .file 0o644 x), ("t", .file 0o644 z)], []⟩
    have hmade₁ (y : Bytes) : (tree₁ y).makeDirectories o'.parent = (tree₁ y, .ok ()) := by
      simp only [tree₁]
      cbv
    have hmade₂ (y : Bytes) : (tree₁ y).makeDirectories last.parent = (tree₁ y, .ok ()) := by
      simp only [tree₁]
      cbv
    have hlocate₁ (y : Bytes) : (tree₁ y).locate true o.toText = .ok (["o"], .file 0o644 y) := by
      simp only [tree₁]
      cbv
    have hlocate₂ (y : Bytes) : (tree₁ y).locate true o'.toText = .ok (["o"], .file 0o644 y) := by
      simp only [tree₁]
      cbv
    obtain ⟨hkept₁, y, hfs₁, -⟩ := step o tree₁ (.cons hfile .nil) (List.cons_ne_nil _ _) hone hfits hmade
      (fun _ => by simp only [tree, tree₁]; cbv) (fun _ => by simp only [tree₁]; cbv)
    have hnone₁ : Adds (tree₁ y) n [] := adds_of_absent (by simp only [tree₁]; cbv)
    obtain ⟨hkept₂, z, hfs₂, hadds₂⟩ := step o' tree₁ (.cons hnone₁ .nil) (List.cons_ne_nil _ _) hzero
      (List.forall_mem_nil _) (hmade₁ y) (fun _ => by simp only [tree₁]; cbv) (fun _ => by simp only [tree₁]; cbv)
    have hadds₁ : Adds (tree₁ z) o [] := by
      have hload := hkept₂.load_eq
      rw [hfs₂] at hload
      exact adds_of_load hempty hzero (load_of_content (hlocate₂ z) (hlocate₁ z) (by decide) hload)
    intro a₁ a₂
    have ha₂ : a₂ = union x (tree₁ y) [n] o' := congrArg (union x · [n] o') hfs₁
    rw [ha₂, hfs₂]
    refine ⟨hkept₁, hkept₂, ?_, ?_⟩
    · exact (step last (tree₂ z) (.cons hadds₁ (.cons hadds₂ .nil)) (List.cons_ne_nil _ _) hboth (List.forall_mem_nil _)
        (hmade₂ z)
        (fun _ => by simp only [tree₁, tree₂]; cbv) (fun _ => by simp only [tree₂]; cbv)).1
    · exact (step last tree₃ (.cons hfile (.cons hnone .nil)) (List.cons_ne_nil _ _) (by cbv) hfits hmade
        (fun _ => by simp only [tree, tree₃]; cbv) (fun _ => by simp only [tree₃]; cbv)).1
  · -- the file is there once the directory is
    let made : FileSystem :=
      ⟨.directory 0o755 [("null", .device), ("r", .file 0o644 x), ("m", .directory 0o755 [])], []⟩
    let tree₁ (y : Bytes) : FileSystem :=
      ⟨.directory 0o755 [("null", .device), ("r", .file 0o644 x), ("m", .directory 0o755 [("o", .file 0o644 y)])], []⟩
    let tree₂ (y z : Bytes) : FileSystem := ⟨.directory 0o755 [("null", .device), ("r", .file 0o644 x),
      ("m", .directory 0o755 [("o", .file 0o644 y)]), ("o", .file 0o644 z)], []⟩
    let tree₃ (y z u : Bytes) : FileSystem := ⟨.directory 0o755 [("null", .device), ("r", .file 0o644 x),
      ("m", .directory 0o755 [("o", .file 0o644 y)]), ("o", .file 0o644 z), ("t", .file 0o644 u)], []⟩
    let tree₄ (z : Bytes) : FileSystem :=
      ⟨.directory 0o755 [("null", .device), ("r", .file 0o644 x), ("t", .file 0o644 z)], []⟩
    have hmade₀ : (tree x).makeDirectories inside.parent = (made, .ok ()) := by
      simp only [tree, made]
      cbv
    have hmade₁ (y : Bytes) : (tree₁ y).makeDirectories o.parent = (tree₁ y, .ok ()) := by
      simp only [tree₁]
      cbv
    have hmade₂ (y z : Bytes) : (tree₂ y z).makeDirectories last.parent = (tree₂ y z, .ok ()) := by
      simp only [tree₂]
      cbv
    have hlocate₁ (y : Bytes) : (tree₁ y).locate true through.toText = .ok (["r"], .file 0o644 x) := by
      simp only [tree₁]
      cbv
    have hinside₁ (y : Bytes) : (tree₁ y).locate true inside.toText = .ok (["m", "o"], .file 0o644 y) := by
      simp only [tree₁]
      cbv
    have hinside₂ (y z : Bytes) : (tree₂ y z).locate true inside.toText = .ok (["m", "o"], .file 0o644 y) := by
      simp only [tree₂]
      cbv
    obtain ⟨hkept₁, y, hfs₁, -⟩ := step inside tree₁ (.cons hnone .nil) (List.cons_ne_nil _ _) hzero
      (List.forall_mem_nil _) hmade₀ (fun _ => by simp only [made, tree₁]; cbv) (fun _ => by simp only [tree₁]; cbv)
    obtain ⟨hkept₂, z, hfs₂, hadds₂⟩ := step o (tree₂ y) (.cons (hcontent (hlocate₁ y) (by decide)) .nil)
      (List.cons_ne_nil _ _) hone
      hfits (hmade₁ y) (fun _ => by simp only [tree₁, tree₂]; cbv) (fun _ => by simp only [tree₂]; cbv)
    have hadds₁ : Adds (tree₂ y z) inside [] := by
      have hload := hkept₁.load_eq
      rw [hfs₁] at hload
      exact adds_of_load hempty hzero (load_of_content (hinside₁ y) (hinside₂ y z) (by decide) hload)
    intro a₁ a₂
    have ha₂ : a₂ = union x (tree₁ y) [through] o := congrArg (union x · [through] o) hfs₁
    rw [ha₂, hfs₂]
    refine ⟨hkept₁, hkept₂, ?_, ?_⟩
    · exact (step last (tree₃ y z) (.cons hadds₁ (.cons hadds₂ .nil)) (List.cons_ne_nil _ _) (by cbv) hfits
        (hmade₂ y z)
        (fun _ => by simp only [tree₂, tree₃]; cbv) (fun _ => by simp only [tree₃]; cbv)).1
    · exact (step last tree₄ (.cons hnone (.cons hnone' .nil)) (List.cons_ne_nil _ _) hboth (List.forall_mem_nil _)
        hmade (fun _ => by simp only [tree, tree₄]; cbv) (fun _ => by simp only [tree₄]; cbv)).1

end CommandLine.Answer

end ShellCoverage
