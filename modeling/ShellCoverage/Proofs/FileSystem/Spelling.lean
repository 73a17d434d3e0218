import Mathlib.Data.List.Forall2
import ShellCoverage.FileSystem.Lookup
import ShellCoverage.Proofs.Text.Occurrence
import ShellCoverage.Proofs.Text.Utf8

/-!
# Names as texts and as bytes

A lookup goes by the bytes of a path, the canonical form of a path by its text. `Spells ts ns` says that the
texts `ts` have the bytes `ns`, one by one; several texts may have the same bytes.

* `FileSystem.stepNames` : the names in the bytes of a path, without `.`;
* `FileSystem.spells_names` : the names in a path's text spell those in its bytes;
* `FileSystem.linkAt?_eq` : the link at a place, by its bytes.
-/

namespace ShellCoverage

/-- The texts have the bytes of the names. -/
def Spells (ts : List Text) (ns : List Name) : Prop :=
  List.Forall₂ (fun t n => Text.toBytes? t = some n) ts ns

namespace Text

theorem bytes?_cases {c : CodePoint} {h : Bytes} (hc : bytes? c = some h) :
    (c.val < 0x80 ∧ h = [.ofNat c.val]) ∨ (0x80 ≤ c.val ∧ h ≠ [] ∧ ∀ b ∈ h, 0x80 ≤ b.toNat) := by
  by_cases hlt : c.val < 0x80
  · rw [bytes?_of_ascii hlt] at hc
    exact Or.inl ⟨hlt, (Option.some.inj hc).symm⟩
  · obtain ⟨hne, hall⟩ := bytes?_of_not_ascii (Nat.not_lt.1 hlt) hc
    exact Or.inr ⟨Nat.not_lt.1 hlt, hne, hall⟩

/-- ASCII bytes are spelled in one way only. -/
theorem toBytes?_eq_ascii_iff {s t : Text} (hs : (s.all fun c => c.val < 0x80) = true) :
    toBytes? t = some (s.map fun c => UInt8.ofNat c.val) ↔ t = s := by
  induction s generalizing t with
  | nil =>
    constructor
    · intro h
      cases t with
      | nil => rfl
      | cons c t =>
        obtain ⟨a, r, hc, -, he⟩ := toBytes?_cons_eq_some.1 h
        rcases bytes?_cases hc with ⟨-, rfl⟩ | ⟨-, hne, -⟩
        · cases he
        · exact absurd (List.append_eq_nil_iff.1 he.symm).1 hne
    · rintro rfl
      rfl
  | cons x s ih =>
    rw [List.all_cons, Bool.and_eq_true, decide_eq_true_iff] at hs
    obtain ⟨hx, hs⟩ := hs
    have ih := fun t => ih (t := t) hs
    constructor
    · intro h
      cases t with
      | nil => cases h
      | cons c t =>
        obtain ⟨a, r, hc, hr, he⟩ := toBytes?_cons_eq_some.1 h
        rw [List.map_cons] at he
        rcases bytes?_cases hc with ⟨hlt, rfl⟩ | ⟨-, hne, hall⟩
        · obtain ⟨hhead, htail⟩ := List.cons.inj he
          rw [← UInt8.toNat_inj, UInt8.toNat_ofNat', UInt8.toNat_ofNat'] at hhead
          rw [(ih t).1 (htail ▸ hr), show c = x from Fin.ext (by omega)]
        · obtain ⟨b, a, rfl⟩ := List.exists_cons_of_ne_nil hne
          have hb := hall b List.mem_cons_self
          rw [← (List.cons.inj he).1, UInt8.toNat_ofNat'] at hb
          omega
    · rintro rfl
      exact toBytes?_cons_eq_some.2 ⟨_, _, bytes?_of_ascii hx, (ih s).2 rfl, rfl⟩

end Text

/-! ## Spelling -/

namespace Spells
variable {ts us : List Text} {ms ns : List Name} {t : Text} {n : Name}

theorem append (h : Spells ts ms) (h' : Spells us ns) : Spells (ts ++ us) (ms ++ ns) :=
  List.rel_append h h'

theorem concat (h : Spells ts ms) (hn : t.toBytes? = some n) : Spells (ts ++ [t]) (ms ++ [n]) :=
  h.append (.cons hn .nil)

theorem dropLast (h : Spells ts ms) : Spells ts.dropLast ms.dropLast := by
  induction h with
  | nil => exact .nil
  | cons hn hrest ih =>
    cases hrest with
    | nil => exact .nil
    | cons hn' hrest => exact .cons hn ih

/-- Texts spell one list of names at most. -/
theorem unique (h : Spells ts ms) (h' : Spells ts ns) : ms = ns := by
  induction h generalizing ns with
  | nil =>
    cases h'
    rfl
  | cons hn _ ih =>
    cases h' with
    | cons hn' h' => rw [ih h', Option.some.inj (hn.symm.trans hn')]

theorem ofBytes (ns : List Name) : Spells (ns.map Text.ofBytes) ns := by
  induction ns with
  | nil => exact .nil
  | cons n ns ih => exact .cons (Text.toBytes?_ofBytes n) ih

theorem mapM_eq_some_iff : ts.mapM Text.toBytes? = some ns ↔ Spells ts ns := by
  induction ts generalizing ns with
  | nil =>
    constructor
    · intro h
      cases h
      exact .nil
    · intro h
      cases h
      rfl
  | cons t ts ih =>
    rw [List.mapM_cons]
    constructor
    · intro h
      obtain ⟨n, hn, h⟩ := Option.bind_eq_some_iff.1 h
      obtain ⟨ns, hns, h⟩ := Option.bind_eq_some_iff.1 h
      cases h
      exact .cons hn (ih.1 hns)
    · intro h
      cases h with
      | cons hn hns =>
        refine Option.bind_eq_some_iff.2 ⟨_, hn, Option.bind_eq_some_iff.2 ⟨_, ih.2 hns, rfl⟩⟩

end Spells

namespace FileSystem
variable {t : Text} {bs : Bytes}

/-! ## Names of paths -/

/-- The names in the bytes of a path, without `.`. -/
def stepNames (path : Bytes) : List Name := (steps path).filter (· ≠ [46])

theorem stepNames_eq (path : Bytes) :
    stepNames path = (steps.split path).filter fun n => n ≠ [] ∧ n ≠ [46] := by
  have hnames : ((steps.split path).filter (· ≠ [])).filter (· ≠ [46]) =
      (steps.split path).filter fun n => n ≠ [] ∧ n ≠ [46] := by
    rw [List.filter_filter]
    refine List.filter_congr fun n _ => ?_
    simp [Bool.and_comm]
  rw [stepNames, steps, ← hnames]
  split
  · rw [List.filter_append]
    simp
  · rfl

theorem split_append {h r p : Bytes} {ps : List Bytes} (hh : ∀ b ∈ h, b ≠ 47)
    (hr : steps.split r = p :: ps) : steps.split (h ++ r) = (h ++ p) :: ps := by
  induction h with
  | nil => exact hr
  | cons b h ih =>
    rw [List.cons_append, steps.split, if_neg (hh b List.mem_cons_self),
      ih fun b' hb => hh b' (List.mem_cons_of_mem b hb)]
    rfl

theorem spells_splitAt (h : t.toBytes? = some bs) :
    Spells (Text.splitAt Path.slash t) (steps.split bs) := by
  induction t generalizing bs with
  | nil =>
    cases h
    exact .cons rfl .nil
  | cons c t ih =>
    obtain ⟨a, r, hc, hr, rfl⟩ := Text.toBytes?_cons_eq_some.1 h
    have hrest := ih hr
    by_cases hslash : c = Path.slash
    · rw [hslash, Text.bytes?_of_ascii (by decide)] at hc
      cases hc
      rw [Text.splitAt, if_pos hslash]
      exact .cons rfl hrest
    · have hother : ∀ b ∈ a, b ≠ 47 := by
        rcases Text.bytes?_cases hc with ⟨hlt, rfl⟩ | ⟨-, -, hall⟩
        · intro b hb he
          rw [List.mem_singleton.1 hb, ← UInt8.toNat_inj, UInt8.toNat_ofNat'] at he
          refine hslash (Fin.ext ?_)
          have hval : Path.slash.val = 47 := rfl
          have h47 : (47 : UInt8).toNat = 47 := rfl
          omega
        · rintro b hb rfl
          exact absurd (hall 47 hb) (by decide)
      obtain ⟨p, ps, hp⟩ := List.exists_cons_of_ne_nil (Text.splitAt_ne_nil Path.slash t)
      rw [hp] at hrest
      cases hq : steps.split r with
      | nil =>
        rw [hq] at hrest
        cases hrest
      | cons q qs =>
        rw [hq] at hrest
        cases hrest with
        | cons hpq hpqs =>
          rw [Text.splitAt, if_neg hslash, hp, split_append hother hq]
          exact .cons (Text.toBytes?_cons_eq_some.2 ⟨a, q, hc, hpq, rfl⟩) hpqs

section dots
variable {n : Name} (h : t.toBytes? = some n)
include h

theorem eq_nil_iff : t = [] ↔ n = [] := by
  rw [← Text.toBytes?_eq_ascii_iff (s := []) rfl, h]
  exact Option.some_inj

theorem eq_here_iff : t = Path.here ↔ n = [46] := by
  rw [← Text.toBytes?_eq_ascii_iff (s := Path.here) rfl, h]
  exact Option.some_inj

theorem eq_up_iff : t = Path.up ↔ n = [46, 46] := by
  rw [← Text.toBytes?_eq_ascii_iff (s := Path.up) rfl, h]
  exact Option.some_inj

end dots

/-- The names in a path's text spell those in its bytes. -/
theorem spells_names (h : t.toBytes? = some bs) : Spells (names t) (stepNames bs) := by
  rw [stepNames_eq]
  refine List.rel_filter (fun p n hpn => ?_) (spells_splitAt h)
  show decide _ = true ↔ decide _ = true
  rw [decide_eq_true_iff, decide_eq_true_iff]
  exact and_congr (not_congr (eq_nil_iff hpn)) (not_congr (eq_here_iff hpn))

theorem isAbsolute_iff (h : t.toBytes? = some bs) :
    Path.isAbsolute t = true ↔ bs.head? = some 47 := by
  have hslash : Path.slash.val = 47 := rfl
  have h47 : (47 : UInt8).toNat = 47 := rfl
  rw [Path.isAbsolute, decide_eq_true_iff]
  cases t with
  | nil =>
    cases h
    simp
  | cons c t =>
    obtain ⟨a, r, hc, -, rfl⟩ := Text.toBytes?_cons_eq_some.1 h
    rcases Text.bytes?_cases hc with ⟨hlt, rfl⟩ | ⟨hge, hne, hall⟩
    · simp only [List.head?_cons, List.singleton_append, Option.some.injEq, Fin.ext_iff,
        ← UInt8.toNat_inj, UInt8.toNat_ofNat']
      omega
    · obtain ⟨b, a, rfl⟩ := List.exists_cons_of_ne_nil hne
      have hb := hall b List.mem_cons_self
      simp only [List.head?_cons, List.cons_append, Option.some.injEq, Fin.ext_iff, ← UInt8.toNat_inj]
      omega

/-! ## Links -/

/-- The target of the link at a place, by its bytes. -/
theorem linkAt?_eq (fs : FileSystem) {ts : List Text} {place : List Name} (h : Spells ts place) :
    fs.linkAt? ts =
      match fs.nodeAt? place with
      | some (.link target) => some (Text.ofBytes target)
      | _ => none := by
  rw [linkAt?, Spells.mapM_eq_some_iff.2 h]
  rfl

end FileSystem

end ShellCoverage
