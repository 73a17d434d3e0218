import ShellCoverage.Proofs.Except
import ShellCoverage.Proofs.FileSystem.Spelling

/-!
# Texts of files

The text of a file has no surrogates, since the bytes of surrogates are not UTF-8. Its carriage returns are made line
feeds. A text that is ASCII without carriage returns comes back from its bytes as it is.

* `Text.IsScalar`, `Text.isScalar_of_ofBytes?`, `Text.ofBytes?_toWideBytes` : texts without surrogates;
* `Text.IsPrinted`, `Text.ofBytes?_of_isPrinted`, `Text.unifyLineEnds_of_isPrinted` : texts that come back.
-/

namespace ShellCoverage

/-! ## Texts without surrogates -/

/-- The text has no surrogates. -/
def Text.IsScalar (t : Text) : Prop := ∀ c ∈ t, c.isSurrogate = false

instance (t : Text) : Decidable t.IsScalar :=
  decidable_of_iff (t.all fun c => !c.isSurrogate) (by
    rw [List.all_eq_true]
    exact forall₂_congr fun c _ => Iff.of_eq (Bool.not_eq_true' _))

namespace Text

theorem isScalar_nil : IsScalar [] := nofun

theorem isScalar_cons_iff {c : CodePoint} {t : Text} : IsScalar (c :: t) ↔ c.isSurrogate = false ∧ t.IsScalar :=
  List.forall_mem_cons

theorem IsScalar.tail {c : CodePoint} {t : Text} (h : IsScalar (c :: t)) : t.IsScalar := (isScalar_cons_iff.1 h).2

theorem isScalar_append_iff {s t : Text} : IsScalar (s ++ t) ↔ s.IsScalar ∧ t.IsScalar := List.forall_mem_append

theorem isScalar_flatMap_iff {α : Type} {l : List α} {f : α → Text} :
    IsScalar (l.flatMap f) ↔ ∀ a ∈ l, (f a).IsScalar := by
  simp only [IsScalar, List.mem_flatMap]
  exact ⟨fun h a ha c hc => h c ⟨a, ha, hc⟩, fun h c ⟨a, ha, hc⟩ => h a ha c hc⟩

theorem IsScalar.of_append {s t : Text} (h : IsScalar (s ++ t)) : t.IsScalar := (isScalar_append_iff.1 h).2

theorem IsScalar.dropWhile {t : Text} (h : t.IsScalar) (p : CodePoint → Bool) : IsScalar (t.dropWhile p) :=
  fun c hc => h c ((List.dropWhile_suffix p).subset hc)

theorem isScalar_of_ofBytesFrom? {bs : Bytes} {position : Nat} {t : Text}
    (h : ofBytesFrom? position bs = .ok t) : t.IsScalar := by
  fun_induction ofBytesFrom? position bs generalizing t with
  | case1 =>
    cases h
    exact isScalar_nil
  | case2 position b rest c extra hread ih =>
    obtain ⟨u, hu, rfl⟩ := Except.map_eq_ok_iff.1 h
    exact isScalar_cons_iff.2 ⟨(Utf8.read_eq_scalar hread).2.2, ih hu⟩
  | case3 => cases h

/-- The text of well-formed bytes has no surrogates. -/
theorem isScalar_of_ofBytes? {bs : Bytes} {t : Text} (h : ofBytes? bs = .ok t) : t.IsScalar :=
  isScalar_of_ofBytesFrom? h

theorem ofBytesFrom?_toWideBytes {t : Text} (h : t.IsScalar) (position : Nat) :
    ofBytesFrom? position t.toWideBytes = .ok t := by
  induction t generalizing position with
  | nil => rw [toWideBytes, List.flatMap_nil, ofBytesFrom?]
  | cons c t ih =>
    obtain ⟨hc, ht⟩ := isScalar_cons_iff.1 h
    obtain ⟨b, more, hencode, hread⟩ := Utf8.read_encode hc (toWideBytes t)
    rw [toWideBytes, List.flatMap_cons, ← toWideBytes, hencode, List.cons_append, ofBytesFrom?]
    simp only [hread, List.drop_left, ih ht, Except.map]

/-- A text without surrogates is read from its bytes. -/
theorem ofBytes?_toWideBytes {t : Text} (h : t.IsScalar) : ofBytes? t.toWideBytes = .ok t :=
  ofBytesFrom?_toWideBytes h 0

theorem IsScalar.unifyLineEnds {t : Text} (h : t.IsScalar) : t.unifyLineEnds.IsScalar := by
  have hfeed : CodePoint.isSurrogate 10 = false := rfl
  fun_induction Text.unifyLineEnds t with
  | case1 => exact isScalar_nil
  | case2 t ih => exact isScalar_cons_iff.2 ⟨hfeed, ih h.tail.tail⟩
  | case3 c t hc ih =>
    refine isScalar_cons_iff.2 ⟨?_, ih h.tail⟩
    split
    · exact hfeed
    · exact (isScalar_cons_iff.1 h).1

end Text

/-! ## Texts of ASCII -/

/-- The text is ASCII, without carriage returns. -/
def Text.IsPrinted (t : Text) : Prop := ∀ c ∈ t, c.val < 0x80 ∧ c ≠ 13

instance (t : Text) : Decidable t.IsPrinted :=
  decidable_of_iff (t.all fun c => decide (c.val < 0x80 ∧ c ≠ 13)) (by
    rw [List.all_eq_true]
    exact forall₂_congr fun c _ => decide_eq_true_iff)

namespace Text

theorem isPrinted_nil : IsPrinted [] := nofun

theorem isPrinted_append_iff {s t : Text} : IsPrinted (s ++ t) ↔ IsPrinted s ∧ IsPrinted t :=
  List.forall_mem_append

theorem IsPrinted.append {s t : Text} (hs : IsPrinted s) (ht : IsPrinted t) : IsPrinted (s ++ t) :=
  isPrinted_append_iff.2 ⟨hs, ht⟩

/-! ## Bytes -/

/-- The bytes of a printed text. -/
def printedBytes (t : Text) : Bytes := t.map fun c => UInt8.ofNat c.val

theorem toBytes?_of_isPrinted {t : Text} (h : t.IsPrinted) : t.toBytes? = some (printedBytes t) :=
  (toBytes?_eq_ascii_iff (List.all_eq_true.2 fun c hc => decide_eq_true (h c hc).1)).2 rfl

theorem ofBytesFrom?_of_isPrinted {t : Text} (h : t.IsPrinted) (position : Nat) :
    ofBytesFrom? position (printedBytes t) = .ok t := by
  induction t generalizing position with
  | nil => rw [printedBytes, List.map_nil, ofBytesFrom?]
  | cons c t ih =>
    obtain ⟨hc, ht⟩ := List.forall_mem_cons.1 h
    have hlt : UInt8.ofNat c.val < 0x80 := by
      rw [UInt8.lt_iff_toNat_lt, UInt8.toNat_ofNat']
      have h80 : (0x80 : UInt8).toNat = 0x80 := rfl
      have := hc.1
      omega
    have hpoint : CodePoint.ofNat (UInt8.ofNat c.val).toNat = c := by
      have hval : (UInt8.ofNat c.val).toNat = c.val := by
        rw [UInt8.toNat_ofNat']
        have := hc.1
        omega
      rw [hval, CodePoint.ofNat, dif_pos c.isLt]
    have hread : Utf8.read (UInt8.ofNat c.val) (printedBytes t) = .scalar c 0 := by
      rw [Utf8.read_of_lt hlt, hpoint]
    have hrest := ih ht (position + 1 + 0)
    rw [printedBytes, List.map_cons, ← printedBytes, ofBytesFrom?]
    simp only [hread, List.drop_zero, hrest, Except.map]

/-- The bytes of a printed text are read as the text. -/
theorem ofBytes?_of_isPrinted {t : Text} (h : t.IsPrinted) : ofBytes? (printedBytes t) = .ok t :=
  ofBytesFrom?_of_isPrinted h 0

/-- A text without carriage returns has the line ends that it has. -/
theorem unifyLineEnds_of_isPrinted {t : Text} (h : t.IsPrinted) : t.unifyLineEnds = t := by
  fun_induction unifyLineEnds t with
  | case1 => rfl
  | case2 t ih => exact absurd rfl (h 13 List.mem_cons_self).2
  | case3 c t hc ih =>
    obtain ⟨hfirst, hrest⟩ := List.forall_mem_cons.1 h
    rw [if_neg hfirst.2, ih hrest]

end Text

end ShellCoverage
