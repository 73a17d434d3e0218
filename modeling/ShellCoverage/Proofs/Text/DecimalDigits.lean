import ShellCoverage.Text.Numeral

/-!
# Numbers written by decimal digits

`IsDecimal t` says that a text is a run of decimal digits, of any script, that is short enough to be
converted; `natValue t` is the number that it denotes.

* `readInt_of_isDecimal` : such a text reads as its number;
* `readInt_of_isUnconvertible` : any other run of digits, in the wide sense of the word, is refused;
* `isDecimal_ofNat`, `natValue_ofNat` : the digits of a number are such a text and denote the number.
-/

namespace ShellCoverage.Numeral

/-- A run of decimal digits that is short enough to be converted. -/
structure IsDecimal (t : Text) : Prop where
  ne_nil : t ≠ []
  digits : ∀ c ∈ t, c.isDecimal = true
  length_le : t.length ≤ digitLimit

/-- The number that a run of decimal digits denotes. -/
def natValue (t : Text) : Nat := valueOf (t.map fun c => c.decimalValue?.getD 0)

theorem decimalValue?_isSome {c : CodePoint} (h : c.isDecimal = true) : c.decimalValue?.isSome := by
  obtain ⟨r, hr, hin⟩ := List.any_eq_true.1 h
  rw [CodePoint.decimalValue?, Option.isSome_map]
  exact List.find?_isSome.2 ⟨r, hr, hin⟩

theorem markOf_of_isDecimal {c : CodePoint} (h : c.isDecimal = true) :
    markOf c = .digit (c.decimalValue?.getD 0) := by
  obtain ⟨v, hv⟩ := Option.isSome_iff_exists.1 (decimalValue?_isSome h)
  rw [markOf, hv]
  rfl

/-- A run of digits is read to its end. -/
theorem scanDigits_digits (ds : List Nat) : scanDigits (ds.map .digit) = some (ds, []) := by
  induction ds with
  | nil => rfl
  | cons d ds ih =>
    cases ds with
    | nil => rfl
    | cons e ds =>
      rw [List.map_cons, List.map_cons, scanDigits, ← List.map_cons, ih]
      · rfl
      · simp
      · simp

theorem map_markOf {t : Text} (h : ∀ c ∈ t, c.isDecimal = true) :
    t.map markOf = (t.map fun c => c.decimalValue?.getD 0).map .digit := by
  rw [List.map_map]
  exact List.map_congr_left fun c hc => markOf_of_isDecimal (h c hc)

theorem isDigit_of_isDecimal {c : CodePoint} (h : c.isDecimal = true) : c.isDigit = true := by
  rw [CodePoint.isDigit, h, Bool.true_or]

/-- Ranges that lie apart have no number in common. -/
theorem inRanges_eq_false {rs qs : List (Nat × Nat)} {n : Nat}
    (hapart : ∀ r ∈ rs, ∀ q ∈ qs, r.2 < q.1 ∨ q.2 < r.1) (h : CharacterClass.inRanges rs n = true) :
    CharacterClass.inRanges qs n = false := by
  obtain ⟨r, hr, hn⟩ := List.any_eq_true.1 h
  simp only [Bool.and_eq_true, decide_eq_true_eq] at hn
  rw [CharacterClass.inRanges, List.any_eq_false]
  intro q hq
  simp only [Bool.and_eq_true, decide_eq_true_eq]
  have := hapart r hr q hq
  omega

/-- A digit without a decimal value has no meaning inside a numeral. -/
theorem markOf_of_not_isDecimal {c : CodePoint} (hdigit : c.isDigit = true) (h : c.isDecimal = false) :
    markOf c = .other := by
  have hother : CharacterClass.inRanges CharacterClass.otherDigitRanges c.val = true := by
    rwa [CodePoint.isDigit, h, Bool.false_or] at hdigit
  have hvalue : c.decimalValue? = none := by
    rw [CodePoint.decimalValue?, Option.map_eq_none_iff, List.find?_eq_none]
    exact List.any_eq_false.1 h
  have hblank : c.isBlank = false := inRanges_eq_false (by decide) hother
  have hmarks : CharacterClass.inRanges [(43, 45), (95, 95)] c.val = false :=
    inRanges_eq_false (by decide) hother
  have hne (x : CodePoint) (hx : CharacterClass.inRanges [(43, 45), (95, 95)] x.val = true) : c ≠ x := by
    rintro rfl
    rw [hmarks] at hx
    cases hx
  rw [markOf, hvalue]
  simp only [hblank, Bool.false_and, Bool.false_eq_true, if_false]
  rw [if_neg (hne _ (by decide)), if_neg (hne _ (by decide)), if_neg (hne _ (by decide))]

/-- What follows the digits at the head decides whether digits in the wide sense are refused. -/
theorem readInt_of_digits {t : Text} {ds : List Nat} {r : List Mark} (hne : t ≠ [])
    (hdigits : ∀ c ∈ t, c.isDigit = true) (hscan : scanDigits (t.map markOf) = some (ds, r)) :
    readInt t =
      if digitLimit < ds.length then .error (.tooLong ds.length)
      else if ds.isEmpty || !(r.all (· == .blank)) then .error (.invalid t)
      else .ok (valueOf ds : Int) := by
  obtain ⟨c, t', rfl⟩ := List.exists_cons_of_ne_nil hne
  have hc : (∃ v, markOf c = .digit v) ∨ markOf c = .other := by
    cases hdec : c.isDecimal with
    | true => exact Or.inl ⟨_, markOf_of_isDecimal hdec⟩
    | false => exact Or.inr (markOf_of_not_isDecimal (hdigits c List.mem_cons_self) hdec)
  rw [List.map_cons] at hscan
  rw [readInt, List.map_cons]
  rcases hc with ⟨v, hc⟩ | hc
  · rw [hc] at hscan ⊢
    simp only [List.dropWhile_cons, reduceCtorEq, beq_iff_eq, if_false, hscan, Bool.false_eq_true]
  · rw [hc] at hscan ⊢
    simp only [List.dropWhile_cons, reduceCtorEq, beq_iff_eq, if_false, hscan, Bool.false_eq_true]

/-- A run of decimal digits that is not too long reads as the number that it denotes. -/
theorem readInt_of_isDecimal {t : Text} (h : IsDecimal t) : readInt t = .ok (natValue t : Int) := by
  have hscan := scanDigits_digits (t.map fun c => c.decimalValue?.getD 0)
  rw [← map_markOf h.digits] at hscan
  rw [readInt_of_digits h.ne_nil (fun c hc => isDigit_of_isDecimal (h.digits c hc)) hscan, List.length_map,
    if_neg (Nat.not_lt.2 h.length_le)]
  simp [natValue, h.ne_nil]

/-- Digits in the wide sense that cannot be converted: one of them has no decimal value, or there are too
many. -/
structure IsUnconvertible (t : Text) : Prop where
  ne_nil : t ≠ []
  digits : ∀ c ∈ t, c.isDigit = true
  not_isDecimal : ¬ IsDecimal t

theorem decimalValue?_ofChar {c : Char} (h : c.isDigit = true) :
    (CodePoint.ofChar c).decimalValue? = some (c.toNat - '0'.toNat) := by
  have hc : 48 ≤ c.toNat ∧ c.toNat ≤ 57 := by
    simpa [Char.isDigit, UInt32.le_iff_toNat_le] using h
  have hfind : CharacterClass.decimalRanges.find?
      (fun r => r.1 ≤ (CodePoint.ofChar c).val && (CodePoint.ofChar c).val ≤ r.2) = some (48, 57) := by
    rw [CharacterClass.decimalRanges, List.find?_cons_of_pos]
    exact Bool.and_eq_true_iff.2 ⟨decide_eq_true hc.1, decide_eq_true hc.2⟩
  rw [CodePoint.decimalValue?, hfind, Option.map_some]
  simp only [CodePoint.ofChar, Option.some.injEq, Char.reduceToNat]
  omega

theorem isDecimal_ofChar {c : Char} (h : c.isDigit = true) : (CodePoint.ofChar c).isDecimal = true := by
  have hc : 48 ≤ c.toNat ∧ c.toNat ≤ 57 := by
    simpa [Char.isDigit, UInt32.le_iff_toNat_le] using h
  refine List.any_eq_true.2 ⟨(48, 57), by simp [CharacterClass.decimalRanges], ?_⟩
  exact Bool.and_eq_true_iff.2 ⟨decide_eq_true hc.1, decide_eq_true hc.2⟩

theorem isDecimal_ofNat {n : Nat} (h : n < 10 ^ digitLimit) : IsDecimal (Text.ofNat n) where
  ne_nil := by simp [Text.ofNat]
  digits c hc := by
    obtain ⟨x, hx, rfl⟩ := List.mem_map.1 hc
    exact isDecimal_ofChar (Nat.isDigit_of_mem_toDigits (by decide) (by decide) hx)
  length_le := by
    rw [Text.ofNat, List.length_map]
    exact (Nat.length_toDigits_le_iff (by decide) (by decide)).2 h

/-- The digits of a number have the number as their value, by whatever gives the value of each digit. -/
theorem valueOf_map_ofNat {digit : CodePoint → Nat}
    (hdigit : ∀ c : Char, c.isDigit = true → digit (.ofChar c) = c.toNat - '0'.toNat) (n : Nat) :
    valueOf ((Text.ofNat n).map digit) = n := by
  have hvalues : (Text.ofNat n).map digit = (Nat.toDigits 10 n).map fun c => c.toNat - '0'.toNat := by
    rw [Text.ofNat, List.map_map]
    exact List.map_congr_left fun c hc => hdigit c (Nat.isDigit_of_mem_toDigits (by decide) (by decide) hc)
  rw [hvalues, valueOf, List.foldl_map, ← Nat.ofDigitChars_eq_foldl, Nat.ofDigitChars_ten_toDigits]

/-- The digits of a number denote the number. -/
theorem natValue_ofNat (n : Nat) : natValue (Text.ofNat n) = n :=
  valueOf_map_ofNat (fun c hc => by rw [decimalValue?_ofChar hc, Option.getD_some]) n

end ShellCoverage.Numeral
