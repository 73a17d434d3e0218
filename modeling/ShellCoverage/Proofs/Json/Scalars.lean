import Mathlib.Data.List.Basic
import ShellCoverage.Json.Reader
import ShellCoverage.Json.Writer
import ShellCoverage.Proofs.Text.DecimalDigits

/-!
# Strings and numbers of JSON

A string is written with escapes for what is not printable ASCII; a character beyond the first 65536 takes two
of them. The reader joins the two again, and would join two surrogates that stand for themselves too, so that a
text is read back unless it has such two. An integer is written by its digits, without zeros before them, and is
read back where no number goes on after it.

* `Text.IsUnpaired`, `Text.isUnpaired_iff` : the texts in which no two surrogates make a pair;
* `hex4?_hexDigits`, `lowHalf?_writePoint` : escapes;
* `readString_writePoint`, `readString_flatMap_writePoint` : a string that was written is read back;
* `EndsNumber` : a text at the head of which no number goes on;
* `readNumber_ofInt` : the digits of an integer are read back.
-/

namespace ShellCoverage

open Json

/-- No surrogate that begins a pair stands right before one that ends a pair. -/
def Text.IsUnpaired (t : Text) : Prop :=
  ∀ (a b : Text) (high low : CodePoint), t = a ++ high :: low :: b →
    isHigh high.val = true → isLow low.val = false

theorem Text.isUnpaired_nil : Text.IsUnpaired [] := by
  intro a b high low h
  simp at h

theorem Text.isUnpaired_cons_iff {c : CodePoint} {t : Text} :
    Text.IsUnpaired (c :: t) ↔
      (isHigh c.val = true → ∀ d ∈ t.head?, isLow d.val = false) ∧ Text.IsUnpaired t := by
  constructor
  · intro h
    constructor
    · intro hhigh d hd
      obtain ⟨r, rfl⟩ := List.head?_eq_some_iff.1 hd
      exact h [] r c d rfl hhigh
    · rintro a b high low rfl
      exact h (c :: a) b high low rfl
  · rintro ⟨hfirst, hrest⟩ a b high low h hhigh
    cases a with
    | nil =>
      obtain ⟨rfl, rfl⟩ := List.cons.inj h
      exact hfirst hhigh low rfl
    | cons x a => exact hrest a b high low (List.cons.inj h).2 hhigh

/-- Two surrogates that make a pair stand in a row. -/
def Text.hasPair : Text → Bool
  | [] => false
  | c :: t => (isHigh c.val && t.head?.any fun d => isLow d.val) || hasPair t

theorem Text.isUnpaired_iff {t : Text} : t.IsUnpaired ↔ t.hasPair = false := by
  induction t with
  | nil => exact iff_of_true isUnpaired_nil rfl
  | cons c t ih =>
    rw [isUnpaired_cons_iff, ih, hasPair, Bool.or_eq_false_iff, Bool.and_eq_false_imp]
    cases t <;> simp

instance (t : Text) : Decidable t.IsUnpaired := decidable_of_iff (t.hasPair = false) Text.isUnpaired_iff.symm

namespace Json

/-! ## Escapes -/

/-- A hexadecimal digit. -/
def hexDigit (d : Nat) : CodePoint := CodePoint.ofChar (Nat.digitChar d)

theorem hexValue?_hexDigit {d : Nat} (h : d < 16) : hexValue? (hexDigit d) = some d := by
  have hall : ∀ d : Fin 16, hexValue? (hexDigit d) = some d.val := by decide
  exact hall ⟨d, h⟩

theorem hex_of_lt {w n : Nat} (h : n < 16) : Text.hex (w + 1) n = List.replicate w 48 ++ [hexDigit n] := by
  have hdigits : Nat.toDigits 16 n = [n.digitChar] := Nat.toDigits_of_lt_base h
  rw [Text.hex, hdigits, List.length_singleton, Nat.add_sub_cancel, List.map_append, List.map_replicate]
  rfl

/-- One more digit. -/
theorem hex_succ (w n : Nat) : Text.hex (w + 2) n = Text.hex (w + 1) (n / 16) ++ [hexDigit (n % 16)] := by
  by_cases h : n < 16
  · rw [hex_of_lt h, Nat.div_eq_of_lt h, Nat.mod_eq_of_lt h, hex_of_lt (by decide), List.replicate_succ']
    rfl
  · have hdigits : Nat.toDigits 16 n = Nat.toDigits 16 (n / 16) ++ [(n % 16).digitChar] := by
      rw [Nat.toDigits_eq_if (by decide), if_neg h]
    have hwidth (m : Nat) : w + 2 - (m + 1) = w + 1 - m := by omega
    rw [Text.hex, Text.hex, hdigits, List.length_append, List.length_singleton, hwidth, ← List.append_assoc,
      List.map_append]
    rfl

/-- A number below 65536 takes four digits. -/
theorem hex_four {n : Nat} (h : n < 0x10000) :
    Text.hex 4 n =
      [hexDigit (n / 4096), hexDigit (n / 256 % 16), hexDigit (n / 16 % 16), hexDigit (n % 16)] := by
  have h256 : n / 16 / 16 = n / 256 := Nat.div_div_eq_div_mul n 16 16
  have h4096 : n / 256 / 16 = n / 4096 := Nat.div_div_eq_div_mul n 256 16
  rw [hex_succ, hex_succ, hex_succ, h256, h4096, hex_of_lt (by omega)]
  rfl

theorem unicodeEscape_append {n : Nat} (h : n < 0x10000) (r : Text) :
    unicodeEscape n ++ r =
      92 :: 117 :: hexDigit (n / 4096) :: hexDigit (n / 256 % 16) :: hexDigit (n / 16 % 16) ::
        hexDigit (n % 16) :: r := by
  rw [unicodeEscape, hex_four h]
  rfl

theorem hex4?_hexDigits {n : Nat} (h : n < 0x10000) :
    hex4? (hexDigit (n / 4096)) (hexDigit (n / 256 % 16)) (hexDigit (n / 16 % 16)) (hexDigit (n % 16)) =
      some n := by
  have h1 : n / 4096 < 16 := by omega
  have h2 : n / 256 % 16 < 16 := by omega
  have h3 : n / 16 % 16 < 16 := by omega
  have h4 : n % 16 < 16 := by omega
  simp only [hex4?, hexValue?_hexDigit h1, hexValue?_hexDigit h2, hexValue?_hexDigit h3, hexValue?_hexDigit h4,
    bind, Option.bind, pure, Option.some.injEq]
  omega

theorem lowHalf?_unicodeEscape {n : Nat} (h : n < 0x10000) (c : CodePoint) (r : Text) :
    lowHalf? (unicodeEscape n ++ c :: r) = .ok (if isLow n then some (n, c :: r) else none) := by
  rw [unicodeEscape_append h, lowHalf?, hex4?_hexDigits h]

/-- The forms of a code point in a string: itself, an escape of one letter, or one or two numbers. -/
theorem writePoint_cases (c : CodePoint) :
    (writePoint c = [c] ∧ c ≠ 34 ∧ c ≠ 92 ∧ 0x20 ≤ c.val ∧ c.val ≤ 0x7E) ∨
      (∃ e, writePoint c = [92, e] ∧ e ≠ 117 ∧ simpleEscape? e = some c) ∨
      (writePoint c = unicodeEscape c.val ∧ c.val < 0x10000) ∨
      (writePoint c = unicodeEscape (0xD800 + (c.val - 0x10000) / 0x400) ++
        unicodeEscape (0xDC00 + (c.val - 0x10000) % 0x400) ∧ 0x10000 ≤ c.val) := by
  rw [writePoint]
  by_cases hquote : c = CodePoint.ofChar '"'
  · rw [if_pos hquote]
    exact Or.inr (Or.inl ⟨34, rfl, by decide, hquote ▸ rfl⟩)
  rw [if_neg hquote]
  by_cases hbackslash : c = CodePoint.ofChar '\\'
  · rw [if_pos hbackslash]
    exact Or.inr (Or.inl ⟨92, rfl, by decide, hbackslash ▸ rfl⟩)
  rw [if_neg hbackslash]
  by_cases h10 : c = 10
  · rw [if_pos h10]
    exact Or.inr (Or.inl ⟨CodePoint.ofChar 'n', rfl, by decide, h10 ▸ rfl⟩)
  rw [if_neg h10]
  by_cases h13 : c = 13
  · rw [if_pos h13]
    exact Or.inr (Or.inl ⟨CodePoint.ofChar 'r', rfl, by decide, h13 ▸ rfl⟩)
  rw [if_neg h13]
  by_cases h9 : c = 9
  · rw [if_pos h9]
    exact Or.inr (Or.inl ⟨CodePoint.ofChar 't', rfl, by decide, h9 ▸ rfl⟩)
  rw [if_neg h9]
  by_cases h12 : c = 12
  · rw [if_pos h12]
    exact Or.inr (Or.inl ⟨CodePoint.ofChar 'f', rfl, by decide, h12 ▸ rfl⟩)
  rw [if_neg h12]
  by_cases h8 : c = 8
  · rw [if_pos h8]
    exact Or.inr (Or.inl ⟨CodePoint.ofChar 'b', rfl, by decide, h8 ▸ rfl⟩)
  rw [if_neg h8]
  by_cases hplain : (decide (0x20 ≤ c.val) && decide (c.val ≤ 0x7E)) = true
  · rw [if_pos hplain]
    rw [Bool.and_eq_true, decide_eq_true_iff, decide_eq_true_iff] at hplain
    exact Or.inl ⟨rfl, hquote, hbackslash, hplain⟩
  rw [if_neg hplain]
  by_cases hsmall : c.val < 0x10000
  · rw [if_pos hsmall]
    exact Or.inr (Or.inr (Or.inl ⟨rfl, hsmall⟩))
  · rw [if_neg hsmall]
    exact Or.inr (Or.inr (Or.inr ⟨rfl, Nat.not_lt.1 hsmall⟩))

/-- What is written for a code point that does not end a pair is not taken for the end of one. -/
theorem lowHalf?_writePoint {c : CodePoint} (hc : isLow c.val = false) (x : CodePoint) (r : Text) :
    lowHalf? (writePoint c ++ x :: r) = .ok none := by
  rcases writePoint_cases c with ⟨hw, -, hbackslash, -⟩ | ⟨e, hw, he, -⟩ | ⟨hw, hlt⟩ | ⟨hw, hge⟩
  · rw [hw, lowHalf?.eq_2]
    intro a b d e f r' heq
    exact absurd (List.cons.inj heq).1 hbackslash
  · rw [hw, lowHalf?.eq_2]
    intro a b d f g r' heq
    exact absurd (List.cons.inj (List.cons.inj heq).2).1 he
  · rw [hw, lowHalf?_unicodeEscape hlt, hc]
    rfl
  · have hhigh : isLow (0xD800 + (c.val - 0x10000) / 0x400) = false := by
      have := c.isLt
      simp only [isLow, Bool.and_eq_false_iff, decide_eq_false_iff_not]
      omega
    obtain ⟨y, ys, hys⟩ : ∃ y ys, unicodeEscape (0xDC00 + (c.val - 0x10000) % 0x400) ++ x :: r = y :: ys :=
      ⟨92, _, rfl⟩
    rw [hw, List.append_assoc, hys, lowHalf?_unicodeEscape (by have := c.isLt; omega), hhigh]
    rfl

theorem lowHalf?_quote (r : Text) : lowHalf? (34 :: r) = .ok none := by
  rw [lowHalf?.eq_2]
  intro a b d e f r' heq
  exact absurd (List.cons.inj heq).1 (by decide)

/-! ## Reading back -/

section
variable {opening s : Text} {c : CodePoint} {x : CodePoint} {r r' : Text}

/-- An escape of a number that is not joined to what follows. -/
theorem readString_unicodeEscape {n : Nat} (hn : n < 0x10000)
    (hpair : isHigh n = true → lowHalf? (x :: r) = .ok none) (h : readString opening (x :: r) = .ok (s, r')) :
    readString opening (unicodeEscape n ++ x :: r) = .ok (CodePoint.ofNat n :: s, r') := by
  have hnone : (if isHigh n = true then lowHalf? (x :: r) else .ok none) = .ok none := by
    by_cases hhigh : isHigh n = true
    · rw [if_pos hhigh, hpair hhigh]
    · rw [if_neg hhigh]
  rw [unicodeEscape_append hn, readString.eq_4, hex4?_hexDigits hn]
  dsimp only
  split
  next hlow => cases hnone.symm.trans hlow
  next => rw [h]; rfl
  next hlow => cases hnone.symm.trans hlow

/-- Two escapes that are joined. -/
theorem readString_pair {high low : Nat} (hhigh : isHigh high = true) (hlow : isLow low = true)
    (h : readString opening (x :: r) = .ok (s, r')) :
    readString opening (unicodeEscape high ++ (unicodeEscape low ++ x :: r)) =
      .ok (joinPair high low :: s, r') := by
  have hhigh' : high < 0x10000 := by simp [isHigh] at hhigh; omega
  have hlow' : low < 0x10000 := by simp [isLow] at hlow; omega
  have hsome : (if isHigh high = true then lowHalf? (unicodeEscape low ++ x :: r) else .ok none) =
      .ok (some (low, x :: r)) := by
    rw [if_pos hhigh, lowHalf?_unicodeEscape hlow', if_pos hlow]
  obtain ⟨ys, hys⟩ : ∃ ys, unicodeEscape low ++ x :: r = 92 :: ys := ⟨_, rfl⟩
  rw [hys] at hsome ⊢
  rw [unicodeEscape_append hhigh', readString.eq_4, hex4?_hexDigits hhigh']
  dsimp only
  split
  next hjoined => cases hsome.symm.trans hjoined
  next hjoined => cases hsome.symm.trans hjoined
  next m u hjoined =>
    cases hsome.symm.trans hjoined
    rw [h]
    rfl

/-- What is written for a code point is read back, unless it is joined to what follows. -/
theorem readString_writePoint (hpair : isHigh c.val = true → lowHalf? (x :: r) = .ok none)
    (h : readString opening (x :: r) = .ok (s, r')) :
    readString opening (writePoint c ++ x :: r) = .ok (c :: s, r') := by
  rcases writePoint_cases c with ⟨hw, hquote, hbackslash, hge, -⟩ | ⟨e, hw, he, hsimple⟩ | ⟨hw, hlt⟩ | ⟨hw, hge⟩
  · rw [hw, List.singleton_append, readString.eq_6 _ _ _ hquote (fun h _ => hbackslash h)
      (fun _ _ _ _ _ _ h _ => hbackslash h) (fun _ _ h _ => hbackslash h), if_neg (Nat.not_lt.2 hge), h]
    rfl
  · rw [hw, List.cons_append, List.singleton_append,
      readString.eq_5 _ _ _ (fun _ _ _ _ _ _ h _ => he h), if_neg he, hsimple, h]
    rfl
  · rw [hw, readString_unicodeEscape hlt hpair h, CodePoint.ofNat, dif_pos c.isLt]
  · have hlt := c.isLt
    have hhigh : isHigh (0xD800 + (c.val - 0x10000) / 0x400) = true := by
      simp only [isHigh, Bool.and_eq_true, decide_eq_true_iff]
      omega
    have hlow : isLow (0xDC00 + (c.val - 0x10000) % 0x400) = true := by
      simp only [isLow, Bool.and_eq_true, decide_eq_true_iff]
      omega
    have hjoin : joinPair (0xD800 + (c.val - 0x10000) / 0x400) (0xDC00 + (c.val - 0x10000) % 0x400) = c := by
      have hval : 0x10000 + (0xD800 + (c.val - 0x10000) / 0x400 - 0xD800) * 0x400 +
          (0xDC00 + (c.val - 0x10000) % 0x400 - 0xDC00) = c.val := by omega
      rw [joinPair, hval, CodePoint.ofNat, dif_pos hlt]
    rw [hw, List.append_assoc, readString_pair hhigh hlow h, hjoin]

/-- A text is read back from a string. -/
theorem readString_flatMap_writePoint {t : Text} (ht : t.IsUnpaired) (r : Text) :
    readString opening (t.flatMap writePoint ++ 34 :: r) = .ok (t, r) := by
  induction t with
  | nil => rw [List.flatMap_nil, List.nil_append, readString.eq_2]
  | cons c t ih =>
    obtain ⟨hfirst, hrest⟩ := Text.isUnpaired_cons_iff.1 ht
    have hpair (hhigh : isHigh c.val = true) : lowHalf? (t.flatMap writePoint ++ 34 :: r) = .ok none := by
      cases t with
      | nil => exact lowHalf?_quote r
      | cons d t =>
        obtain ⟨x, u, hu⟩ : ∃ x u, t.flatMap writePoint ++ 34 :: r = x :: u :=
          List.exists_cons_of_ne_nil (by simp)
        rw [List.flatMap_cons, List.append_assoc, hu]
        exact lowHalf?_writePoint (hfirst hhigh d rfl) x u
    obtain ⟨x, u, hu⟩ : ∃ x u, t.flatMap writePoint ++ 34 :: r = x :: u :=
      List.exists_cons_of_ne_nil (by simp)
    rw [List.flatMap_cons, List.append_assoc]
    rw [hu] at hpair ih ⊢
    exact readString_writePoint hpair (ih hrest)

end

/-! ## Digits -/

/-- No number goes on at the head of the text. -/
def EndsNumber (t : Text) : Prop := ∀ c ∈ t.head?, c.isAsciiDigit = false ∧ c ≠ 46 ∧ c ≠ 101 ∧ c ≠ 69

theorem endsNumber_nil : EndsNumber [] := nofun

theorem endsNumber_cons {c : CodePoint} (h : c.isAsciiDigit = false) (hpoint : c ≠ 46) (he : c ≠ 101)
    (hE : c ≠ 69) (t : Text) : EndsNumber (c :: t) := by
  intro d hd
  cases hd
  exact ⟨h, hpoint, he, hE⟩

theorem isAsciiDigit_ofChar {c : Char} (h : c.isDigit = true) : (CodePoint.ofChar c).isAsciiDigit = true := by
  have hc : 48 ≤ c.toNat ∧ c.toNat ≤ 57 := by
    simpa [Char.isDigit, UInt32.le_iff_toNat_le] using h
  exact Bool.and_eq_true_iff.2 ⟨decide_eq_true hc.1, decide_eq_true hc.2⟩

theorem isAsciiDigit_of_mem_ofNat {n : Nat} {c : CodePoint} (h : c ∈ Text.ofNat n) : c.isAsciiDigit = true := by
  obtain ⟨x, hx, rfl⟩ := List.mem_map.1 h
  exact isAsciiDigit_ofChar (Nat.isDigit_of_mem_toDigits (by decide) (by decide) hx)

theorem valueOf_ofNat (n : Nat) : Numeral.valueOf ((Text.ofNat n).map fun c => c.val - 48) = n :=
  Numeral.valueOf_map_ofNat (fun _ _ => rfl) n

/-- A number that is not zero does not begin with a zero. -/
theorem head?_toDigits_ne {n : Nat} (h : 0 < n) : (Nat.toDigits 10 n).head? ≠ some '0' := by
  induction n using Nat.strongRecOn with
  | _ n ih =>
    rw [Nat.toDigits_eq_if (by decide)]
    by_cases hlt : n < 10
    · have hdigit : ∀ d : Fin 10, d.val ≠ 0 → Nat.digitChar d.val ≠ '0' := by decide
      rw [if_pos hlt, List.head?_cons, Ne, Option.some.injEq]
      exact hdigit ⟨n, hlt⟩ (Nat.ne_of_gt h)
    · have hrest := ih (n / 10) (by omega) (by omega)
      obtain ⟨x, xs, hxs⟩ := List.exists_cons_of_ne_nil (Nat.toDigits_ne_nil (b := 10) (n := n / 10))
      rw [if_neg hlt, hxs, List.cons_append, List.head?_cons]
      rwa [hxs, List.head?_cons] at hrest

theorem digitsOf_append {ds r : Text} (hds : ∀ c ∈ ds, c.isAsciiDigit = true) (hr : EndsNumber r) :
    digitsOf (ds ++ r) = (ds.map fun c => c.val - 48, r) := by
  have hstop : r.takeWhile CodePoint.isAsciiDigit = [] ∧ r.dropWhile CodePoint.isAsciiDigit = r := by
    cases r with
    | nil => exact ⟨rfl, rfl⟩
    | cons c r =>
      have hc := (hr c rfl).1
      exact ⟨List.takeWhile_cons_of_neg (by simp [hc]), List.dropWhile_cons_of_neg (by simp [hc])⟩
  rw [digitsOf, List.takeWhile_append_of_pos hds, List.dropWhile_append_of_pos hds, hstop.1, hstop.2,
    List.append_nil]

theorem readWhole_ofNat (n : Nat) {r : Text} (hr : EndsNumber r) :
    readWhole (Text.ofNat n ++ r) = some ((Text.ofNat n).map fun c => c.val - 48, r) := by
  rcases Nat.eq_zero_or_pos n with rfl | hpos
  · rfl
  · obtain ⟨x, xs, hxs⟩ := List.exists_cons_of_ne_nil (Nat.toDigits_ne_nil (b := 10) (n := n))
    have hhead : CodePoint.ofChar x ≠ 48 := by
      intro h
      refine head?_toDigits_ne hpos ?_
      have hval : x.toNat = '0'.toNat := congrArg (fun c : CodePoint => c.val) h
      rw [hxs, List.head?_cons, Char.toNat_inj.1 hval]
    have htext : Text.ofNat n = CodePoint.ofChar x :: xs.map CodePoint.ofChar := by rw [Text.ofNat, hxs, List.map_cons]
    have hdigit : (CodePoint.ofChar x).isAsciiDigit = true :=
      isAsciiDigit_of_mem_ofNat (htext ▸ List.mem_cons_self)
    rw [← digitsOf_append (fun c hc => isAsciiDigit_of_mem_ofNat hc) hr, htext, List.cons_append,
      readWhole.eq_2 _ _ hhead, if_pos hdigit]

/-! ## Numbers -/

theorem readPlaces_of_ends {r : Text} (hr : EndsNumber r) : readPlaces r = (none, r) := by
  refine readPlaces.eq_2 r fun c r' h => ?_
  subst h
  exact (hr 46 rfl).2.1 rfl

theorem readExponent_of_ends {r : Text} (hr : EndsNumber r) : readExponent r = (none, r) := by
  cases r with
  | nil => rfl
  | cons c r =>
    obtain ⟨-, -, he, hE⟩ := hr c rfl
    simp [readExponent, he, hE]

/-- The digits of an integer are read back. -/
theorem readNumber_ofInt {n : Int} (hn : n.natAbs < 10 ^ Numeral.digitLimit) {r : Text} (hr : EndsNumber r) :
    readNumber (Text.ofInt n ++ r) = .ok (.int n, r) := by
  have hlength (m : Nat) (hm : m < 10 ^ Numeral.digitLimit) :
      ¬ Numeral.digitLimit < ((Text.ofNat m).map fun c => c.val - 48).length := by
    rw [List.length_map]
    exact Nat.not_lt.2 (Numeral.isDecimal_ofNat hm).length_le
  cases n with
  | ofNat n =>
    have hminus : ∀ r', Text.ofNat n ++ r ≠ 45 :: r' := by
      intro r' h
      obtain ⟨c, t, ht⟩ := List.exists_cons_of_ne_nil (Numeral.isDecimal_ofNat hn).ne_nil
      have hdigit : c.isAsciiDigit = true := isAsciiDigit_of_mem_ofNat (ht ▸ List.mem_cons_self)
      have hhead : Text.ofNat n ++ r = c :: (t ++ r) := congrArg (· ++ r) ht
      obtain rfl : c = 45 := (List.cons.inj (hhead.symm.trans h)).1
      exact absurd hdigit (by decide)
    rw [Text.ofInt, readNumber.eq_2 _ hminus, readWhole_ofNat n hr]
    simp only [readPlaces_of_ends hr, readExponent_of_ends hr, valueOf_ofNat]
    rw [if_neg (hlength n hn)]
    rfl
  | negSucc n =>
    have hhead : CodePoint.ofChar '-' :: Text.ofNat (n + 1) ++ r = 45 :: (Text.ofNat (n + 1) ++ r) := rfl
    rw [Text.ofInt, hhead, readNumber.eq_1, readWhole_ofNat (n + 1) hr]
    simp only [readPlaces_of_ends hr, readExponent_of_ends hr, valueOf_ofNat]
    rw [if_neg (hlength (n + 1) hn)]
    rfl

end Json

end ShellCoverage
