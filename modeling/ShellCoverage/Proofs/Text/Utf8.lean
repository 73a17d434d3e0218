import Mathlib.Data.List.Basic
import ShellCoverage.Text.Utf8

/-!
# Bytes and their text

* `read_eq_scalar` : a character that is read is written by the bytes it was read from;
* `read_encode` : what is written for a character is read as it;
* `toBytes?_ofBytes` : the text of any bytes has these bytes;
* `ofBytes_append_cons` : an ASCII byte starts a new character, whatever stands before it;
* `mem_toBytes?_iff` : the ASCII characters of a text are the ASCII bytes of its bytes.
-/

namespace ShellCoverage.Utf8

/-- The character that a reading found and the number of further bytes it takes. -/
def Head.scalar? : Head → Option (CodePoint × Nat)
  | .scalar c extra => some (c, extra)
  | .illFormed _ _ => none

theorem ofNat_val {n : Nat} (h : n < 0x110000) : (CodePoint.ofNat n).val = n := by
  rw [CodePoint.ofNat, dif_pos h]

theorem isSecond_iff {b s : UInt8} :
    isSecond b s = true ↔ (secondRange b).1.toNat ≤ s.toNat ∧ s.toNat ≤ (secondRange b).2.toNat := by
  simp [isSecond, UInt8.le_iff_toNat_le]

theorem isTail_iff {b : UInt8} : isTail b = true ↔ 0x80 ≤ b.toNat ∧ b.toNat ≤ 0xBF := by
  simp [isTail, UInt8.le_iff_toNat_le]

/-- A second byte continues a character, and it is in the narrower range of the first bytes that have
one. -/
theorem isSecond_bounds {b s : UInt8} (h : isSecond b s = true) :
    0x80 ≤ s.toNat ∧ s.toNat ≤ 0xBF ∧ (b.toNat = 0xE0 → 0xA0 ≤ s.toNat) ∧
      (b.toNat = 0xED → s.toNat ≤ 0x9F) ∧ (b.toNat = 0xF0 → 0x90 ≤ s.toNat) ∧
      (b.toNat = 0xF4 → s.toNat ≤ 0x8F) := by
  rw [isSecond_iff, secondRange] at h
  simp only [← UInt8.toNat_inj] at h
  simp only [UInt8.reduceToNat] at h
  split_ifs at h <;> simp only [UInt8.reduceToNat] at h <;> omega

theorem isSecond_of_bounds {b s : UInt8} (h : 0x80 ≤ s.toNat ∧ s.toNat ≤ 0xBF)
    (hE0 : b.toNat = 0xE0 → 0xA0 ≤ s.toNat) (hED : b.toNat = 0xED → s.toNat ≤ 0x9F)
    (hF0 : b.toNat = 0xF0 → 0x90 ≤ s.toNat) (hF4 : b.toNat = 0xF4 → s.toNat ≤ 0x8F) : isSecond b s = true := by
  rw [isSecond_iff, secondRange]
  simp only [← UInt8.toNat_inj, UInt8.reduceToNat]
  split_ifs <;> simp only [UInt8.reduceToNat] <;> omega

/-! ## Characters -/

theorem encode_two {n : Nat} {b s : UInt8} (hn : n = b.toNat % 32 * 64 + tailBits s)
    (hb : 0xC2 ≤ b.toNat ∧ b.toNat < 0xE0) (hs : 0x80 ≤ s.toNat ∧ s.toNat ≤ 0xBF) :
    encode (.ofNat n) = [b, s] ∧ (CodePoint.ofNat n).isSurrogate = false := by
  rw [tailBits] at hn
  have hval := ofNat_val (n := n) (by omega)
  refine ⟨?_, ?_⟩
  · rw [encode, hval, if_neg (by omega), if_pos (by omega)]
    congr 1
    · rw [← UInt8.toNat_inj, UInt8.toNat_ofNat']
      omega
    · congr 1
      rw [← UInt8.toNat_inj, UInt8.toNat_ofNat']
      omega
  · rw [CodePoint.isSurrogate, hval]
    simp only [Bool.and_eq_false_iff, decide_eq_false_iff_not]
    omega

theorem encode_three {n : Nat} {b s t : UInt8}
    (hn : n = (b.toNat % 16 * 64 + tailBits s) * 64 + tailBits t)
    (hb : 0xE0 ≤ b.toNat ∧ b.toNat < 0xF0) (hs : isSecond b s = true) (ht : isTail t = true) :
    encode (.ofNat n) = [b, s, t] ∧ (CodePoint.ofNat n).isSurrogate = false := by
  rw [tailBits, tailBits] at hn
  obtain ⟨hs1, hs2, hE0, hED, -, -⟩ := isSecond_bounds hs
  rw [isTail_iff] at ht
  have hlow : 0x800 ≤ n := by omega
  have hval := ofNat_val (n := n) (by omega)
  refine ⟨?_, ?_⟩
  · rw [encode, hval, if_neg (by omega), if_neg (by omega), if_pos (by omega)]
    simp only [List.cons.injEq, and_true, ← UInt8.toNat_inj, UInt8.toNat_ofNat']
    omega
  · rw [CodePoint.isSurrogate, hval]
    simp only [Bool.and_eq_false_iff, decide_eq_false_iff_not]
    omega

theorem encode_four {n : Nat} {b s t u : UInt8}
    (hn : n = ((b.toNat % 8 * 64 + tailBits s) * 64 + tailBits t) * 64 + tailBits u)
    (hb : 0xF0 ≤ b.toNat ∧ b.toNat ≤ 0xF4) (hs : isSecond b s = true) (ht : isTail t = true)
    (hu : isTail u = true) :
    encode (.ofNat n) = [b, s, t, u] ∧ (CodePoint.ofNat n).isSurrogate = false := by
  rw [tailBits, tailBits, tailBits] at hn
  obtain ⟨hs1, hs2, -, -, hF0, hF4⟩ := isSecond_bounds hs
  rw [isTail_iff] at ht hu
  have hlow : 0x10000 ≤ n := by omega
  have hval := ofNat_val (n := n) (by omega)
  refine ⟨?_, ?_⟩
  · rw [encode, hval, if_neg (by omega), if_neg (by omega), if_neg (by omega)]
    simp only [List.cons.injEq, and_true, ← UInt8.toNat_inj, UInt8.toNat_ofNat']
    omega
  · rw [CodePoint.isSurrogate, hval]
    simp only [Bool.and_eq_false_iff, decide_eq_false_iff_not]
    omega

/-- A character that is read is written by the bytes it was read from. -/
theorem read_eq_scalar {b : UInt8} {rest : Bytes} {c : CodePoint} {extra : Nat}
    (h : read b rest = .scalar c extra) :
    encode c = b :: rest.take extra ∧ extra ≤ rest.length ∧ c.isSurrogate = false := by
  rw [read.eq_def] at h
  split at h
  · -- one byte
    rename_i hb
    cases h
    have hb' : b.toNat < 0x80 := UInt8.lt_iff_toNat_lt.1 hb
    have hval := ofNat_val (n := b.toNat) (by omega)
    refine ⟨?_, Nat.zero_le _, ?_⟩
    · rw [encode, hval, if_pos hb', UInt8.ofNat_toNat]
      rfl
    · rw [CodePoint.isSurrogate, hval]
      simp only [Bool.and_eq_false_iff, decide_eq_false_iff_not]
      omega
  split at h
  · cases h
  rename_i hrange
  simp only [Bool.or_eq_true, decide_eq_true_eq, not_or, UInt8.lt_iff_toNat_lt, UInt8.reduceToNat,
    Nat.not_lt] at hrange
  split at h
  · cases h
  rename_i s rest
  split at h
  · cases h
  rename_i hs
  rw [Bool.not_eq_true', Bool.not_eq_false] at hs
  split at h
  · -- two bytes
    rename_i hb
    cases h
    rw [UInt8.lt_iff_toNat_lt] at hb
    obtain ⟨hs1, hs2, -⟩ := isSecond_bounds hs
    obtain ⟨henc, hsur⟩ := encode_two (b := b) (s := s) rfl ⟨hrange.1, hb⟩ ⟨hs1, hs2⟩
    exact ⟨by rw [henc]; rfl, by simp, hsur⟩
  rename_i hE0
  rw [UInt8.lt_iff_toNat_lt, Nat.not_lt] at hE0
  split at h
  · cases h
  rename_i t rest
  split at h
  · cases h
  rename_i ht
  rw [Bool.not_eq_true', Bool.not_eq_false] at ht
  split at h
  · -- three bytes
    rename_i hb
    cases h
    rw [UInt8.lt_iff_toNat_lt] at hb
    obtain ⟨henc, hsur⟩ := encode_three (b := b) (s := s) (t := t) rfl ⟨hE0, hb⟩ hs ht
    exact ⟨by rw [henc]; rfl, by simp, hsur⟩
  rename_i hF0
  rw [UInt8.lt_iff_toNat_lt, Nat.not_lt] at hF0
  split at h
  · cases h
  rename_i u rest
  split at h
  · cases h
  rename_i hu
  rw [Bool.not_eq_true', Bool.not_eq_false] at hu
  -- four bytes
  cases h
  obtain ⟨henc, hsur⟩ := encode_four (b := b) (s := s) (t := t) (u := u) rfl ⟨hF0, hrange.2⟩ hs ht hu
  exact ⟨by rw [henc]; rfl, by simp, hsur⟩

theorem read_of_lt {b : UInt8} (h : b < 0x80) (rest : Bytes) :
    read b rest = .scalar (.ofNat b.toNat) 0 := by rw [read.eq_def, if_pos h]

section
variable {b s t u : UInt8} {rest : Bytes}

theorem read_two (hb : 0xC2 ≤ b.toNat ∧ b.toNat < 0xE0) (hs : isSecond b s = true) :
    read b (s :: rest) = .scalar (.ofNat (b.toNat % 32 * 64 + tailBits s)) 1 := by
  rw [read.eq_def]
  simp only [UInt8.lt_iff_toNat_lt, UInt8.reduceToNat, hs, Bool.not_true, Bool.false_eq_true, if_false, Bool.or_eq_true,
    decide_eq_true_eq]
  rw [if_neg (by omega), if_neg (by omega), if_pos hb.2]

theorem read_three (hb : 0xE0 ≤ b.toNat ∧ b.toNat < 0xF0) (hs : isSecond b s = true) (ht : isTail t = true) :
    read b (s :: t :: rest) = .scalar (.ofNat ((b.toNat % 16 * 64 + tailBits s) * 64 + tailBits t)) 2 := by
  rw [read.eq_def]
  simp only [UInt8.lt_iff_toNat_lt, UInt8.reduceToNat, hs, ht, Bool.not_true, Bool.false_eq_true, if_false,
    Bool.or_eq_true, decide_eq_true_eq]
  rw [if_neg (by omega), if_neg (by omega), if_neg (by omega), if_pos hb.2]

theorem read_four (hb : 0xF0 ≤ b.toNat ∧ b.toNat ≤ 0xF4) (hs : isSecond b s = true) (ht : isTail t = true)
    (hu : isTail u = true) :
    read b (s :: t :: u :: rest) =
      .scalar (.ofNat (((b.toNat % 8 * 64 + tailBits s) * 64 + tailBits t) * 64 + tailBits u)) 3 := by
  rw [read.eq_def]
  simp only [UInt8.lt_iff_toNat_lt, UInt8.reduceToNat, hs, ht, hu, Bool.not_true, Bool.false_eq_true, if_false,
    Bool.or_eq_true, decide_eq_true_eq]
  rw [if_neg (by omega), if_neg (by omega), if_neg (by omega), if_neg (by omega)]

end

/-- What is written for a character is read as it. -/
theorem read_encode {c : CodePoint} (hc : c.isSurrogate = false) (rest : Bytes) :
    ∃ b more, encode c = b :: more ∧ read b (more ++ rest) = .scalar c more.length := by
  have hpoint : CodePoint.ofNat c.val = c := by rw [CodePoint.ofNat, dif_pos c.isLt]
  have hlt := c.isLt
  rw [CodePoint.isSurrogate] at hc
  simp only [Bool.and_eq_false_iff, decide_eq_false_iff_not] at hc
  have hbyte {n : Nat} (hn : n < 256) : (UInt8.ofNat n).toNat = n := by
    rw [UInt8.toNat_ofNat', Nat.mod_eq_of_lt hn]
  have htail (n : Nat) : isTail (.ofNat (0x80 + n % 64)) = true ∧ tailBits (.ofNat (0x80 + n % 64)) = n % 64 := by
    have hs := hbyte (n := 0x80 + n % 64) (by omega)
    rw [isTail_iff, tailBits, hs]
    omega
  rw [encode]
  split_ifs with hone htwo hthree
  · refine ⟨_, _, rfl, ?_⟩
    have hb := hbyte (n := c.val) (by omega)
    rw [read_of_lt (UInt8.lt_iff_toNat_lt.2 (by rw [hb]; exact hone)), hb, hpoint]
    rfl
  · refine ⟨_, _, rfl, ?_⟩
    have hb := hbyte (n := 0xC0 + c.val / 64) (by omega)
    have hs := hbyte (n := 0x80 + c.val % 64) (by omega)
    have hvalue : (0xC0 + c.val / 64) % 32 * 64 + c.val % 64 = c.val := by omega
    rw [List.singleton_append, read_two (by omega) (by apply isSecond_of_bounds <;> omega), hb, (htail _).2, hvalue,
      hpoint]
    rfl
  · refine ⟨_, _, rfl, ?_⟩
    have hb := hbyte (n := 0xE0 + c.val / 4096) (by omega)
    have hs := hbyte (n := 0x80 + c.val / 64 % 64) (by omega)
    have hvalue : ((0xE0 + c.val / 4096) % 16 * 64 + c.val / 64 % 64) * 64 + c.val % 64 = c.val := by omega
    rw [List.cons_append, List.singleton_append, read_three (by omega) (by apply isSecond_of_bounds <;> omega) (htail _).1,
      hb, (htail _).2, (htail _).2, hvalue, hpoint]
    rfl
  · refine ⟨_, _, rfl, ?_⟩
    have hb := hbyte (n := 0xF0 + c.val / 262144) (by omega)
    have hs := hbyte (n := 0x80 + c.val / 4096 % 64) (by omega)
    have hvalue : (((0xF0 + c.val / 262144) % 8 * 64 + c.val / 4096 % 64) * 64 + c.val / 64 % 64) * 64 + c.val % 64 =
        c.val := by omega
    rw [List.cons_append, List.cons_append, List.singleton_append, read_four (by omega)
      (by apply isSecond_of_bounds <;> omega) (htail _).1 (htail _).1, hb, (htail _).2, (htail _).2, (htail _).2, hvalue,
      hpoint]
    rfl

/-- What stands at the head of some bytes does not depend on an ASCII byte behind them. -/
theorem scalar?_read_append {b x : UInt8} (hx : x < 0x80) (rest more : Bytes) :
    (read b (rest ++ x :: more)).scalar? = (read b rest).scalar? := by
  have hx' : x.toNat < 0x80 := UInt8.lt_iff_toNat_lt.1 hx
  have hsecond : isSecond b x = false := by
    rw [← Bool.not_eq_true]
    intro h
    have := (isSecond_bounds h).1
    omega
  have htail : isTail x = false := by
    rw [← Bool.not_eq_true, isTail_iff]
    omega
  simp only [read]
  rcases rest with _ | ⟨s, _ | ⟨t, _ | ⟨u, rest⟩⟩⟩ <;>
    simp only [List.nil_append, List.cons_append, hsecond, htail, Bool.not_false, if_true] <;>
    split_ifs <;> rfl

end ShellCoverage.Utf8

namespace ShellCoverage.Text
open Utf8

/-! ## Texts of bytes -/

theorem ofBytes_cons (b : UInt8) (rest : Bytes) :
    ofBytes (b :: rest) =
      match (read b rest).scalar? with
      | some (c, extra) => c :: ofBytes (rest.drop extra)
      | none => escape b :: ofBytes rest := by
  rw [ofBytes]
  cases read b rest <;> rfl

theorem ofBytes_cons_of_ascii {x : UInt8} (hx : x < 0x80) (rest : Bytes) :
    ofBytes (x :: rest) = .ofNat x.toNat :: ofBytes rest := by
  rw [ofBytes_cons, read_of_lt hx]
  rfl

/-- A byte outside every character is not an ASCII byte. -/
theorem le_of_scalar?_eq_none {b : UInt8} {rest : Bytes} (h : (read b rest).scalar? = none) :
    0x80 ≤ b.toNat := by
  by_contra hb
  rw [read_of_lt (UInt8.lt_iff_toNat_lt.2 (by simpa using hb))] at h
  cases h

theorem scalar?_eq_some {b : UInt8} {rest : Bytes} {c : CodePoint} {extra : Nat}
    (h : (read b rest).scalar? = some (c, extra)) :
    encode c = b :: rest.take extra ∧ extra ≤ rest.length ∧ c.isSurrogate = false := by
  cases hr : read b rest with
  | scalar c' extra' =>
    rw [hr] at h
    cases h
    exact read_eq_scalar hr
  | illFormed why n =>
    rw [hr] at h
    cases h

/-- An ASCII byte starts a new character, whatever stands before it. -/
theorem ofBytes_append_cons {x : UInt8} (hx : x < 0x80) (a more : Bytes) :
    ofBytes (a ++ x :: more) = ofBytes a ++ ofBytes (x :: more) := by
  obtain ⟨n, hn⟩ : ∃ n, a.length = n := ⟨_, rfl⟩
  induction n using Nat.strongRecOn generalizing a with
  | ind n ih =>
    cases a with
    | nil => simp [ofBytes]
    | cons b a =>
      rw [List.cons_append, ofBytes_cons, ofBytes_cons, scalar?_read_append hx]
      cases hs : (read b a).scalar? with
      | none => simpa using ih a.length (hn ▸ Nat.lt_succ_self _) a rfl
      | some p =>
        obtain ⟨c, extra⟩ := p
        have hle := (scalar?_eq_some hs).2.1
        dsimp only
        rw [List.drop_append_of_le_length hle, List.cons_append]
        simpa using ih (a.drop extra).length (by simp at hn ⊢; omega) (a.drop extra) rfl

theorem unescape?_escape {b : UInt8} (h : 0x80 ≤ b.toNat) : unescape? (escape b) = some b := by
  have hb := b.toNat_lt
  have hval := ofNat_val (n := 0xDC00 + b.toNat) (by omega)
  rw [unescape?, escape, hval, if_pos (by simp; omega), Nat.add_sub_cancel_left, UInt8.ofNat_toNat]

theorem unescape?_of_not_isSurrogate {c : CodePoint} (h : c.isSurrogate = false) :
    unescape? c = none := by
  rw [CodePoint.isSurrogate] at h
  simp only [Bool.and_eq_false_iff, decide_eq_false_iff_not] at h
  rw [unescape?, if_neg (by simp; omega)]

/-- The text of any bytes has these bytes. -/
theorem toBytes?_ofBytes (bs : Bytes) : toBytes? (ofBytes bs) = some bs := by
  obtain ⟨n, hn⟩ : ∃ n, bs.length = n := ⟨_, rfl⟩
  induction n using Nat.strongRecOn generalizing bs with
  | ind n ih =>
    cases bs with
    | nil => simp [ofBytes, toBytes?]
    | cons b rest =>
      rw [ofBytes_cons]
      cases hs : (read b rest).scalar? with
      | none =>
        simp only [toBytes?, unescape?_escape (le_of_scalar?_eq_none hs)]
        rw [ih rest.length (hn ▸ Nat.lt_succ_self _) rest rfl]
        rfl
      | some p =>
        obtain ⟨c, extra⟩ := p
        obtain ⟨henc, hle, hsur⟩ := scalar?_eq_some hs
        simp only [toBytes?, unescape?_of_not_isSurrogate hsur, hsur]
        rw [ih (rest.drop extra).length (by simp at hn ⊢; omega) (rest.drop extra) rfl]
        simp [henc, List.take_append_drop]

/-! ## Bytes of texts -/

/-- The bytes of one code point; a surrogate that stands for no byte has none. -/
def bytes? (c : CodePoint) : Option Bytes :=
  match unescape? c with
  | some b => some [b]
  | none => if c.isSurrogate then none else some (encode c)

theorem toBytes?_cons (c : CodePoint) (t : Text) :
    toBytes? (c :: t) = (bytes? c).bind fun h => (toBytes? t).map (h ++ ·) := by
  rw [toBytes?, bytes?]
  cases unescape? c with
  | some b => rfl
  | none => cases c.isSurrogate <;> rfl

theorem toBytes?_cons_eq_some {c : CodePoint} {t : Text} {bs : Bytes} :
    toBytes? (c :: t) = some bs ↔ ∃ h r, bytes? c = some h ∧ toBytes? t = some r ∧ bs = h ++ r := by
  rw [toBytes?_cons]
  cases bytes? c <;> cases toBytes? t <;> simp [eq_comm]

theorem bytes?_of_ascii {c : CodePoint} (h : c.val < 0x80) : bytes? c = some [.ofNat c.val] := by
  have hun : unescape? c = none := by rw [unescape?, if_neg (by simp; omega)]
  have hsur : c.isSurrogate = false := by
    rw [CodePoint.isSurrogate]
    simp only [Bool.and_eq_false_iff, decide_eq_false_iff_not]
    omega
  simp only [bytes?, hun, hsur, encode, if_pos h, Bool.false_eq_true, if_false]

/-- A code point beyond ASCII has bytes, all of them beyond ASCII. -/
theorem bytes?_of_not_ascii {c : CodePoint} {bs : Bytes} (h : 0x80 ≤ c.val) (hbs : bytes? c = some bs) :
    bs ≠ [] ∧ ∀ b ∈ bs, 0x80 ≤ b.toNat := by
  have hc := c.isLt
  rw [bytes?, unescape?] at hbs
  by_cases hesc : 0xDC80 ≤ c.val ∧ c.val ≤ 0xDCFF
  · rw [if_pos (by simpa using hesc)] at hbs
    cases hbs
    simp only [ne_eq, List.cons_ne_nil, not_false_eq_true, List.mem_singleton, forall_eq, true_and,
      UInt8.toNat_ofNat']
    omega
  · rw [if_neg (by simpa using hesc)] at hbs
    simp only [Option.ite_none_left_eq_some] at hbs
    obtain ⟨-, hbs⟩ := hbs
    cases hbs
    simp only [encode]
    split_ifs <;>
      simp only [ne_eq, List.cons_ne_nil, not_false_eq_true, List.mem_cons, List.not_mem_nil, or_false,
        forall_eq_or_imp, forall_eq, true_and, UInt8.toNat_ofNat'] <;>
      omega

/-- The ASCII characters of a text are the ASCII bytes of its bytes. -/
theorem mem_toBytes?_iff {t : Text} {bs : Bytes} (h : toBytes? t = some bs) {c : CodePoint}
    (hc : c.val < 0x80) : UInt8.ofNat c.val ∈ bs ↔ c ∈ t := by
  induction t generalizing bs with
  | nil =>
    cases h
    simp
  | cons x t ih =>
    obtain ⟨a, r, hx, hr, rfl⟩ := toBytes?_cons_eq_some.1 h
    rw [List.mem_append, List.mem_cons, ih hr]
    refine or_congr_left ?_
    by_cases hlt : x.val < 0x80
    · rw [bytes?_of_ascii hlt] at hx
      cases hx
      rw [List.mem_singleton, ← UInt8.toNat_inj, UInt8.toNat_ofNat', UInt8.toNat_ofNat', Fin.ext_iff]
      omega
    · have hall := (bytes?_of_not_ascii (Nat.not_lt.1 hlt) hx).2
      constructor
      · intro hmem
        have := hall _ hmem
        rw [UInt8.toNat_ofNat'] at this
        omega
      · rintro rfl
        exact absurd hc hlt

theorem mem_ofBytes_iff {bs : Bytes} {c : CodePoint} (hc : c.val < 0x80) :
    c ∈ ofBytes bs ↔ UInt8.ofNat c.val ∈ bs :=
  (mem_toBytes?_iff (toBytes?_ofBytes bs) hc).symm

theorem ofBytes_ne_nil {bs : Bytes} (h : bs ≠ []) : ofBytes bs ≠ [] := by
  intro he
  have hbytes := toBytes?_ofBytes bs
  rw [he] at hbytes
  cases hbytes
  exact h rfl

end ShellCoverage.Text
