import ShellCoverage.Text.CharacterClass

/-!
# Code points and text

A text is a finite sequence of code points. Surrogates count as code points, so that every byte
sequence has a text (`Text.ofBytes` in `Text/Utf8`) and every escape of a data file has one too.

* `CodePoint`, `CodePoint.ofChar`, `CodePoint.ofNat` : a number below `0x110000`;
* `Text`, `Text.ofString` : sequences of them; ordered by code point, as lists are;
* `Text.trim`, `Text.trimRight`, `Text.splitAt`, `Text.splitOn`, `Text.join` : cutting and joining.
-/

namespace ShellCoverage

/-- A Unicode code point; surrogates are included. -/
abbrev CodePoint := Fin 0x110000

instance CodePoint.count_neZero : NeZero 0x110000 := ⟨by decide⟩

namespace CodePoint

theorem toNat_lt (c : Char) : c.toNat < 0x110000 := by
  have := c.valid
  simp only [UInt32.isValidChar, Nat.isValidChar] at this
  show c.val.toNat < 0x110000
  omega

/-- The code point of a character. -/
def ofChar (c : Char) : CodePoint := ⟨c.toNat, toNat_lt c⟩

instance : Coe Char CodePoint := ⟨ofChar⟩

/-- The code point of a number; numbers that are too large give the replacement character. -/
def ofNat (n : Nat) : CodePoint := if h : n < 0x110000 then ⟨n, h⟩ else 0xFFFD

/-- A code point that no character has. -/
def isSurrogate (c : CodePoint) : Bool := 0xD800 ≤ c.val && c.val ≤ 0xDFFF

/-- White space of any script. -/
def isBlank (c : CodePoint) : Bool := CharacterClass.inRanges CharacterClass.blankRanges c.val

/-- The value of a decimal digit of any script. -/
def decimalValue? (c : CodePoint) : Option Nat :=
  (CharacterClass.decimalRanges.find? fun r => r.1 ≤ c.val && c.val ≤ r.2).map fun r =>
    (c.val - r.1) % 10

/-- A decimal digit of any script. -/
def isDecimal (c : CodePoint) : Bool := CharacterClass.inRanges CharacterClass.decimalRanges c.val

/-- A digit in the wide sense: decimal digits, superscripts, circled digits. -/
def isDigit (c : CodePoint) : Bool :=
  c.isDecimal || CharacterClass.inRanges CharacterClass.otherDigitRanges c.val

/-- An ASCII letter. -/
def isAsciiLetter (c : CodePoint) : Bool :=
  (65 ≤ c.val && c.val ≤ 90) || (97 ≤ c.val && c.val ≤ 122)

/-- An ASCII digit. -/
def isAsciiDigit (c : CodePoint) : Bool := 48 ≤ c.val && c.val ≤ 57

/-- A character of a word: a letter or number of any script, or the underscore. -/
def isWord (c : CodePoint) : Bool :=
  c.isAsciiLetter || c.isAsciiDigit || c.val == 95 ||
    CharacterClass.inRanges CharacterClass.wordRanges c.val

/-- A code point with a visible form, or the space. -/
def isPrintable (c : CodePoint) : Bool :=
  !CharacterClass.inRanges CharacterClass.unprintableRanges c.val

end CodePoint

/-- A text: a sequence of code points. -/
abbrev Text := List CodePoint

namespace Text

/-- The text of a string. -/
def ofString (s : String) : Text := s.toList.map CodePoint.ofChar

instance : Coe String Text := ⟨ofString⟩

/-- The order by code point. -/
def le (a b : Text) : Bool := decide (a ≤ b)

/-- A text without the trailing part made of code points that satisfy `p`. -/
def trimRight (p : CodePoint → Bool) (t : Text) : Text := (t.reverse.dropWhile p).reverse

/-- A text without blanks at either end. -/
def trim (t : Text) : Text := trimRight CodePoint.isBlank (t.dropWhile CodePoint.isBlank)

/-- The end of `t` after `d`, if `t` starts with `d`. -/
def dropHead? : Text → Text → Option Text
  | [], t => some t
  | _ :: _, [] => none
  | c :: d, e :: t => if c = e then dropHead? d t else none

/-- The texts before and after the leftmost occurrence of `d`. -/
def cutFirst? (d : Text) : Text → Option (Text × Text)
  | [] => (dropHead? d []).map fun r => ([], r)
  | c :: t =>
    match dropHead? d (c :: t) with
    | some r => some ([], r)
    | none => (cutFirst? d t).map fun r => (c :: r.1, r.2)

theorem dropHead?_eq_some {d t r : Text} (h : dropHead? d t = some r) : t = d ++ r := by
  fun_induction dropHead? d t with
  | case1 => simp_all
  | case2 => simp at h
  | case3 d t e ih => simp [ih h]
  | case4 => simp at h

theorem cutFirst?_eq_some {d t a b : Text} (h : cutFirst? d t = some (a, b)) :
    t = a ++ d ++ b := by
  fun_induction cutFirst? d t generalizing a with
  | case1 =>
    obtain ⟨r, hr, he⟩ := Option.map_eq_some_iff.1 h
    cases he
    simpa using dropHead?_eq_some hr
  | case2 c t r hr =>
    cases h
    simpa using dropHead?_eq_some hr
  | case3 c t _ ih =>
    obtain ⟨⟨a', b'⟩, hr, he⟩ := Option.map_eq_some_iff.1 h
    cases he
    simp [ih hr]

/-- The text after the rightmost occurrence of `d`. -/
def afterLast? (d t : Text) : Option Text :=
  (cutFirst? d.reverse t.reverse).map fun p => p.1.reverse

/-- The pieces between the leftmost non-overlapping occurrences of `d`; the whole text if `d` is
empty. -/
def splitOn (d t : Text) : List Text :=
  if _hd : d = [] then [t]
  else
    match _h : cutFirst? d t with
    | none => [t]
    | some (a, b) => a :: splitOn d b
termination_by t.length
decreasing_by
  have := congrArg List.length (cutFirst?_eq_some _h)
  have := List.length_pos_iff.2 _hd
  simp at *
  omega

/-- The text holds `d`. -/
def contains (d t : Text) : Bool := (cutFirst? d t).isSome

/-- The lines of a text. Line feeds end lines, and so do the other line and paragraph separators; a
line that is not ended counts if it is not empty. -/
def lines : Text → List Text
  | [] => []
  | 13 :: 10 :: t => [] :: lines t
  | c :: t =>
    if isLineEnd c then [] :: lines t
    else
      match lines t with
      | [] => [[c]]
      | l :: ls => (c :: l) :: ls
where
  /-- A code point that ends a line. -/
  isLineEnd (c : CodePoint) : Bool :=
    (10 ≤ c.val && c.val ≤ 13) || (0x1C ≤ c.val && c.val ≤ 0x1E) || c = 0x85 || c = 0x2028 ||
      c = 0x2029
/-- The pieces between the occurrences of one code point. -/
def splitAt (c : CodePoint) : Text → List Text
  | [] => [[]]
  | x :: t =>
    if x = c then [] :: splitAt c t
    else
      match splitAt c t with
      | [] => [[x]]
      | p :: ps => (x :: p) :: ps

/-- The texts of a list with `sep` between them. -/
def join (sep : Text) (ts : List Text) : Text := List.intercalate sep ts

/-- The decimal digits of a number. -/
def ofNat (n : Nat) : Text := (Nat.toDigits 10 n).map CodePoint.ofChar

/-- A number in decimal, with a minus sign if it is negative. -/
def ofInt : Int → Text
  | .ofNat n => ofNat n
  | .negSucc n => CodePoint.ofChar '-' :: ofNat (n + 1)

/-- A number with at least `width` lower-case hexadecimal digits. -/
def hex (width n : Nat) : Text :=
  let ds := Nat.toDigits 16 n
  (List.replicate (width - ds.length) '0' ++ ds).map CodePoint.ofChar

end Text

end ShellCoverage
