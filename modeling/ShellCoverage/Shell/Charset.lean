import ShellCoverage.Shell.Regex.Reader
import ShellCoverage.Table
import ShellCoverage.Text.LetterCase
import ShellCoverage.Text.Utf8

/-!
# Character sets

How many bytes a character has depends on the locale. Lengths, parts of values, patterns and quotes go by
characters, so the bytes of a value are gathered into characters before such work and spread into bytes
after it. A byte that belongs to no character counts as one.

* `Charset` : the character sets; `Charset.ofLocale?` : that of a locale;
* `Charset.chars`, `Charset.octets` : the characters of some bytes, and the bytes of some characters;
* `Charset.onChars` : a function of characters as one of bytes;
* `Charset.upper`, `Charset.lower`, `Charset.isVisible` : letter case and visible forms;
* `Charset.octetsOfNumber` : the bytes for the number of a character.
-/

namespace ShellCoverage.Shell

/-- A character set. -/
inductive Charset where
  /-- Every byte is a character; those beyond ASCII have no meaning. -/
  | bytes
  /-- Characters beyond ASCII have two to four bytes. -/
  | utf8
  deriving DecidableEq, Repr, Inhabited

namespace Charset

/-- The number above which the characters stand for bytes that belong to no character. -/
def strayBase : Nat := 0x10FF00

/-- The character that stands for a byte that belongs to no character. -/
def stray (c : Char) : Char := Char.ofNat (strayBase + c.toNat)

/-- The character stands for a byte. -/
def isStray (c : Char) : Bool := strayBase + 0x80 ≤ c.toNat

/-- The character at the head of some bytes, and the number of bytes that it has after the first. The few
characters that stand for bytes are read byte by byte. -/
def head (c : Char) (r : List Char) : Char × Nat :=
  match Utf8.read (.ofNat c.toNat) ((r.take 3).map fun d => .ofNat d.toNat) with
  | .scalar p extra =>
    let d := Char.ofNat p.val
    if isStray d then (stray c, 0) else (d, extra)
  | .illFormed .. => (stray c, 0)

/-- The number of bytes of the character at the head of some bytes, after the first. -/
def extra (k : Charset) (c : Char) (r : List Char) : Nat :=
  match k with
  | .bytes => 0
  | .utf8 => (head c r).2

/-- The characters of some bytes in UTF-8. Each has the mark of its first byte. -/
def gather {α : Type} : List (Char × α) → List (Char × α)
  | [] => []
  | q :: r =>
    let (c, extra) := head q.1 ((r.take 3).map (·.1))
    (c, q.2) :: gather (r.drop extra)
termination_by qs => qs.length
decreasing_by simp only [List.length_cons, List.length_drop]; omega

/-- The bytes of a character in UTF-8. -/
def spread (c : Char) : List Char :=
  if c.toNat < 0x80 then [c]
  else if isStray c then [Char.ofNat (c.toNat - strayBase)]
  else (Utf8.encode (.ofChar c)).map fun b => Char.ofNat b.toNat

/-- The characters of some bytes with marks. -/
def quotables {α : Type} (k : Charset) (qs : List (Char × α)) : List (Char × α) :=
  match k with
  | .bytes => qs
  | .utf8 => gather qs

/-- The characters of some bytes. -/
def chars (k : Charset) (cs : List Char) : List Char :=
  match k with
  | .bytes => cs
  | .utf8 => (gather (cs.map fun c => (c, ()))).map (·.1)

/-- The bytes of some characters. -/
def octets (k : Charset) (cs : List Char) : List Char :=
  match k with
  | .bytes => cs
  | .utf8 => cs.flatMap spread

/-- A function of characters as one of bytes. -/
def onChars (k : Charset) (f : List Char → List Char) (cs : List Char) : List Char :=
  k.octets (f (k.chars cs))

/-- The number of characters of a byte string. -/
def length (k : Charset) (s : Octets) : Nat := (k.chars s.toList).length

/-- The character has a visible form, or is the space. -/
def isVisible (k : Charset) (c : Char) : Bool :=
  if c.toNat < 0x80 then 32 ≤ c.toNat && c.toNat ≤ 126
  else
    match k with
    | .bytes => false
    | .utf8 => !isStray c && ((CodePoint.ofChar c).isPrintable ||
        CharacterClass.inRanges CharacterClass.layoutRanges c.toNat)

/-- All characters of a byte string have a visible form. -/
def shows (k : Charset) (s : Octets) : Bool := (k.chars s.toList).all k.isVisible

/-- The capital form of a letter. -/
def upper (k : Charset) (c : Char) : Char :=
  match k with
  | .bytes => c.toUpper
  | .utf8 => LetterCase.upper c

/-- The small form of a letter. -/
def lower (k : Charset) (c : Char) : Char :=
  match k with
  | .bytes => c.toLower
  | .utf8 => LetterCase.lower c

/-- The pattern in some bytes. -/
def pattern (k : Charset) (extended : Bool) (qs : List Quotable) : List Pattern :=
  Pattern.parse (k = .utf8) extended (k.quotables qs)

/-- The letters that are the same, perhaps those of both cases. -/
def folding (k : Charset) (ignores : Bool) : Folding :=
  if ignores then (match k with | .bytes => .ascii | .utf8 => .wide) else .exact

/-- The pattern matches the byte string, perhaps but for the case of letters. -/
def accepts (k : Charset) (fold : Bool) (ps : List Pattern) (s : Octets) : Bool :=
  Pattern.accepts (k.folding fold) ps (k.chars s.toList)

/-- The regular expression in some bytes. -/
def regex (k : Charset) (form : Regex.Form) (qs : List Quotable) : Except Regex.Fault Regex :=
  Regex.read { form with wide := k = .utf8 } (k.quotables qs)

/-- The bytes for the number of a character beyond ASCII in the long form of UTF-8, which goes up to 31
bits. -/
def longForm (n : Nat) : List Char :=
  let tail (i : Nat) : Char := Char.ofNat (0x80 + n / 64 ^ i % 64)
  let first (lead i : Nat) : Char := Char.ofNat (lead + n / 64 ^ i)
  if n < 0x800 then [first 0xC0 1, tail 0]
  else if n < 0x10000 then [first 0xE0 2, tail 1, tail 0]
  else if n < 0x200000 then [first 0xF0 3, tail 2, tail 1, tail 0]
  else if n < 0x4000000 then [first 0xF8 4, tail 3, tail 2, tail 1, tail 0]
  else if n < 0x80000000 then [first 0xFC 5, tail 4, tail 3, tail 2, tail 1, tail 0]
  else []

/-- The bytes for the number of a character, if the set has it. -/
def octetsOfNumber? (k : Charset) (n : Nat) : Option (List Char) :=
  if n < 0x80 then some [Char.ofNat n]
  else
    match k with
    | .bytes => none
    | .utf8 => some (longForm n)

/-- The number of the first character of some bytes. -/
def numberOf (k : Charset) (cs : List Char) : Nat :=
  match k, cs with
  | _, [] => 0
  | .bytes, c :: _ => c.toNat
  | .utf8, c :: r =>
    let d := (head c r).1
    if isStray d then c.toNat else d.toNat

/-! ## Locales -/

/-- The name of an encoding without marks and in small letters. -/
def plainEncoding (s : List Char) : List Char := (s.filter Char.isAlphanum).map Char.toLower

/-- The character set of a locale, if the locale is known. -/
def ofLocale? (locale : Octets) : Option Charset :=
  match locale.toList with
  | ['C'] => some .bytes
  | 'C' :: '.' :: encoding => if plainEncoding encoding = "utf8".toList then some .utf8 else none
  | _ => if locale = "POSIX" then some .bytes else none

/-- The locale that the variables for all categories, for one category and for the rest name, if they name
one. -/
def localeOf? (all category rest : Octets) : Option Octets := [all, category, rest].find? (· ≠ "")

/-- The character set that the variables for all categories, for characters and for the rest call for; none
if they name a locale that is not known. -/
def ofVariables? (all category rest : Octets) : Option Charset :=
  match localeOf? all category rest with
  | some locale => ofLocale? locale
  | none => some .bytes

/-- The character set with which a process begins whose variables name locales. One that is not known
counts for nothing. -/
def initial (all category rest : Octets) : Charset :=
  ((ofVariables? all category rest).or (if all = "" then ofLocale? rest else none)).getD .bytes

/-- The character set with which a process begins, by its environment. -/
def ofEnvironment (env : Table Octets Octets) : Charset :=
  let value (name : Octets) : Octets := (Table.get? name env).getD ""
  initial (value "LC_ALL") (value "LC_CTYPE") (value "LANG")

end Charset

end ShellCoverage.Shell
