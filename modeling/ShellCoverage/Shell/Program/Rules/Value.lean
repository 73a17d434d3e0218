import ShellCoverage.Decimal.Literal
import ShellCoverage.Shell.Pattern
import ShellCoverage.Shell.Printing

/-!
# Values of rules

The values that rules work with are numbers and texts. A text that was read counts as a number where it looks
like one.

* `Rules.Cell` : a value;
* `Rules.Cell.number`, `Rules.Cell.text` : a value as a number and as a text;
* `Rules.Cell.order` : how two values compare.
-/

namespace ShellCoverage.Shell.Rules

open Decimal

/-! ## Numbers -/

/-- A number with a sign. -/
def signed (negative : Bool) (x : Float) : Float := if negative then -x else x

/-- The magnitude of a number at the head of some characters without a sign, and what follows it. -/
def magnitudeAt? (cs : List Char) : Option (Float × List Char) :=
  if Floating.begins "infinity" cs then some (1.0 / 0.0, cs.drop 8)
  else if Floating.begins "inf" cs then some (1.0 / 0.0, cs.drop 3)
  else if Floating.begins "nan" cs then some (0.0 / 0.0, cs.drop 3)
  else
    let hex : List Char := if Floating.begins "0x" cs then cs.drop 2 else []
    let (n, places, count, rest) := Floating.mantissa 16 Quoting.hexDigit? hex
    if 0 < count then
      let (e, rest) := Floating.exponent ['p', 'P'] rest
      let e := e - 4 * places
      let m := Decimal.Binary.nearest (n * 2 ^ e.toNat) (2 ^ (-e).toNat)
      some (Float.ofBits m.toBits, rest)
    else
      let (n, places, count, rest) := Floating.mantissa 10 Floating.decimalDigit? cs
      if count = 0 then none
      else
        let (e, rest) := Floating.exponent ['e', 'E'] rest
        some (Float.ofBits (Literal.magnitude n (e - places)).toBits, rest)

/-- The number at the head of some characters, and what follows it. -/
def numberAt? (cs : List Char) : Option (Float × List Char) :=
  match cs.dropWhile Octets.isSpace with
  | '-' :: r => (magnitudeAt? r).map fun p => (-p.1, p.2)
  | '+' :: r => magnitudeAt? r
  | r => magnitudeAt? r

/-- A text looks like a number: that number. -/
def looksLike? (s : Octets) : Option Float :=
  match numberAt? s.toList with
  | some (x, rest) =>
    let letters := (s.toList.dropWhile Octets.isSpace).dropWhile fun c => c = '-' || c = '+'
    if rest.all Octets.isSpace && letters.head?.any fun c => c.isDigit || c = '.' then some x else none
  | none => none

/-- The greatest integer that a number is taken for. -/
def maxInteger : Int := 2 ^ 63 - 1

/-- The integer towards zero, within the range of integers. -/
def integerOf (x : Float) : Int :=
  let (negative, m) := Magnitude.ofBits x.toBits
  match m with
  | .notANumber => -maxInteger
  | .infinite => if negative then -maxInteger else maxInteger
  | .finite b =>
    let (a, d) := b.toFraction
    let n : Int := min (a / d : Nat) maxInteger
    if negative then -n else n

/-- The number that is an integer. -/
def ofInt (n : Int) : Float := (Literal.ofInt? n).getD 0

/-- The number without its fraction. -/
def withoutFraction (x : Float) : Float := if x < 0 then x.ceil else x.floor

/-- The rest of a division, with the sign of the dividend. -/
def remainder (x y : Float) : Float :=
  match Magnitude.ofBits x.toBits, Magnitude.ofBits y.toBits with
  | (negative, .finite a), (_, .finite b) =>
    let (an, ad) := a.toFraction
    let (bn, bd) := b.toFraction
    if bn = 0 then -(0.0 / 0.0)
    else
      signed negative (Float.ofBits (Decimal.Binary.nearest (an * bd % (bn * ad)) (ad * bd)).toBits)
  | (_, .finite _), (_, .infinite) => x
  | _, _ => 0.0 / 0.0

/-- A number as a conversion of a format shows it. -/
def converted (c : Printing.Conversion) (x : Float) : List Char :=
  let (negative, magnitude) := Magnitude.ofBits x.toBits
  Printing.floating 53 c { negative := negative || x.isNaN, magnitude }

/-! ## Cells -/

/-- A value. -/
inductive Cell where
  /-- Nothing was assigned yet. -/
  | missing
  | number (x : Float)
  | text (s : Octets)
  /-- A text that was read. -/
  | input (s : Octets)
  deriving Inhabited

/-- A truth value. -/
def Cell.ofBool (b : Bool) : Cell := .number (if b then 1 else 0)

/-- A natural number. -/
def Cell.ofNat (n : Nat) : Cell := .number (ofInt n)

/-- The first conversion of a format for a number. -/
def conversionOf (format : Octets) : List Char × Printing.Conversion × List Char :=
  let before := format.toList.takeWhile (· ≠ '%')
  let rest := format.toList.drop (before.length + 1)
  let flags := rest.takeWhile fun c => "-+ #0".toList.elem c
  let (width, rest, _) := Printing.measure (rest.drop flags.length) []
  let (precision, rest) : Option Int × List Char := match rest with
    | '.' :: r =>
      let (p, r, _) := Printing.measure r []
      (some (p.getD 0), r)
    | r => (none, r)
  match rest with
  | letter :: after => (before, { flags, width, precision, letter }, after)
  | [] => (before, { letter := 'g' }, [])

/-- A number as a text: an integer in full, and others by a format. -/
def numberText (format : Octets) (x : Float) : Octets :=
  let n := integerOf x
  if ofInt n == x then Octets.ofInt n
  else
    let (before, c, after) := conversionOf format
    let shown := if "dixXou".toList.elem c.letter then Printing.integer c n else converted c x
    String.ofList (before ++ shown ++ after)

namespace Cell

/-- The value as a text; numbers are written by a format. -/
def toText (format : Octets) : Cell → Octets
  | .missing => ""
  | .number x => numberText format x
  | .text s | .input s => s

/-- The value as a number. -/
def toNumber : Cell → Float
  | .missing => 0
  | .number x => x
  | .text s | .input s => ((numberAt? s.toList).map (·.1)).getD 0

/-- The value as a number, if it counts as one in comparisons. -/
def asNumber? : Cell → Option Float
  | .missing => some 0
  | .number x => some x
  | .text _ => none
  | .input s => looksLike? s

/-- The value holds as a condition. -/
def holds : Cell → Bool
  | .missing => false
  | .number x => x != 0
  | .text s => s ≠ ""
  | .input s =>
    match looksLike? s with
    | some x => x != 0
    | none => s ≠ ""

end Cell

/-- The ways to compare. -/
inductive Comparison where
  | less
  | lessEqual
  | equal
  | notEqual
  | greater
  | greaterEqual
  deriving DecidableEq, Repr

/-- A comparison of numbers. -/
def Comparison.ofNumbers (c : Comparison) (x y : Float) : Bool :=
  match c with
  | .less => x < y
  | .lessEqual => x ≤ y
  | .equal => x == y
  | .notEqual => x != y
  | .greater => y < x
  | .greaterEqual => y ≤ x

/-- A comparison of texts. -/
def Comparison.ofTexts (c : Comparison) (s t : Octets) : Bool :=
  match c with
  | .less => s < t
  | .lessEqual => !decide (t < s)
  | .equal => s = t
  | .notEqual => s ≠ t
  | .greater => t < s
  | .greaterEqual => !decide (s < t)

/-- A comparison of values: of numbers, if both count as such. -/
def Comparison.ofCells (c : Comparison) (format : Octets) (a b : Cell) : Bool :=
  let asTexts : Bool := match a, b with
    | .missing, .input s | .input s, .missing => (looksLike? s).isNone
    | .text _, _ | _, .text _ => true
    | _, _ => false
  match asTexts, a.asNumber?, b.asNumber? with
  | false, some x, some y => c.ofNumbers x y
  | _, _, _ => c.ofTexts (a.toText format) (b.toText format)

/-! ## Expressions to search for -/

/-- The character that a backslash and a letter stand for. -/
def escaped? (c : Char) : Option Char :=
  match c with
  | 'n' => some '\n'
  | 't' => some '\t'
  | 'r' => some '\r'
  | 'f' => some '\x0c'
  | 'v' => some '\x0b'
  | 'a' => some '\x07'
  | 'b' => some '\x08'
  | '"' => some '"'
  | '/' => some '/'
  | '\\' => some '\\'
  | _ => none

/-- The character that is written in octal digits, and what follows; nothing if there are none. -/
def octal? (cs : List Char) : Option (Char × List Char) :=
  let ds := (cs.take 3).takeWhile fun c => '0' ≤ c && c ≤ '7'
  if ds = [] then none
  else some (Char.ofNat ((ds.foldl (fun n c => n * 8 + (c.toNat - 48)) 0) % 256), cs.drop ds.length)

/-- The character that is written in octal digits, or in hexadecimal ones after a letter, and what follows; nothing
if there are none. -/
def written? (cs : List Char) : Option (Char × List Char) :=
  match cs with
  | 'x' :: r =>
    let ds := (r.take 2).takeWhile fun c => (Quoting.hexDigit? c).isSome
    if ds = [] then none
    else
      let n := ds.foldl (fun n c => n * 16 + (Quoting.hexDigit? c).getD 0) 0
      some (Char.ofNat n, r.drop ds.length)
  | cs => octal? cs

/-- The characters of an expression, of which some stand for themselves; the number bounds them. Braces do.
Inside brackets a backslash protects a character. -/
def searchCharacters : Nat → List Char → List Quotable
  | 0, _ => []
  | _, [] => []
  | n + 1, '\\' :: r =>
    match written? r, r with
    | some (c, rest), _ => (c, true) :: searchCharacters n rest
    | none, c :: rest => ((escaped? c).getD c, true) :: searchCharacters n rest
    | none, [] => [('\\', true)]
  | n + 1, '[' :: r =>
    let (hat, r) := match r with
      | '^' :: r => ([('^', false)], r)
      | r => ([], r)
    ('[', false) :: hat ++ inBracket n true r
  | n + 1, c :: r => (c, c = '\x7b' || c = '\x7d') :: searchCharacters n r
where
  /-- The rest of a bracket expression, and what follows. -/
  inBracket : Nat → Bool → List Char → List Quotable
    | 0, _, _ => []
    | _, _, [] => []
    | n + 1, first, ']' :: r => if first then (']', true) :: inBracket n false r else
        (']', false) :: searchCharacters n r
    | n + 1, _, '\\' :: r =>
      match written? r, r with
      | some (c, rest), _ => (c, true) :: inBracket n false rest
      | none, c :: rest => ((escaped? c).getD c, true) :: inBracket n false rest
      | none, [] => [('\\', true)]
    | n + 1, _, '[' :: ':' :: r =>
      let name := r.takeWhile Char.isAlpha
      match r.drop name.length with
      | ':' :: ']' :: rest =>
        ('[', false) :: (':', false) :: name.map (fun c => (c, false)) ++
          (':', false) :: (']', false) :: inBracket n false rest
      | _ => ('[', true) :: inBracket n false (':' :: r)
    | n + 1, _, c :: r => (c, c = '[') :: inBracket n false r

end ShellCoverage.Shell.Rules
