import ShellCoverage.Decimal.Shortest
import ShellCoverage.Shell.Quoting

/-!
# Numbers with a floating point

A number is read to the nearest one with so many binary digits, and is written from its exact value, so
that each digit that is written is right.

* `Floating` : such a number;
* `Floating.read` : the number at the head of a text;
* `Floating.fixed`, `Floating.scientific`, `Floating.general`, `Floating.hexadecimal` : the ways to write it.
-/

namespace ShellCoverage.Shell

open Decimal (Binary Magnitude roundHalfEven)

/-- A number with a floating point. -/
structure Floating where
  negative : Bool := false
  magnitude : Magnitude

namespace Floating

/-! ## Reading -/

/-- The number with so many binary digits that is nearest to a fraction. -/
def nearest (precision num den : Nat) : Binary :=
  if num = 0 then ⟨0, 0⟩
  else
    let e : Int := (num.log2 : Int) - den.log2 - precision
    let scale (e : Int) : Nat × Nat := (num * 2 ^ (-e).toNat, den * 2 ^ e.toNat)
    let (a, b) := scale e
    let e := if 2 ^ precision ≤ a / b then e + 1 else e
    let (a, b) := scale e
    ⟨roundHalfEven a b, e⟩

/-- The digits of a base at the head of some characters, and those after a point: the number that they
denote, how many stand after the point, how many there are, and what follows. -/
def mantissa (base : Nat) (digit? : Char → Option Nat) (cs : List Char) : Nat × Nat × Nat × List Char :=
  let isDigit (c : Char) : Bool := (digit? c).isSome
  let value (n : Nat) (ds : List Char) : Nat := ds.foldl (fun n c => n * base + (digit? c).getD 0) n
  let whole := cs.takeWhile isDigit
  let rest := cs.drop whole.length
  match rest with
  | '.' :: r =>
    let part := r.takeWhile isDigit
    if whole = [] && part = [] then (0, 0, 0, cs)
    else (value (value 0 whole) part, part.length, whole.length + part.length, r.drop part.length)
  | _ => (value 0 whole, 0, whole.length, rest)

/-- The exponent after one of some letters at the head of some characters, and what follows. -/
def exponent (letters : List Char) (cs : List Char) : Int × List Char :=
  match cs with
  | c :: r =>
    if !letters.elem c then (0, cs)
    else
      let (negative, ds) : Bool × List Char :=
        match r with
        | '-' :: r => (true, r)
        | '+' :: r => (false, r)
        | r => (false, r)
      let digits := ds.takeWhile Char.isDigit
      if digits = [] then (0, cs)
      else
        let n : Int := min (Octets.ofDigits digits) 20000
        (if negative then -n else n, ds.drop digits.length)
  | [] => (0, cs)

/-- A decimal digit. -/
def decimalDigit? (c : Char) : Option Nat := if c.isDigit then some (c.toNat - 48) else none

/-- Some characters begin so, in small or capital letters. -/
def begins (word : Octets) (cs : List Char) : Bool :=
  (cs.take word.length).map Char.toLower = word.toList

/-- The number at the head of some characters, and what follows it; nothing if there is none. -/
def magnitude? (precision : Nat) (cs : List Char) : Option (Magnitude × List Char) :=
  if begins "infinity" cs then some (.infinite, cs.drop 8)
  else if begins "inf" cs then some (.infinite, cs.drop 3)
  else if begins "nan" cs then some (.notANumber, cs.drop 3)
  else
    let hex : List Char := if begins "0x" cs then cs.drop 2 else []
    let (n, places, count, rest) := mantissa 16 Quoting.hexDigit? hex
    if 0 < count then
      let (e, rest) := exponent ['p', 'P'] rest
      let e := e - 4 * places
      some (.finite (nearest precision (n * 2 ^ e.toNat) (2 ^ (-e).toNat)), rest)
    else
      let (n, places, count, rest) := mantissa 10 decimalDigit? cs
      if count = 0 then none
      else
        let (e, rest) := exponent ['e', 'E'] rest
        let e := e - places
        some (.finite (nearest precision (n * 10 ^ e.toNat) (10 ^ (-e).toNat)), rest)

/-- The number with so many binary digits at the head of a text, and what follows it; nothing if there is
none. -/
def read? (precision : Nat) (cs : List Char) : Option (Floating × List Char) :=
  let cs := cs.dropWhile Octets.isSpace
  let (negative, body) : Bool × List Char :=
    match cs with
    | '-' :: r => (true, r)
    | '+' :: r => (false, r)
    | r => (false, r)
  (magnitude? precision body).map fun p => (⟨negative, p.1⟩, p.2)

/-! ## Writing -/

/-- How a number is written. -/
structure Style where
  /-- The digits after the point. -/
  places : Nat := 6
  /-- Capital letters are used. -/
  upper : Bool := false
  /-- The point and the zeros after it stay. -/
  alternative : Bool := false

/-- The digits with a point before the last ones. -/
def withPoint (s : Style) (places : Nat) (ds : List Char) : List Char :=
  let ds := List.replicate (places + 1 - ds.length) '0' ++ ds
  let whole := ds.take (ds.length - places)
  whole ++ (if places = 0 then (if s.alternative then ['.'] else []) else '.' :: ds.drop whole.length)

/-- A number with a fixed number of places. -/
def fixed (s : Style) (x : Binary) : List Char :=
  withPoint s s.places (Nat.toDigits 10 (x.scaled s.places))

/-- So many decimal digits of a number, and the exponent of the first one. -/
def significant (count : Nat) (x : Binary) : Nat × Int :=
  let (a, b) := x.toFraction
  if a = 0 then (0, 0)
  else
    let scaled (e : Int) : Nat :=
      let shift := (count : Int) - 1 - e
      roundHalfEven (a * 10 ^ shift.toNat) (b * 10 ^ (-shift).toNat)
    let guess : Int := ((a.log2 : Int) - b.log2) * 30103 / 100000
    let isLow (e : Int) : Bool := b * 10 ^ e.toNat ≤ a * 10 ^ (-e).toNat
    let e := if isLow (guess + 1) then guess + 1 else if isLow guess then guess else guess - 1
    let n := scaled e
    if n = 10 ^ count then (10 ^ (count - 1), e + 1) else (n, e)

/-- The text of an exponent of ten. -/
def exponentText (upper : Bool) (e : Int) : List Char :=
  let ds := Nat.toDigits 10 e.natAbs
  (if upper then 'E' else 'e') :: (if e < 0 then '-' else '+') :: List.replicate (2 - ds.length) '0' ++ ds

/-- A number with one digit before the point, and an exponent. -/
def scientific (s : Style) (x : Binary) : List Char :=
  let (n, e) := significant (s.places + 1) x
  withPoint s s.places (Nat.toDigits 10 n) ++ exponentText s.upper e

/-- Digits with a point, without zeros at their end. -/
def withoutZeros (cs : List Char) : List Char :=
  if cs.elem '.' then
    let cs := (cs.reverse.dropWhile (· = '0')).reverse
    if cs.getLast? = some '.' then cs.dropLast else cs
  else cs

/-- A number with so many digits, with an exponent only if it is large or small. -/
def general (s : Style) (x : Binary) : List Char :=
  let count := max s.places 1
  let (n, e) := significant count x
  let tidy (cs : List Char) : List Char := if s.alternative then cs else withoutZeros cs
  if -4 ≤ e && e < count then
    let places := ((count : Int) - 1 - e).toNat
    tidy (fixed { s with places } x)
  else tidy (withPoint s (count - 1) (Nat.toDigits 10 n)) ++ exponentText s.upper e

/-- A hexadecimal number and an exponent of two; the first digit holds so many bits of those that the
number has. -/
def hexadecimal (s : Style) (places : Option Nat) (precision : Nat) (x : Binary) : List Char :=
  let fractionDigits := (precision - 1) / 4
  let (m, e) : Nat × Int :=
    if x.mantissa = 0 then (0, 0)
    else
      let shift := precision - 1 - x.mantissa.log2
      (x.mantissa * 2 ^ shift, x.exponent - shift + 4 * fractionDigits)
  let kept := (places.getD fractionDigits)
  let m := if kept < fractionDigits then roundHalfEven m (16 ^ (fractionDigits - kept)) else
    m * 16 ^ (kept - fractionDigits)
  let ds := withPoint s kept (Nat.toDigits 16 m)
  let ds := if places.isNone then withoutZeros ds else ds
  let exponent := 'p' :: (if e < 0 then '-' else '+') :: Nat.toDigits 10 e.natAbs
  let text := '0' :: 'x' :: ds ++ exponent
  if s.upper then text.map Char.toUpper else text

end Floating

end ShellCoverage.Shell
