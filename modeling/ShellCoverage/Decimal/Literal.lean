import ShellCoverage.Decimal.Shortest
import ShellCoverage.Text.CodePoint

/-!
# Literals of floating-point numbers

* `Literal.write` : the shortest decimal, positional from `1e-4` up to `1e16`, always with a point or
  an exponent;
* `Literal.read` : the number nearest to a decimal;
* `Literal.fixed` : a number with a given number of places;
* `Literal.roundTo` : the number nearest to a number rounded to a given number of places.
-/

namespace ShellCoverage.Decimal

/-- How numbers are written by default. -/
structure LiteralFormat where
  /-- The least decimal exponent that is written positionally. -/
  least : Int
  /-- The decimal exponent from which on exponents are written. -/
  bound : Int
  /-- The least number of digits of an exponent. -/
  exponentWidth : Nat

namespace Literal

/-- Positional from `1e-4` up to `1e16`; exponents have two digits or more. -/
def format : LiteralFormat := ⟨-4, 16, 2⟩

/-- Digits with a point `places` digits before the end. -/
def withPoint (places n : Nat) : Text :=
  let ds := Text.ofNat n
  let ds := List.replicate (places + 1 - ds.length) (CodePoint.ofChar '0') ++ ds
  let k := ds.length - places
  ds.take k ++ [CodePoint.ofChar '.'] ++ ds.drop k

/-- The text of a decimal exponent. -/
def exponentText (f : LiteralFormat) (e : Int) : Text :=
  let ds := Text.ofNat e.natAbs
  (if e < 0 then ("e-" : Text) else ("e+" : Text)) ++
    List.replicate (f.exponentWidth - ds.length) (CodePoint.ofChar '0') ++ ds

/-- The text of a positive decimal. -/
def ofDecimal (f : LiteralFormat) (d : Decimal) : Text :=
  let ds := Text.ofNat d.digits
  let top : Int := d.exponent + ds.length - 1
  if f.least ≤ top && top < f.bound then
    if 0 ≤ d.exponent then Text.ofNat (d.digits * 10 ^ d.exponent.toNat) ++ (".0" : Text)
    else withPoint (-d.exponent).toNat d.digits
  else
    match ds with
    | [] => []
    | [c] => c :: exponentText f top
    | c :: r => c :: CodePoint.ofChar '.' :: r ++ exponentText f top

/-- The text of a number: the shortest decimal that reads back as it. -/
def write (x : Float) : Text :=
  let (negative, m) := Magnitude.ofBits x.toBits
  let sign : Text := if negative then "-" else ""
  match m with
  | .notANumber => "nan"
  | .infinite => sign ++ "inf"
  | .finite b => sign ++ (if b.mantissa = 0 then ("0.0" : Text) else ofDecimal format b.shortest)

/-- The magnitude nearest to `digits * 10 ^ exponent`. Far outside the range of exponents the answer
does not depend on the digits. -/
def magnitude (digits : Nat) (exponent : Int) : Magnitude :=
  let size : Int := digits.log2
  if digits = 0 || exponent + size < -400 then .finite ⟨0, Binary.minExponent⟩
  else if 400 < exponent then .infinite
  else
    match exponent with
    | .ofNat e => Binary.nearest (digits * 10 ^ e) 1
    | .negSucc e => Binary.nearest digits (10 ^ (e + 1))

/-- The number nearest to the decimal with these digits, of which the last `places` stand after the
point, times a power of ten. -/
def read (negative : Bool) (digits places : Nat) (exponent : Int) : Float :=
  let x := Float.ofBits (magnitude digits (exponent - places)).toBits
  if negative then -x else x

/-- The number nearest to an integer; `none` if the integer is too large. -/
def ofInt? (n : Int) : Option Float :=
  match Binary.nearest n.natAbs 1 with
  | .finite b =>
    let x := Float.ofBits (Magnitude.finite b).toBits
    some (if n < 0 then -x else x)
  | _ => none

/-- A number with `places` places after the point, rounded to the nearest. -/
def fixed (places : Nat) (x : Float) : Text :=
  let (negative, m) := Magnitude.ofBits x.toBits
  let sign : Text := if negative then "-" else ""
  match m with
  | .notANumber => "nan"
  | .infinite => sign ++ "inf"
  | .finite b => sign ++ withPoint places (b.scaled places)

/-- The number nearest to `x` rounded to `places` places. -/
def roundTo (places : Nat) (x : Float) : Float :=
  let (negative, m) := Magnitude.ofBits x.toBits
  match m with
  | .finite b => read negative (b.scaled places) places 0
  | _ => x

end Literal

end ShellCoverage.Decimal
