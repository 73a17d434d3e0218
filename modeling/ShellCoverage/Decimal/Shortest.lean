import ShellCoverage.Instances

/-!
# Rounding and shortest decimals

`Binary.shortest x` is the decimal with the fewest digits that reads back as `x`, and of those the
nearest to `x`. A decimal reads back as `x` when it lies between the midpoints to the neighbours of
`x`; the midpoints count when the mantissa is even.

If some point of a decimal grid lies in that interval, so does one of the two points of the grid next
to `x`: it is enough to try these, for one digit, two digits, and so on. Seventeen digits always do.

* `roundHalfEven num den` : the integer nearest to `num / den`, an even one at a tie;
* `Binary` : a non-negative binary64 number `mantissa * 2 ^ exponent`;
* `Binary.nearest num den` : the binary64 number nearest to `num / den`;
* `Binary.toBits`, `Binary.ofBits` : its machine form;
* `Binary.scaled x d` : `x * 10 ^ d` rounded to an integer;
* `Binary.shortest x` : the shortest decimal of `x`.
-/

namespace ShellCoverage.Decimal

/-! ## Rounding -/

/-- The integer nearest to `num / den`; of two, the even one. -/
def roundHalfEven (num den : Nat) : Nat :=
  let q := num / den
  let r := num % den
  if 2 * r < den then q
  else if den < 2 * r then q + 1
  else if q % 2 = 0 then q else q + 1

/-- A non-negative number `mantissa * 2 ^ exponent`. -/
structure Binary where
  mantissa : Nat
  exponent : Int

/-- The parts of the machine form of a number: sign and magnitude. -/
inductive Magnitude where
  | finite (x : Binary)
  | infinite
  | notANumber

namespace Binary

/-- Numerator and denominator. -/
def toFraction (x : Binary) : Nat × Nat :=
  match x.exponent with
  | .ofNat e => (x.mantissa * 2 ^ e, 1)
  | .negSucc e => (x.mantissa, 2 ^ (e + 1))

/-- The exponent of the least positive number. -/
def minExponent : Int := -1074

/-- The exponent of the largest numbers. -/
def maxExponent : Int := 971

/-- `num / (den * 2 ^ e)` as a fraction. -/
def unscale (num den : Nat) (e : Int) : Nat × Nat :=
  match e with
  | .ofNat k => (num, den * 2 ^ k)
  | .negSucc k => (num * 2 ^ (k + 1), den)

/-- The exponent at which `num / den` has 53 binary digits, or the least one. -/
def exponentFor (num den : Nat) : Int :=
  let e : Int := max ((num.log2 : Int) - den.log2 - 53) minExponent
  let (a, b) := unscale num den e
  if 2 ^ 53 ≤ a / b then e + 1 else e

/-- The number of 53 binary digits nearest to `num / den`; infinite beyond the largest one. -/
def nearest (num den : Nat) : Magnitude :=
  if num = 0 then .finite ⟨0, minExponent⟩
  else
    let e := exponentFor num den
    let (a, b) := unscale num den e
    let m := roundHalfEven a b
    let (m, e) := if m = 2 ^ 53 then (2 ^ 52, e + 1) else (m, e)
    if maxExponent < e then .infinite else .finite ⟨m, e⟩

/-- `x * 10 ^ d`, rounded to the nearest integer. -/
def scaled (x : Binary) (d : Nat) : Nat :=
  let (a, b) := x.toFraction
  roundHalfEven (a * 10 ^ d) b

end Binary

/-- The machine form of a magnitude. -/
def Magnitude.toBits : Magnitude → UInt64
  | .notANumber => 0x7FF8000000000000
  | .infinite => 0x7FF0000000000000
  | .finite x =>
    if x.mantissa < 2 ^ 52 then .ofNat x.mantissa
    else .ofNat ((x.exponent + 1075).toNat * 2 ^ 52 + (x.mantissa - 2 ^ 52))

/-- The sign and the magnitude of a machine form. -/
def Magnitude.ofBits (bits : UInt64) : Bool × Magnitude :=
  let n := bits.toNat
  let negative := 2 ^ 63 ≤ n
  let biased : Nat := n / 2 ^ 52 % 2048
  let fraction := n % 2 ^ 52
  let m : Magnitude :=
    if biased = 2047 then (if fraction = 0 then .infinite else .notANumber)
    else if biased = 0 then .finite ⟨fraction, Binary.minExponent⟩
    else .finite ⟨2 ^ 52 + fraction, (biased : Int) - 1075⟩
  (negative, m)

/-! ## Shortest decimals -/

/-- The decimal number `digits * 10 ^ exponent`. -/
structure Decimal where
  digits : Nat
  exponent : Int

namespace Binary

/-- The interval of numbers that read back as a number: `low`, `value` and `high` are in units of
`2 ^ exponent`. -/
structure Interval where
  low : Nat
  value : Nat
  high : Nat
  exponent : Int
  closed : Bool

/-- The numbers that read back as `x`. The lower neighbour of a power of two is nearer. -/
def interval (x : Binary) : Interval :=
  let narrow := x.mantissa == 2 ^ 52 && minExponent < x.exponent
  { low := 4 * x.mantissa - (if narrow then 1 else 2)
    value := 4 * x.mantissa
    high := 4 * x.mantissa + 2
    exponent := x.exponent - 2
    closed := x.mantissa % 2 == 0 }

/-- `n * 2 ^ e / 10 ^ p` as a fraction. -/
def onGrid (n : Nat) (e p : Int) : Nat × Nat :=
  let up (b : Nat) (k : Int) : Nat := b ^ k.toNat
  (n * up 2 e * up 10 (-p), up 2 (-e) * up 10 p)

/-- The greatest `p` with `10 ^ p ≤ x`, for a positive `x`. -/
def decimalExponent (x : Binary) : Int :=
  let guess : Int := ((x.mantissa.log2 : Int) + x.exponent) * 30103 / 100000
  let fits (p : Int) : Bool :=
    let (a, b) := onGrid x.mantissa x.exponent p
    b ≤ a
  if fits (guess + 1) then guess + 1 else if fits guess then guess else guess - 1

/-- The point of the grid of multiples of `10 ^ p` that reads back as `x` and is nearest to it. -/
def gridPoint? (x : Binary) (p : Int) : Option Nat :=
  let i := x.interval
  let (v, den) := onGrid i.value i.exponent p
  let low := (onGrid i.low i.exponent p).1
  let high := (onGrid i.high i.exponent p).1
  let inside (n : Nat) : Bool :=
    if i.closed then low ≤ n * den && n * den ≤ high else low < n * den && n * den < high
  let n := v / den
  let below := inside n && n != 0
  let above := inside (n + 1)
  if below && above then some (roundHalfEven v den)
  else if below then some n
  else if above then some (n + 1)
  else none

/-- A decimal without zeros at its end. -/
def stripZeros : Nat → Decimal → Decimal
  | 0, d => d
  | fuel + 1, d =>
    if d.digits != 0 && d.digits % 10 == 0 then stripZeros fuel ⟨d.digits / 10, d.exponent + 1⟩
    else d

/-- The decimal of the fewest digits that reads back as the positive number `x`. -/
def shortest (x : Binary) : Decimal :=
  let top := x.decimalExponent
  let grids := (List.range 17).map fun (k : Nat) => top - (k : Int)
  match grids.findSome? fun p => (x.gridPoint? p).map fun n => (⟨n, p⟩ : Decimal) with
  | some d => stripZeros 20 d
  | none => ⟨0, 0⟩

end Binary

end ShellCoverage.Decimal
