import ShellCoverage.Text.Quoted

/-!
# Numerals

`Numeral.readInt` reads a decimal integer: blanks around it, a sign, digits of any script, and single
underscores between digits are allowed. Numerals of more than `Numeral.digitLimit` digits are
refused, in both directions, since converting them takes quadratic time.

* `Numeral.Error`, `Numeral.Error.message` : why a numeral is refused;
* `Numeral.readInt`, `Numeral.readDigits`, `Numeral.writeInt` : conversion;
* `Numeral.grouped` : a number with a comma before each group of three digits.
-/

namespace ShellCoverage.Numeral

/-- The largest number of digits that is converted. -/
def digitLimit : Nat := 4300

/-- Why a numeral is refused. -/
inductive Error where
  /-- The text is no numeral. -/
  | invalid (t : Text)
  /-- The numeral has too many digits to be read. -/
  | tooLong (digits : Nat)
  /-- The number has too many digits to be written. -/
  | tooLarge
  deriving DecidableEq

/-- The number of code points of a refused text that its message shows. -/
def shownLimit : Nat := 200

/-- The message of a refusal. -/
def Error.message : Error → Text
  | .invalid t => ("invalid literal for int() with base 10: " : Text) ++ t.quoted.take shownLimit
  | .tooLong n =>
    ("Exceeds the limit (" : Text) ++ Text.ofNat digitLimit ++
      " digits) for integer string conversion: value has " ++ Text.ofNat n ++
      " digits; use sys.set_int_max_str_digits() to increase the limit"
  | .tooLarge =>
    ("Exceeds the limit (" : Text) ++ Text.ofNat digitLimit ++
      " digits) for integer string conversion; use sys.set_int_max_str_digits() to increase the limit"

/-- The number written by decimal digits, most significant first. -/
def valueOf (ds : List Nat) : Nat := ds.foldl (fun n d => 10 * n + d) 0

/-- What one code point means inside a numeral. -/
inductive Mark where
  | digit (value : Nat)
  | underscore
  | sign (negative : Bool)
  | blank
  | other
  deriving DecidableEq

/-- The meaning of a code point inside a numeral. The separators of ASCII (`0x1C` to `0x1F`) are no
blanks here. -/
def markOf (c : CodePoint) : Mark :=
  match c.decimalValue? with
  | some d => .digit d
  | none =>
    if c = CodePoint.ofChar '_' then .underscore
    else if c = CodePoint.ofChar '+' then .sign false
    else if c = CodePoint.ofChar '-' then .sign true
    else if c.isBlank && !(0x1C ≤ c.val && c.val ≤ 0x1F) then .blank
    else .other

/-- The digits at the head, single underscores between them allowed, and what follows; `none` where
an underscore stands alone. -/
def scanDigits : List Mark → Option (List Nat × List Mark)
  | .digit d :: .underscore :: .digit e :: r =>
    (scanDigits (.digit e :: r)).map fun p => (d :: p.1, p.2)
  | .digit _ :: .underscore :: _ => none
  | .digit d :: r => (scanDigits r).map fun p => (d :: p.1, p.2)
  | .underscore :: _ => none
  | r => some ([], r)

/-- The integer that a text denotes. -/
def readInt (t : Text) : Except Error Int :=
  let marks := (t.map markOf).dropWhile (· == .blank)
  let (negative, body) :=
    match marks with
    | .sign s :: r => (s, r)
    | r => (false, r)
  match scanDigits body with
  | none => .error (.invalid t)
  | some (ds, r) =>
    if digitLimit < ds.length then .error (.tooLong ds.length)
    else if ds.isEmpty || !(r.all (· == .blank)) then .error (.invalid t)
    else .ok (if negative then -(valueOf ds : Int) else valueOf ds)

/-- The number that decimal digits denote; the text must consist of them. -/
def readDigits (t : Text) : Except Error Nat :=
  if digitLimit < t.length then .error (.tooLong t.length)
  else .ok (valueOf (t.map fun c => c.decimalValue?.getD 0))

/-- The decimal text of an integer. -/
def writeInt (n : Int) : Except Error Text :=
  if 10 ^ digitLimit ≤ n.natAbs then .error .tooLarge else .ok (Text.ofInt n)

/-- Decimal digits in groups of three, commas between the groups. -/
def grouped (n : Nat) : Text := (group (Text.ofNat n).reverse).reverse
where
  /-- A comma after every three digits that are not the last. -/
  group : Text → Text
    | a :: b :: c :: d :: r => a :: b :: c :: CodePoint.ofChar ',' :: group (d :: r)
    | r => r

end ShellCoverage.Numeral
