import ShellCoverage.Decimal.Literal
import ShellCoverage.Json.Value
import ShellCoverage.Text.Numeral

/-!
# Reading JSON

`Json.read` accepts one value with blanks around it. Beyond the standard it accepts `NaN`, `Infinity`
and `-Infinity`, lone surrogates in strings, and repeated member names, of which the last counts.

A refusal carries the rest of the text from the place of the fault, so that the readers need not
count: the place is the length of the whole text less that of the rest.

* `Json.Problem`, `Json.Error`, `Json.Error.message` : what is wrong and where;
* `Json.readString`, `Json.readNumber`, `Json.readValue` : the readers of a head;
* `Json.read` : a whole text.
-/

namespace ShellCoverage.Json

/-- What is wrong with a text that is not JSON. -/
inductive Problem where
  | missingValue
  | missingName
  | missingColon
  | missingComma
  | openString
  | controlCharacter
  | badEscape
  | badUnicodeEscape
  | extraData
  | byteOrderMark
  deriving DecidableEq, Repr

/-- The wording of a problem. -/
def Problem.message : Problem → Text
  | .missingValue => "Expecting value"
  | .missingName => "Expecting property name enclosed in double quotes"
  | .missingColon => "Expecting ':' delimiter"
  | .missingComma => "Expecting ',' delimiter"
  | .openString => "Unterminated string starting at"
  | .controlCharacter => "Invalid control character at"
  | .badEscape => "Invalid \\escape"
  | .badUnicodeEscape => "Invalid \\uXXXX escape"
  | .extraData => "Extra data"
  | .byteOrderMark => "Unexpected UTF-8 BOM (decode using utf-8-sig)"

/-- Why a text has no value. -/
inductive Error where
  /-- A problem, with the line, the column and the number of characters before it. -/
  | malformed (p : Problem) (line column position : Nat)
  /-- A number that is too long to be read. -/
  | numeral (e : Numeral.Error)

/-- The message of an error. -/
def Error.message : Error → Text
  | .malformed p line column position =>
    p.message ++ (": line " : Text) ++ Text.ofNat line ++ " column " ++ Text.ofNat column ++
      " (char " ++ Text.ofNat position ++ ")"
  | .numeral e => e.message

/-- A refusal inside a reader: the problem and the text from its place on. -/
inductive Refusal where
  | malformed (p : Problem) (rest : Text)
  | numeral (e : Numeral.Error)

/-- The error of a failure in the text `whole`. -/
def Refusal.locate (whole : Text) : Refusal → Error
  | .numeral e => .numeral e
  | .malformed p rest =>
    let before := whole.take (whole.length - rest.length)
    let lastLine := before.reverse.takeWhile (· ≠ 10)
    .malformed p (before.count 10 + 1) (lastLine.length + 1) before.length

/-- A blank between tokens. -/
def isSpace (c : CodePoint) : Bool := c = 32 || c = 9 || c = 10 || c = 13

/-- The text without blanks at its head. -/
def skip (t : Text) : Text := t.dropWhile isSpace

/-! ## Strings -/

/-- The value of a hexadecimal digit. -/
def hexValue? (c : CodePoint) : Option Nat :=
  if c.isAsciiDigit then some (c.val - 48)
  else if 97 ≤ c.val && c.val ≤ 102 then some (c.val - 87)
  else if 65 ≤ c.val && c.val ≤ 70 then some (c.val - 55)
  else none

/-- The number that four hexadecimal digits denote. -/
def hex4? (a b c d : CodePoint) : Option Nat := do
  let a ← hexValue? a
  let b ← hexValue? b
  let c ← hexValue? c
  let d ← hexValue? d
  pure (((a * 16 + b) * 16 + c) * 16 + d)

/-- The character of an escape of one letter. -/
def simpleEscape? (c : CodePoint) : Option CodePoint :=
  if c = CodePoint.ofChar '"' || c = CodePoint.ofChar '\\' || c = CodePoint.ofChar '/' then some c
  else if c = CodePoint.ofChar 'b' then some 8
  else if c = CodePoint.ofChar 'f' then some 12
  else if c = CodePoint.ofChar 'n' then some 10
  else if c = CodePoint.ofChar 'r' then some 13
  else if c = CodePoint.ofChar 't' then some 9
  else none

/-- A number that begins a pair of surrogates. -/
def isHigh (n : Nat) : Bool := 0xD800 ≤ n && n ≤ 0xDBFF

/-- A number that ends a pair of surrogates. -/
def isLow (n : Nat) : Bool := 0xDC00 ≤ n && n ≤ 0xDFFF

/-- The second half of a pair of surrogates at the head: its number and the text after it. There is
none when the text has too few characters left, and an escape that is no number is a failure. -/
def lowHalf? (t : Text) : Except Refusal (Option (Nat × Text)) :=
  match t with
  | 92 :: 117 :: a :: b :: c :: d :: e :: r =>
    match hex4? a b c d with
    | none => .error (.malformed .badUnicodeEscape (117 :: a :: b :: c :: d :: e :: r))
    | some n => .ok (if isLow n then some (n, e :: r) else none)
  | _ => .ok none

/-- The code point of a pair of surrogates. -/
def joinPair (high low : Nat) : CodePoint :=
  .ofNat (0x10000 + (high - 0xD800) * 0x400 + (low - 0xDC00))

theorem lowHalf?_shorter {t r : Text} {n : Nat} (h : lowHalf? t = .ok (some (n, r))) :
    r.length < t.length := by
  unfold lowHalf? at h
  split at h
  · split at h
    · simp at h
    · simp only [Except.ok.injEq, Option.ite_none_right_eq_some, Option.some.injEq,
        Prod.mk.injEq] at h
      rw [← h.2.2]
      simp
  · simp at h

/-- The rest of a string of which `opening` is the text from its quote on. -/
def readString (opening : Text) : Text → Except Refusal (Text × Text)
  | [] => .error (.malformed .openString opening)
  | 34 :: r => .ok ([], r)
  | 92 :: [] => .error (.malformed .openString opening)
  | 92 :: 117 :: a :: b :: c :: d :: e :: r =>
    match hex4? a b c d with
    | none => .error (.malformed .badUnicodeEscape (117 :: a :: b :: c :: d :: e :: r))
    | some n =>
      match _h : (if isHigh n then lowHalf? (e :: r) else .ok none) with
      | .error f => .error f
      | .ok none => do
        let (s, r') ← readString opening (e :: r)
        pure (CodePoint.ofNat n :: s, r')
      | .ok (some (m, r')) => do
        let (s, r') ← readString opening r'
        pure (joinPair n m :: s, r')
  | 92 :: c :: r =>
    if c = 117 then .error (.malformed .badUnicodeEscape (c :: r))
    else
      match simpleEscape? c with
      | none => .error (.malformed .badEscape (92 :: c :: r))
      | some x => do
        let (s, r') ← readString opening r
        pure (x :: s, r')
  | c :: r =>
    if c.val < 0x20 then .error (.malformed .controlCharacter (c :: r))
    else do
      let (s, r') ← readString opening r
      pure (c :: s, r')
termination_by t => t.length
decreasing_by
  · simp
  · split at _h
    · have := lowHalf?_shorter _h
      simp at *
      omega
    · simp at _h
  · simp only [List.length_cons]
    omega
  · simp

/-! ## Numbers -/

/-- The values of the ASCII digits at the head, and what follows. -/
def digitsOf (t : Text) : List Nat × Text :=
  ((t.takeWhile CodePoint.isAsciiDigit).map fun c => c.val - 48,
    t.dropWhile CodePoint.isAsciiDigit)

/-- The digits before the point: a zero stands alone. -/
def readWhole : Text → Option (List Nat × Text)
  | 48 :: r => some ([0], r)
  | c :: r => if c.isAsciiDigit then some (digitsOf (c :: r)) else none
  | [] => none

/-- The digits after a point, if there is one with a digit after it. -/
def readPlaces : Text → Option (List Nat) × Text
  | 46 :: c :: r => if c.isAsciiDigit then
      let (ds, r') := digitsOf (c :: r)
      (some ds, r')
    else (none, 46 :: c :: r)
  | t => (none, t)

/-- The exponent at the head, if there is one with a digit. -/
def readExponent (t : Text) : Option Int × Text :=
  match t with
  | e :: r =>
    if e = 101 || e = 69 then
      let (negative, r') : Bool × Text :=
        match r with
        | 45 :: r' => (true, r')
        | 43 :: r' => (false, r')
        | _ => (false, r)
      let (ds, r'') := digitsOf r'
      if ds.isEmpty then (none, t)
      else
        let n : Int := Numeral.valueOf ds
        (some (if negative then -n else n), r'')
    else (none, t)
  | [] => (none, t)

/-- The number at the head of a text. -/
def readNumber (t : Text) : Except Refusal (Value × Text) :=
  let (negative, body) : Bool × Text :=
    match t with
    | 45 :: r => (true, r)
    | _ => (false, t)
  match readWhole body with
  | none => .error (.malformed .missingValue t)
  | some (whole, r) =>
    match readPlaces r, readExponent (readPlaces r).2 with
    | (none, _), (none, r') =>
      if Numeral.digitLimit < whole.length then .error (.numeral (.tooLong whole.length))
      else
        let n : Int := Numeral.valueOf whole
        .ok (.int (if negative then -n else n), r')
    | (places, _), (exponent, r') =>
      let ps := places.getD []
      .ok (.float (Decimal.Literal.read negative (Numeral.valueOf (whole ++ ps)) ps.length
        (exponent.getD 0)), r')

/-! ## Values -/

/-- The words that are values. -/
def words : List (Text × Value) :=
  [("null", .null), ("true", .bool true), ("false", .bool false), ("NaN", .float (0.0 / 0.0)),
    ("Infinity", .float (1.0 / 0.0)), ("-Infinity", .float (-1.0 / 0.0))]

/-- The word at the head of a text. -/
def readWord? (t : Text) : Option (Value × Text) :=
  words.findSome? fun w => (Text.dropHead? w.1 t).map fun r => (w.2, r)

mutual

/-- The value at the head of a text; `depth` bounds the nesting and the length. -/
def readValue : Nat → Text → Except Refusal (Value × Text)
  | 0, t => .error (.malformed .missingValue t)
  | depth + 1, t =>
    match t with
    | 34 :: r => do
      let (s, r') ← readString t r
      pure (.text s, r')
    | 91 :: r =>
      match skip r with
      | 93 :: r' => pure (.list [], r')
      | r' => do
        let (vs, r'') ← readItems depth r'
        pure (.list vs, r'')
    | 123 :: r =>
      match skip r with
      | 125 :: r' => pure (.object [], r')
      | r' => do
        let (ms, r'') ← readMembers depth r'
        pure (.object (Table.ofList ms), r'')
    | _ =>
      match readWord? t with
      | some a => .ok a
      | none => readNumber t

/-- The items of a list, up to and with its closing bracket. -/
def readItems : Nat → Text → Except Refusal (List Value × Text)
  | 0, t => .error (.malformed .missingValue t)
  | depth + 1, t => do
    let (v, r) ← readValue depth t
    match skip r with
    | 93 :: r' => pure ([v], r')
    | 44 :: r' =>
      let (vs, r'') ← readItems depth (skip r')
      pure (v :: vs, r'')
    | r' => .error (.malformed .missingComma r')

/-- The members of an object, up to and with its closing brace. -/
def readMembers : Nat → Text → Except Refusal (List (Text × Value) × Text)
  | 0, t => .error (.malformed .missingValue t)
  | depth + 1, t =>
    match t with
    | 34 :: r => do
      let (name, r') ← readString t r
      match skip r' with
      | 58 :: r'' =>
        let (v, r3) ← readValue depth (skip r'')
        match skip r3 with
        | 125 :: r4 => pure ([(name, v)], r4)
        | 44 :: r4 =>
          let (ms, r5) ← readMembers depth (skip r4)
          pure ((name, v) :: ms, r5)
        | r4 => .error (.malformed .missingComma r4)
      | r'' => .error (.malformed .missingColon r'')
    | _ => .error (.malformed .missingName t)

end

/-- The value of a text. Every reader consumes a character before it calls another, so that the
length of the text bounds the depth of the calls. -/
def read (t : Text) : Except Error Value :=
  match t with
  | 0xFEFF :: _ => .error ((Refusal.malformed .byteOrderMark t).locate t)
  | _ =>
    match readValue (2 * t.length + 2) (skip t) with
    | .error f => .error (f.locate t)
    | .ok (v, r) =>
      match skip r with
      | [] => .ok v
      | r' => .error ((Refusal.malformed .extraData r').locate t)

end ShellCoverage.Json
