import ShellCoverage.Text.Utf8

/-!
# Byte strings of the shell

The shell knows bytes only, as it does in the C locale. A byte string is held as a string of characters
below 256, one for each byte, so that it can be matched against string literals.

* `Octets`, `Octets.ofBytes`, `Octets.toBytes`, `Octets.ofText`, `Octets.toText` : conversions;
* `Octets.isName` : the names of variables;
* `Octets.natural?`, `Octets.integer?` : decimal numbers;
* `Octets.wrap` : the integer of 64 bits that a number wraps around to.
-/

namespace ShellCoverage.Shell

/-- A byte string: each byte is held as the character of its number. -/
abbrev Octets := String

namespace Octets

/-- The byte string of some bytes. -/
def ofBytes (bs : Bytes) : Octets := String.ofList (bs.map fun b => Char.ofNat b.toNat)

/-- The bytes of a byte string. -/
def toBytes (s : Octets) : Bytes := s.toList.map fun c => .ofNat c.toNat

/-- The byte string of a text. -/
def ofText (t : Text) : Octets := ofBytes (t.toBytes?.getD t.toWideBytes)

/-- The text of a byte string. -/
def toText (s : Octets) : Text := Text.ofBytes (toBytes s)

/-- A space or tab. -/
def isBlank (c : Char) : Bool := c = ' ' || c = '\t'

/-- White space of the C locale. -/
def isSpace (c : Char) : Bool := c = ' ' || (9 ≤ c.toNat && c.toNat ≤ 13)

/-- A character that a name may start with. -/
def isNameStart (c : Char) : Bool := c.isAlpha || c = '_'

/-- A character of a name. -/
def isNameChar (c : Char) : Bool := c.isAlphanum || c = '_'

/-- Characters that form the name of a variable. -/
def isNameList : List Char → Bool
  | c :: r => isNameStart c && r.all isNameChar
  | [] => false

/-- The name of a variable. -/
def isName (s : Octets) : Bool := isNameList s.toList

/-- The number that decimal digits denote. -/
def ofDigits (ds : List Char) : Nat := ds.foldl (fun n c => n * 10 + (c.toNat - 48)) 0

/-- The number that a string of decimal digits denotes. -/
def natural? (s : Octets) : Option Nat :=
  let cs := s.toList
  if cs ≠ [] && cs.all Char.isDigit then some (ofDigits cs) else none

/-- White space removed from both ends. -/
def trim (cs : List Char) : List Char :=
  ((cs.dropWhile isSpace).reverse.dropWhile isSpace).reverse

/-- The number that a string of decimal digits, perhaps with a sign and with white space around it,
denotes. -/
def integer? (s : Octets) : Option Int :=
  match trim s.toList with
  | '-' :: ds => (natural? (String.ofList ds)).map fun n => -(n : Int)
  | '+' :: ds => (natural? (String.ofList ds)).map fun n => (n : Int)
  | ds => (natural? (String.ofList ds)).map fun n => (n : Int)

/-- The integer of 64 bits that a number wraps around to. -/
def wrap (n : Int) : Int := Int.bmod n (2 ^ 64)

/-- The integer that a string denotes, if it fits into 64 bits. -/
def machineInteger? (s : Octets) : Option Int :=
  (integer? s).bind fun n => if wrap n = n then some n else none

/-- What is said about a string that is no number. -/
def noNumber (s : Octets) : Octets :=
  s ++ ": invalid " ++
    match s.toList with
    | '0' :: c :: _ => if c.isDigit then "octal number" else if c = 'x' then "hex number" else "number"
    | _ => "number"

/-- The text of an integer. -/
def ofInt (n : Int) : Octets :=
  match n with
  | .ofNat n => String.ofList (Nat.toDigits 10 n)
  | .negSucc n => "-" ++ String.ofList (Nat.toDigits 10 (n + 1))

/-- The text of a number. -/
def ofNat (n : Nat) : Octets := String.ofList (Nat.toDigits 10 n)

/-- The string with blanks after it, up to some width. -/
def padRight (width : Nat) (s : Octets) : Octets :=
  s ++ String.ofList (List.replicate (width - s.length) ' ')

/-- The string with blanks before it, up to some width. -/
def padLeft (width : Nat) (s : Octets) : Octets :=
  String.ofList (List.replicate (width - s.length) ' ') ++ s

/-- The pieces between the occurrences of a character. -/
def splitAt (d : Char) : List Char → List (List Char)
  | [] => [[]]
  | c :: r =>
    if c = d then [] :: splitAt d r
    else
      match splitAt d r with
      | [] => [[c]]
      | p :: ps => (c :: p) :: ps

/-- The pieces of a string between the occurrences of a character. -/
def pieces (d : Char) (s : Octets) : List Octets := (splitAt d s.toList).map String.ofList

/-- The string starts with `p`. -/
def startsWith (p s : Octets) : Bool := p.toList.isPrefixOf s.toList

/-- The end of the string after `p`, if the string starts with `p`. -/
def dropHead? (p s : Octets) : Option Octets :=
  if startsWith p s then some (String.ofList (s.toList.drop p.length)) else none

/-- The strings with `sep` between them. -/
def join (sep : Octets) (ss : List Octets) : Octets := String.intercalate sep ss

/-- The string holds the character. -/
def has (c : Char) (s : Octets) : Bool := s.toList.elem c

/-- The lines of a string, each with its line feed. -/
def lines (s : Octets) : List Octets := (go s.toList).map String.ofList
where
  /-- The lines of some characters. -/
  go : List Char → List (List Char)
    | [] => []
    | c :: r =>
      if c = '\n' then [c] :: go r
      else
        match go r with
        | [] => [[c]]
        | l :: ls => (c :: l) :: ls

/-- The string without the line feeds at its end. -/
def trimLineFeeds (s : Octets) : Octets :=
  String.ofList (s.toList.reverse.dropWhile (· = '\n')).reverse

end Octets

end ShellCoverage.Shell
