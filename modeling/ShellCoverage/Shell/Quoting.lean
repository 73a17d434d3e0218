import ShellCoverage.Shell.Charset

/-!
# Quoting

Traces and listings show words so that the shell could read them again. Which characters can be shown as they
are depends on the character set.

* `Quoting.traced` : a word in a trace;
* `Quoting.single`, `Quoting.ansi`, `Quoting.double` : forms of quotes;
* `Quoting.unescape` : the meaning of escapes in `$'…'`, `printf` and `echo -e`.
-/

namespace ShellCoverage.Shell.Quoting

/-- A word between single quotes. A quote inside ends them, stands escaped, and begins them again. -/
def single (s : Octets) : Octets :=
  if s = "'" then "\\'"
  else
    "'" ++ String.ofList (s.toList.flatMap fun c => if c = '\'' then ['\'', '\\', '\'', '\''] else [c]) ++ "'"

/-- The character has a visible form in the C locale, or is the space. -/
def isVisible (c : Char) : Bool := 32 ≤ c.toNat && c.toNat ≤ 126

/-- The three octal digits of a byte. -/
def octal (n : Nat) : List Char :=
  let ds := Nat.toDigits 8 n
  List.replicate (3 - ds.length) '0' ++ ds

/-- The escape for a control character, if it has a letter. -/
def controlLetter? (c : Char) : Option Char :=
  match c.toNat with
  | 7 => some 'a'
  | 8 => some 'b'
  | 9 => some 't'
  | 10 => some 'n'
  | 11 => some 'v'
  | 12 => some 'f'
  | 13 => some 'r'
  | 27 => some 'E'
  | _ => none

/-- A word between quotes that know escapes. -/
def ansi (k : Charset) (s : Octets) : Octets :=
  let part (c : Char) : List Char :=
    match controlLetter? c with
    | some l => ['\\', l]
    | none =>
      if c = '\\' || c = '\'' then ['\\', c]
      else if k.isVisible c then k.octets [c]
      else (k.octets [c]).flatMap fun b => '\\' :: octal b.toNat
  "$'" ++ String.ofList ((k.chars s.toList).flatMap part) ++ "'"

/-- A word between double quotes. -/
def double (s : Octets) : Octets :=
  let part (c : Char) : List Char :=
    if c = '"' || c = '\\' || c = '$' || c = '`' then ['\\', c] else [c]
  "\"" ++ String.ofList (s.toList.flatMap part) ++ "\""

/-- A character that has a meaning for the shell wherever it stands. -/
def isSpecial (c : Char) : Bool :=
  c = ' ' || c = '\t' || c = '\n' || c = '\'' || c = '"' || c = '\\' || c = '|' || c = '&' || c = ';' ||
    c = '(' || c = ')' || c = '<' || c = '>' || c = '!' || c = '\x7b' || c = '\x7d' || c = '*' ||
    c = '[' || c = '?' || c = ']' || c = '^' || c = '$' || c = '`'

/-- The characters, of which the last before them is given, hold one with a meaning. -/
def hasSpecialAfter (last : Option Char) : List Char → Bool
  | [] => false
  | c :: r =>
    isSpecial c ||
      (c = '~' && (last = none || last = some '=' || last = some ':')) ||
      (c = '#' && (last = none || last = some ' ' || last = some '\t')) ||
      hasSpecialAfter (some c) r

/-- The word holds a character that has a meaning for the shell. -/
def hasSpecial (s : Octets) : Bool := hasSpecialAfter none s.toList

/-- The word as it is shown, if it is not empty. -/
def shown (k : Charset) (s : Octets) : Octets :=
  if hasSpecial s then single s
  else if !k.shows s then ansi k s
  else s

/-- A name in a message: it is shown as it is unless it holds characters without a visible form. -/
def cited (k : Charset) (s : Octets) : Octets := if k.shows s then s else ansi k s

/-- A word in a trace. -/
def traced (k : Charset) (s : Octets) : Octets := if s = "" then "''" else shown k s

/-- A word as `declare -p` and `export -p` show it. -/
def listed (k : Charset) (s : Octets) : Octets := if k.shows s then double s else ansi k s

/-- A word in the form that the shell reads again, as `set` shows it. -/
def reusable (k : Charset) (s : Octets) : Octets :=
  if s = "" then "''"
  else if !k.shows s then ansi k s
  else shown k s

/-- A word as `printf %q` shows it: characters with a meaning are escaped one by one. -/
def backslashed (k : Charset) (s : Octets) : Octets :=
  if s = "" then "''"
  else if !k.shows s then ansi k s
  else
    let rec go (last : Option Char) : List Char → List Char
      | [] => []
      | c :: r =>
        let special := isSpecial c || c = ',' ||
          (c = '~' && (last = none || last = some '=' || last = some ':')) ||
          (c = '#' && last = none)
        (if special then ['\\', c] else [c]) ++ go (some c) r
    String.ofList (go none s.toList)

/-! ## Escapes -/

/-- The value of a hexadecimal digit. -/
def hexDigit? (c : Char) : Option Nat :=
  if c.isDigit then some (c.toNat - 48)
  else if 'a' ≤ c && c ≤ 'f' then some (c.toNat - 87)
  else if 'A' ≤ c && c ≤ 'F' then some (c.toNat - 55)
  else none

/-- The value of an octal digit. -/
def octalDigit? (c : Char) : Option Nat :=
  if '0' ≤ c && c ≤ '7' then some (c.toNat - 48) else none

/-- At most `n` digits, their value, and what follows. -/
def digits (digit? : Char → Option Nat) (base : Nat) : Nat → Nat → List Char → Nat × List Char
  | 0, v, cs => (v, cs)
  | n + 1, v, cs =>
    match cs with
    | c :: r =>
      match digit? c with
      | some d => digits digit? base n (v * base + d) r
      | none => (v, cs)
    | [] => (v, cs)

/-- Where escapes are read. -/
inductive Style where
  /-- In `$'…'`. -/
  | word
  /-- In the format of `printf`. -/
  | format
  /-- In an argument of `printf %b`, and in `echo -e`. -/
  | argument
  /-- In the format of `printf` of the plain shell. -/
  | plainFormat
  /-- In an argument of the plain shell. -/
  | plainArgument
  deriving DecidableEq

/-- Escapes are those of the plain shell, which are fewer. -/
def Style.isPlain (s : Style) : Bool := s = .plainFormat || s = .plainArgument

/-- The text is an argument. -/
def Style.isArgument (s : Style) : Bool := s = .argument || s = .plainArgument

/-- A byte. -/
def byte (n : Nat) : Char := Char.ofNat (n % 256)

/-- A character by its code point. Those that the character set does not have stay escaped. -/
def codePoint (k : Charset) (n : Nat) : List Char :=
  let hex (width : Nat) : List Char :=
    let ds := (Nat.toDigits 16 n).map Char.toUpper
    List.replicate (width - ds.length) '0' ++ ds
  match k.octetsOfNumber? n with
  | some cs => cs
  | none => if n < 0x10000 then '\\' :: 'u' :: hex 4 else '\\' :: 'U' :: hex 8

/-- The meaning of the escape after a backslash, and what follows it; none where output ends. -/
def escapeAt (k : Charset) (s : Style) : List Char → Option (List Char × List Char)
  | [] => some (['\\'], [])
  | c :: r =>
    if s.isPlain && "ExuU'\"?".toList.elem c then some (['\\', c], r)
    else match c with
    | 'a' => some ([byte 7], r)
    | 'b' => some ([byte 8], r)
    | 'e' | 'E' => some ([byte 27], r)
    | 'f' => some ([byte 12], r)
    | 'n' => some ([byte 10], r)
    | 'r' => some ([byte 13], r)
    | 't' => some ([byte 9], r)
    | 'v' => some ([byte 11], r)
    | '\\' => some (['\\'], r)
    | 'c' =>
      if s.isArgument then none
      else if s = .word then
        match r with
        | d :: r' => some ([byte (d.toNat % 32)], r')
        | [] => some (['\\', 'c'], [])
      else some (['\\', 'c'], r)
    | 'x' =>
      let (v, rest) := digits hexDigit? 16 2 0 r
      if rest.length = r.length then some (['\\', 'x'], r) else some ([byte v], rest)
    | 'u' | 'U' =>
      let (v, rest) := digits hexDigit? 16 (if c = 'u' then 4 else 8) 0 r
      if rest.length = r.length then some (['\\', c], r) else some (codePoint k v, rest)
    | '\'' | '"' | '?' =>
      if s = .argument && c ≠ '"' then some (['\\', c], r) else some ([c], r)
    | '0' =>
      let (v, rest) :=
        if s.isArgument then digits octalDigit? 8 3 0 r else digits octalDigit? 8 3 0 (c :: r)
      some ([byte v], rest)
    | _ =>
      match octalDigit? c with
      | some _ =>
        let (v, rest) := digits octalDigit? 8 3 0 (c :: r)
        some ([byte v], rest)
      | none => some (['\\', c], r)

/-- The meaning of a text with escapes, and whether output ends after it. -/
def unescapeWith (k : Charset) (s : Style) : Nat → List Char → List Char × Bool
  | 0, cs => (cs, false)
  | _, [] => ([], false)
  | n + 1, c :: r =>
    if c = '\\' then
      match escapeAt k s r with
      | none => ([], true)
      | some (cs, rest) =>
        let p := unescapeWith k s n rest
        (cs ++ p.1, p.2)
    else
      let p := unescapeWith k s n r
      (c :: p.1, p.2)

/-- The meaning of a text with escapes, and whether output ends after it. -/
def unescape (k : Charset) (s : Style) (cs : List Char) : List Char × Bool :=
  unescapeWith k s (cs.length + 1) cs

/-- The meaning of the text of a word with escapes. -/
def word (k : Charset) (cs : List Char) : List Char :=
  ((unescape k .word cs).1).takeWhile fun c => c.toNat ≠ 0

end ShellCoverage.Shell.Quoting
