import ShellCoverage.Shell.Program.Copying
import ShellCoverage.Shell.Program.Digest

/-!
# Programs that show bytes

`base64`, `base32`, `od`, and those that compute digests and checks.

* `Program.encodeBits`, `Program.decodeBits` : bytes as digits of so many bits.
-/

namespace ShellCoverage.Shell.Program

/-! ## Digits of some bits -/

/-- The bits of a number, the highest one first. -/
def bitsOf (width n : Nat) : List Bool := ((List.range width).map fun i => decide (n / 2 ^ i % 2 = 1)).reverse

/-- The number whose bits these are. -/
def ofBits (bs : List Bool) : Nat := bs.foldl (fun n b => 2 * n + if b then 1 else 0) 0

/-- Bytes as digits of `width` bits; equal signs fill the last of the groups of `group` digits. -/
def encodeBits (digits : Array Char) (width group : Nat) (cs : List Char) : List Char :=
  let bits := cs.flatMap fun c => bitsOf 8 c.toNat
  let parts := inParts width bits
  let text := parts.map fun p =>
    (digits[ofBits (p ++ List.replicate (width - p.length) false)]?).getD '='
  text ++ List.replicate ((group - text.length % group) % group) '='

/-- The bytes that digits denote, and whether all was right. Equal signs may fill the last group if `fills` is set;
a group that is not complete denotes nothing if `strict` is. -/
def decodeBits (digits : List Char) (width group : Nat) (fills strict : Bool) (cs : List Char) :
    List Char × Bool :=
  let isWhole : Bool := cs.length % group = 0
  let body := (if strict then cs.take (cs.length / group * group) else cs).takeWhile digits.elem
  let fill := if strict && !isWhole then [] else cs.drop body.length
  let bits := body.flatMap fun c => bitsOf width (digits.idxOf c)
  let whole := (inParts 8 bits).filter fun p => p.length = 8
  (whole.map fun p => Char.ofNat (ofBits p),
    (fill = [] || fills && fill.all (· = '=')) && isWhole)

/-- A way to write bytes with digits. -/
structure Alphabet where
  digits : List Char
  /-- Writes bytes, if there are as many as the way needs. -/
  encode : List Char → Option (List Char)
  /-- Reads digits: the bytes, and whether all was right. -/
  decode : List Char → List Char × Bool

namespace Alphabet

/-- Each digit stands for some bits. -/
def ofBits (digits : List Char) (width group : Nat) (fills strict : Bool) : Alphabet where
  digits := digits
  encode cs := some (encodeBits digits.toArray width group cs)
  decode := decodeBits digits width group fills strict

/-- Base 64. -/
def base64 : Alphabet :=
  ofBits "ABCDEFGHIJKLMNOPQRSTUVWXYZabcdefghijklmnopqrstuvwxyz0123456789+/".toList 6 4 true false

/-- Base 64 with digits that file names may hold. -/
def base64url : Alphabet :=
  ofBits "ABCDEFGHIJKLMNOPQRSTUVWXYZabcdefghijklmnopqrstuvwxyz0123456789-_".toList 6 4 true false

/-- Base 32. -/
def base32 : Alphabet := ofBits "ABCDEFGHIJKLMNOPQRSTUVWXYZ234567".toList 5 8 true true

/-- Base 32 with digits in the order of their characters. -/
def base32hex : Alphabet := ofBits "0123456789ABCDEFGHIJKLMNOPQRSTUV".toList 5 8 true true

/-- Base 16. -/
def base16 : Alphabet := ofBits "0123456789ABCDEF".toList 4 2 false false

/-- Base 2, the highest bit first. -/
def base2 : Alphabet := ofBits ['0', '1'] 1 8 false false

/-- The elements of a list, each eight of them in reverse. -/
def reversedOctets {α : Type} (xs : List α) : List α := ((inParts 8 xs).map List.reverse).flatten

/-- Base 2, the lowest bit first. -/
def base2lowest : Alphabet where
  digits := ['0', '1']
  encode cs := (base2.encode cs).map reversedOctets
  decode cs := base2.decode (reversedOctets cs)

/-- The digits of base 85. -/
def digits85 : List Char :=
  ("0123456789abcdefghijklmnopqrstuvwxyzABCDEFGHIJKLMNOPQRSTUVWXYZ.-:+=^!/*?&<>()[]" ++ "\x7b\x7d@%$#").toList

/-- Base 85: five digits for each four bytes. -/
def base85 : Alphabet where
  digits := digits85
  encode cs :=
    if cs.length % 4 ≠ 0 then none
    else
      let number (p : List Char) : Nat := p.foldl (fun n c => n * 256 + c.toNat) 0
      some ((inParts 4 cs).flatMap fun p =>
        [4, 3, 2, 1, 0].map fun i => (digits85[number p / 85 ^ i % 85]?).getD '0')
  decode cs :=
    let body := cs.takeWhile digits85.elem
    let value (p : List Char) : Nat := p.foldl (fun n c => n * 85 + digits85.idxOf c) 0
    let groups := (inParts 5 body).filter fun p => p.length = 5
    let sound := groups.takeWhile fun p => value p < 2 ^ 32
    (sound.flatMap fun p => [3, 2, 1, 0].map fun i => Char.ofNat (value p / 256 ^ i % 256),
      body.length = cs.length && body.length % 5 = 0 && sound.length = groups.length)

end Alphabet

/-- The options of programs that write bytes with digits. -/
def encoderUsage : Usage :=
  { letters := "diw:", words := [("decode", "d"), ("ignore-garbage", "i"), ("wrap", "w")] }

/-- Writes the bytes of an input with the digits of an alphabet, or reads them. -/
def recode (a : Alphabet) (os : Options) (operands : List Octets) : Sh Nat := do
  match operands with
  | _ :: extra :: _ => extraOperand extra
  | _ =>
    let path := operands.headD "-"
    match (Octets.natural? ((os.value? "w").getD "76")) with
    | none =>
      complain ("invalid wrap size: " ++ cited ((os.value? "w").getD ""))
      return 1
    | some wrap =>
      match ← input path with
      | .error e =>
        complainInput path e
        return 1
      | .ok text =>
        if os.has "d" then
          let cs := text.toList.filter fun c =>
            if os.has "i" then a.digits.elem c || c = '=' else c ≠ '\n'
          let (out, good) := a.decode cs
          Sh.write (String.ofList out)
          if !good then complain "invalid input"
          return status good
        else
          match a.encode text.toList with
          | none =>
            complain "invalid input (length must be multiple of 4 characters)"
            return 1
          | some out =>
            if wrap = 0 then Sh.write (String.ofList out)
            else
              for l in inParts wrap out do
                Sh.write (String.ofList l ++ "\n")
            return 0

/-- `base64` and `base32` -/
def encoder (a : Alphabet) : Program := fun args => encoderUsage.run args (recode a)

/-- The alphabets that `basenc` knows. -/
def alphabets : List (Octets × Alphabet) :=
  [("base64", .base64), ("base64url", .base64url), ("base32", .base32), ("base32hex", .base32hex),
    ("base16", .base16), ("base2msbf", .base2), ("base2lsbf", .base2lowest), ("z85", .base85)]

/-- `basenc` -/
def basenc : Program := fun args =>
  let u : Usage := { encoderUsage with words := encoderUsage.words ++ alphabets.map fun a => (a.1, a.1) }
  u.run args fun os operands => do
    match (os.filterMap fun o => Table.get? o.1 alphabets).getLast? with
    | none => misuse "missing encoding type"
    | some a => recode a os operands

/-! ## Dumps -/

/-- How a dump shows numbers of some bytes. -/
structure DumpFormat where
  /-- The letter of the kind: characters, names, or a base, perhaps with a sign. -/
  kind : Char
  size : Nat
  /-- The line ends with the visible characters. -/
  showsText : Bool := false

/-- The names of the first characters, and of the last one. -/
def characterNames : List Octets :=
  ["nul", "soh", "stx", "etx", "eot", "enq", "ack", "bel", "bs", "ht", "nl", "vt", "ff", "cr", "so", "si",
    "dle", "dc1", "dc2", "dc3", "dc4", "nak", "syn", "etb", "can", "em", "sub", "esc", "fs", "gs", "rs", "us",
    "sp"]

/-- The number of digits in which all numbers of some bytes can be written. -/
def digitsFor (base size : Nat) : Nat := (Nat.toDigits base (256 ^ size - 1)).length

namespace DumpFormat

/-- The width of a number, with the blank before it. -/
def width (f : DumpFormat) : Nat :=
  match f.kind with
  | 'x' => digitsFor 16 f.size + 1
  | 'o' => digitsFor 8 f.size + 1
  | 'u' => digitsFor 10 f.size + 1
  | 'd' => (Nat.toDigits 10 (256 ^ f.size / 2)).length + 2
  | _ => 4

/-- The text of some bytes. -/
def cell (f : DumpFormat) (cs : List Char) : Octets :=
  let n := cs.zipIdx.foldl (fun n p => n + p.1.toNat * 256 ^ p.2) 0
  match f.kind with
  | 'x' => inBase 16 (digitsFor 16 f.size) n
  | 'o' => inBase 8 (digitsFor 8 f.size) n
  | 'u' => Octets.ofNat n
  | 'd' => Octets.ofInt (if n < 256 ^ f.size / 2 then n else (n : Int) - 256 ^ f.size)
  | 'a' =>
    let n := n % 128
    if n = 127 then "del" else (characterNames[n]?).getD (Char.ofNat n).toString
  | _ =>
    let c := Char.ofNat n
    match n with
    | 0 => "\\0" | 7 => "\\a" | 8 => "\\b" | 9 => "\\t" | 10 => "\\n" | 11 => "\\v" | 12 => "\\f" | 13 => "\\r"
    | _ => if Quoting.isVisible c then c.toString else inBase 8 3 n

/-- The formats that a text describes. -/
def readWith : Nat → List Char → Option (List DumpFormat)
  | 0, _ => none
  | _, [] => some []
  | n + 1, c :: r =>
    let finish (f : DumpFormat) (r : List Char) : Option (List DumpFormat) :=
      match r with
      | 'z' :: r => (readWith n r).map ({ f with showsText := true } :: ·)
      | r => (readWith n r).map (f :: ·)
    if c = 'a' || c = 'c' then finish ⟨c, 1, false⟩ r
    else if "doux".toList.elem c then
      match r with
      | 'C' :: r => finish ⟨c, 1, false⟩ r
      | 'S' :: r => finish ⟨c, 2, false⟩ r
      | 'I' :: r => finish ⟨c, 4, false⟩ r
      | 'L' :: r => finish ⟨c, 8, false⟩ r
      | r =>
        let ds := r.takeWhile Char.isDigit
        let size := if ds = [] then 4 else Octets.ofDigits ds
        if [1, 2, 4, 8].elem size then finish ⟨c, size, false⟩ (r.drop ds.length) else none
    else none

end DumpFormat

/-- A row of a dump in one format; `unit` is the width of a byte. -/
def dumpRow (unit perRow : Nat) (f : DumpFormat) (cs : List Char) : Octets :=
  let parts := inParts f.size cs
  let width := max (unit * f.size) f.width
  let text := String.join (parts.map fun p => Octets.padLeft width (f.cell p))
  if f.showsText then
    let missing := (perRow - cs.length + f.size - 1) / f.size * width
    text ++ Octets.padLeft missing "" ++ "  >" ++
      String.ofList (cs.map fun c => if Quoting.isVisible c then c else '.') ++ "<"
  else text

/-- The formats that an option of `od` means: none if it is no option for that. -/
def formatsOf? (o : Octets × Octets) : Option (List DumpFormat) :=
  match o.1 with
  | "t" => DumpFormat.readWith (o.2.length + 1) o.2.toList
  | "a" => some [⟨'a', 1, false⟩]
  | "b" => some [⟨'o', 1, false⟩]
  | "c" => some [⟨'c', 1, false⟩]
  | "d" => some [⟨'u', 2, false⟩]
  | "i" => some [⟨'d', 4, false⟩]
  | "l" => some [⟨'d', 8, false⟩]
  | "o" => some [⟨'o', 2, false⟩]
  | "s" => some [⟨'d', 2, false⟩]
  | "x" | "h" => some [⟨'x', 2, false⟩]
  | _ => some []

/-- `od` -/
def od : Program := fun args =>
  let u : Usage :=
    { letters := "A:j:N:S:t:vw::abcdhilosx"
      words := [("address-radix", "A"), ("skip-bytes", "j"), ("read-bytes", "N"), ("format", "t"),
        ("output-duplicates", "v"), ("width", "w"), ("endian", "endian:")] }
  u.run args fun os paths => do
    match os.mapM formatsOf? with
    | none =>
      complain ("invalid type string " ++ cited ((os.value? "t").getD ""))
      return 1
    | some formats =>
      let formats := if formats.flatten.isEmpty then [⟨'o', 2, false⟩] else formats.flatten
      let (files, good) ← inputs paths
      let number (key : Octets) : Option Nat := (os.value? key).bind amount?
      let skip := (number "j").getD 0
      let cs := (String.join (files.map (·.2))).toList.drop skip
      let cs := match number "N" with | some n => cs.take n | none => cs
      let perRow := match os.value? "w" with
        | none => 16
        | some "" => 32
        | some s => max ((amount? s).getD 16) 1
      let address (n : Nat) : Octets := match os.value? "A" with
        | some "n" => ""
        | some "d" => inBase 10 7 n
        | some "x" => inBase 16 6 n
        | _ => inBase 8 7 n
      let blank := Octets.padLeft (address 0).length ""
      let unit := (formats.map fun f => (f.width + f.size - 1) / f.size).foldl max 0
      let unit := if formats.length = 1 then 0 else unit
      let mut last : List Char := []
      let mut repeats := false
      for row in (inParts perRow cs).zipIdx do
        if row.1 = last && row.1.length = perRow && !os.has "v" && row.2 ≠ 0 then
          if !repeats then Sh.write "*\n"
          repeats := true
        else
          repeats := false
          for f in formats.zipIdx do
            Sh.write ((if f.2 = 0 then address (skip + row.2 * perRow) else blank) ++
              dumpRow unit perRow f.1 row.1 ++ "\n")
        last := row.1
      let stop := address (skip + cs.length)
      if stop ≠ "" then Sh.write (stop ++ "\n")
      return status good

/-! ## Digests -/

/-- A way to compute digests. -/
structure Digester where
  /-- Its name in lines that name it. -/
  name : Octets
  digest : List UInt8 → List UInt8
  /-- The size of a digest in bytes. -/
  size : Nat

/-- The ways to compute digests, by the words that options name them by. -/
def digesters : List (Octets × Digester) :=
  [("md5", ⟨"MD5", Digest.md5, 16⟩), ("sha1", ⟨"SHA1", Digest.sha1, 20⟩), ("sha224", ⟨"SHA224", Digest.sha224, 28⟩),
    ("sha256", ⟨"SHA256", Digest.sha256, 32⟩), ("sha384", ⟨"SHA384", Digest.sha384, 48⟩),
    ("sha512", ⟨"SHA512", Digest.sha512, 64⟩), ("blake2b", ⟨"BLAKE2b", Digest.blake2b 64, 64⟩)]

/-- The digest of a text in digits of base 16. -/
def Digester.text (d : Digester) (content : Octets) : Octets := Digest.hexadecimal (d.digest (Octets.toBytes content))

/-- A name of a file as a line of a list shows it, and whether that differs from the name. -/
def escapedName (s : Octets) : Octets × Bool :=
  let escaped := String.join (s.toList.map fun c =>
    if c = '\\' then "\\\\" else if c = '\n' then "\\n" else c.toString)
  (escaped, escaped ≠ s)

/-- The name that stands behind an escaped one. -/
def unescapedName : List Char → List Char
  | '\\' :: 'n' :: r => '\n' :: unescapedName r
  | '\\' :: '\\' :: r => '\\' :: unescapedName r
  | c :: r => c :: unescapedName r
  | [] => []

/-- The line of a list for a file. -/
def Digester.line (d : Digester) (tagged isBinary ends : Bool) (path content : Octets) : Octets :=
  let (name, escapes) := if ends then (path, false) else escapedName path
  let text := d.text content
  (if escapes then "\\" else "") ++
    (if tagged then d.name ++ " (" ++ name ++ ") = " ++ text else text ++ (if isBinary then " *" else "  ") ++ name) ++
    (if ends then "\x00" else "\n")

/-- All characters are digits of base 16, and there are so many. -/
def areHexadecimal (count : Nat) (cs : List Char) : Bool :=
  cs.length = count && cs.all fun c => c.isDigit || "abcdef".toList.elem c.toLower

/-- The digest and the name of a line of a list. -/
def Digester.ofLine? (d : Digester) (l : Octets) : Option (Octets × Octets) := do
  let cs := l.toList.dropWhile fun c => c = ' ' || c = '\t'
  let (escapes, cs) := match cs with | '\\' :: r => (true, r) | r => (false, r)
  let named (name : List Char) : Octets := String.ofList (if escapes then unescapedName name else name)
  let tag := (d.name ++ " (").toList
  if tag.isPrefixOf cs then
    let body := cs.drop tag.length
    let digits := (body.reverse.takeWhile (· ≠ ' ')).reverse
    let name := body.take (body.length - digits.length)
    if areHexadecimal (2 * d.size) digits && ") = ".toList.isSuffixOf name then
      return (String.ofList digits, named (name.take (name.length - 4)))
    else none
  else
    let digits := cs.takeWhile fun c => c ≠ ' ' && c ≠ '\t'
    if !areHexadecimal (2 * d.size) digits then none
    match cs.drop digits.length with
    | _ :: ' ' :: name | _ :: '*' :: name => if name = [] then none else return (String.ofList digits, named name)
    | _ :: c :: name => return (String.ofList digits, named (c :: name))
    | _ => none

/-- How many lines of a list of digests were what. -/
structure Checked where
  proper : Nat := 0
  misformed : Nat := 0
  unread : Nat := 0
  wrong : Nat := 0
  matched : Nat := 0

/-- A warning that something happened so often. -/
def warnOfCount (n : Nat) (one many : Octets) : Sh Unit :=
  if n = 0 then pure () else complain ("WARNING: " ++ Octets.ofNat n ++ (if n = 1 then one else many))

/-- Checks the files in a list of digests. -/
def Digester.check (d : Digester) (os : Options) (path text : Octets) : Sh Bool := do
  let speaks := os.last? ["status", "quiet", "w"]
  let isSilent : Bool := speaks = some "status"
  let shown := if path = "-" then cited "standard input" else named path
  let mut n : Checked := {}
  for l in (bare text).zipIdx do
    if l.1.toList.head? = some '#' then continue
    match d.ofLine? l.1 with
    | none =>
      n := { n with misformed := n.misformed + 1 }
      if speaks = some "w" then
        complain (shown ++ ": " ++ Octets.ofNat (l.2 + 1) ++ ": improperly formatted " ++ d.name ++ " checksum line")
    | some (wanted, path) =>
      n := { n with proper := n.proper + 1 }
      let (name, escapes) := escapedName path
      let name := (if escapes then "\\" else "") ++ name
      match ← input path with
      | .error e =>
        if !(os.has "ignore-missing" && e = .noEntry) then
          complainOf path e
          n := { n with unread := n.unread + 1 }
          if !isSilent then Sh.write (name ++ ": FAILED open or read\n")
      | .ok content =>
        if d.text content = wanted.map Char.toLower then
          n := { n with matched := n.matched + 1 }
          if !(isSilent || speaks = some "quiet") then Sh.write (name ++ ": OK\n")
        else
          n := { n with wrong := n.wrong + 1 }
          if !isSilent then Sh.write (name ++ ": FAILED\n")
  if n.proper = 0 then complain (shown ++ ": no properly formatted checksum lines found")
  else if !isSilent then
    warnOfCount n.misformed " line is improperly formatted" " lines are improperly formatted"
    warnOfCount n.unread " listed file could not be read" " listed files could not be read"
    warnOfCount n.wrong " computed checksum did NOT match" " computed checksums did NOT match"
    if os.has "ignore-missing" && n.matched = 0 then complain (shown ++ ": no file was verified")
  return n.matched ≠ 0 && n.wrong = 0 && n.unread = 0 && !(os.has "strict" && n.misformed ≠ 0)

/-- What is wrong with the options of a program that writes or checks digests. -/
def digestMisuse? (os : Options) : Option Octets :=
  if os.has "c" then
    if os.has "z" then some "the --zero option is not supported when verifying checksums"
    else if os.has "tag" then some "the --tag option is meaningless when verifying checksums"
    else if os.has "b" || os.has "t" then
      some "the --binary and --text options are meaningless when verifying checksums"
    else none
  else
    let speaks := os.last? ["status", "quiet", "w"]
    let only (option : Octets) : Octets :=
      "the --" ++ option ++ " option is meaningful only when verifying checksums"
    if os.has "ignore-missing" then some (only "ignore-missing")
    else if speaks = some "status" then some (only "status")
    else if speaks = some "w" then some (only "warn")
    else if speaks = some "quiet" then some (only "quiet")
    else if os.has "strict" then some (only "strict")
    else none

/-- Writes or checks the digests of some files. -/
def Digester.run (d : Digester) (os : Options) (paths : List Octets) : Sh Nat := do
  if let some m := digestMisuse? os then return ← misuse m
  let mut good := true
  for path in orStandard paths do
    match ← input path with
    | .error e =>
      complainInput path e
      good := false
    | .ok text =>
      if os.has "c" then
        if !(← d.check os path text) then good := false
      else Sh.write (d.line (os.has "tag") (os.last? ["b", "t"] = some "b") (os.has "z") path text)
  return status good

/-- The options of programs that write digests. -/
def digestUsage : Usage :=
  { letters := "bctwz"
    words := [("binary", "b"), ("check", "c"), ("text", "t"), ("warn", "w"), ("zero", "z"), ("tag", "tag"),
      ("quiet", "quiet"), ("status", "status"), ("strict", "strict"), ("ignore-missing", "ignore-missing")] }

/-- A program that writes digests. -/
def digester (d : Digester) : Program := fun args => digestUsage.run args d.run

/-- `b2sum`, whose digests may be shorter. -/
def b2sum : Program := fun args =>
  let u := { digestUsage with letters := "bctwzl:", words := ("length", "l") :: digestUsage.words }
  u.run args fun os paths => do
    let refuse (s cause : Octets) : Sh Nat := do
      complain ("invalid length: " ++ cited s)
      if cause ≠ "" then complain cause
      return 1
    match os.value? "l" with
    | none => (Digester.mk "BLAKE2b" (Digest.blake2b 64) 64).run os paths
    | some s =>
      match Octets.natural? s with
      | none => refuse s ""
      | some n =>
        if 512 < n then refuse s ("maximum digest length for " ++ cited "BLAKE2b" ++ " is 512 bits")
        else if n % 8 ≠ 0 then refuse s "length is not a multiple of 8"
        else
          let size := if n = 0 then 64 else n / 8
          let name := if size = 64 then "BLAKE2b" else "BLAKE2b-" ++ Octets.ofNat n
          (Digester.mk name (Digest.blake2b size) size).run os paths

/-- The check of 32 bits of a file. -/
def cyclicLine (named : Bool) (path content : Octets) : Octets :=
  Octets.ofNat (Digest.cyclic (Octets.toBytes content)).toNat ++ " " ++ Octets.ofNat content.length ++
    (if named then " " ++ path else "") ++ "\n"

/-- The sum of bytes of a file, and its size in blocks of 512 bytes. -/
def byteSumLine (named : Bool) (path content : Octets) : Octets :=
  let total := (content.toList.map Char.toNat).sum % 2 ^ 32
  let folded := total % 2 ^ 16 + total / 2 ^ 16
  let check := folded % 2 ^ 16 + folded / 2 ^ 16
  Octets.ofNat check ++ " " ++ Octets.ofNat ((content.length + 511) / 512) ++
    (if named then " " ++ path else "") ++ "\n"

/-- The sum of bytes of a file that turns after each, and its size in blocks of 1024 bytes. -/
def turningSumLine (named : Bool) (path content : Octets) : Octets :=
  let check := content.toList.foldl (fun n c => (n / 2 + n % 2 * 2 ^ 15 + c.toNat) % 2 ^ 16) 0
  inBase 10 5 check ++ " " ++ Octets.padLeft 5 (Octets.ofNat ((content.length + 1023) / 1024)) ++
    (if named then " " ++ path else "") ++ "\n"

/-- `cksum` -/
def cksum : Program := fun args =>
  let u := { digestUsage with
    letters := "a:bctwzl:"
    words := [("algorithm", "a"), ("untagged", "untagged"), ("length", "l")] ++ digestUsage.words }
  u.run args fun os paths => do
    let name := (os.value? "a").getD "crc"
    let lines (line : Bool → Octets → Octets → Octets) : Sh Nat := do
      let (files, good) ← inputs paths
      for f in files do
        Sh.write (line (paths ≠ []) f.1 f.2)
      return status good
    match name, digesters.lookup name with
    | "crc", _ => lines cyclicLine
    | "sysv", _ => lines byteSumLine
    | "bsd", _ => lines turningSumLine
    | _, some d =>
      let isTagged : Bool := os.last? ["tag", "untagged"] ≠ some "untagged" && !os.has "c"
      d.run (if isTagged then ("tag", "") :: os else os) paths
    | _, none =>
      complain ("invalid argument " ++ cited name ++ " for " ++ cited "--algorithm")
      let known := ["bsd", "sysv", "crc"] ++ digesters.map (·.1) ++ ["sm3"]
      Sh.complain ("Valid arguments are:\n" ++ String.join (known.map fun k => "  - " ++ cited k ++ "\n"))
      referToHelp
      return 1

/-- `sum` -/
def sum : Program := fun args =>
  let u : Usage := { letters := "rs", words := [("sysv", "s")] }
  u.run args fun os paths => do
    let (files, good) ← inputs paths
    for f in files do
      Sh.write ((if os.has "s" then byteSumLine else turningSumLine) (paths ≠ []) f.1 f.2)
    return status good

end ShellCoverage.Shell.Program
