import ShellCoverage.Text.CodePoint

/-!
# UTF-8

Three readings of bytes differ only in what they make of an ill-formed sequence.

* `Utf8.read` : the character at the head of the bytes, or what is wrong there;
* `Text.ofBytes` : every byte that belongs to no character becomes the surrogate `0xDC00 + byte`;
* `Text.ofBytesLossy` : every ill-formed sequence becomes one replacement character;
* `Text.ofBytes?` : an ill-formed sequence is an error that names its place;
* `Text.toBytes?` : the inverse of `Text.ofBytes`; other surrogates have no bytes.
-/

namespace ShellCoverage

/-- A sequence of bytes. -/
abbrev Bytes := List UInt8

namespace Utf8

/-- Why bytes are not UTF-8. -/
inductive Defect where
  /-- No character starts with this byte. -/
  | badStart
  /-- A byte that must continue the character does not. -/
  | badContinuation
  /-- The bytes end inside a character. -/
  | truncated
  deriving DecidableEq, Repr

/-- What stands at the head of some bytes. -/
inductive Head where
  /-- A character with `extra` bytes after its first. -/
  | scalar (c : CodePoint) (extra : Nat)
  /-- `extra + 1` bytes that begin no character. -/
  | illFormed (why : Defect) (extra : Nat)

/-- A byte that continues a character. -/
def isTail (b : UInt8) : Bool := 0x80 ≤ b && b ≤ 0xBF

/-- The payload of a continuation byte. -/
def tailBits (b : UInt8) : Nat := b.toNat % 64

/-- The range of second bytes that may follow a first byte. -/
def secondRange (b : UInt8) : UInt8 × UInt8 :=
  if b = 0xE0 then (0xA0, 0xBF)
  else if b = 0xED then (0x80, 0x9F)
  else if b = 0xF0 then (0x90, 0xBF)
  else if b = 0xF4 then (0x80, 0x8F)
  else (0x80, 0xBF)

/-- A byte may follow the first byte `b`. -/
def isSecond (b s : UInt8) : Bool := (secondRange b).1 ≤ s && s ≤ (secondRange b).2

/-- What stands at the head of the bytes `b :: rest`. -/
def read (b : UInt8) (rest : Bytes) : Head :=
  if b < 0x80 then .scalar (.ofNat b.toNat) 0
  else if b < 0xC2 || 0xF4 < b then .illFormed .badStart 0
  else
    match rest with
    | [] => .illFormed .truncated 0
    | s :: rest =>
      if !isSecond b s then .illFormed .badContinuation 0
      else if b < 0xE0 then .scalar (.ofNat (b.toNat % 32 * 64 + tailBits s)) 1
      else
        match rest with
        | [] => .illFormed .truncated 1
        | t :: rest =>
          if !isTail t then .illFormed .badContinuation 1
          else if b < 0xF0 then
            .scalar (.ofNat ((b.toNat % 16 * 64 + tailBits s) * 64 + tailBits t)) 2
          else
            match rest with
            | [] => .illFormed .truncated 2
            | u :: _ =>
              if !isTail u then .illFormed .badContinuation 2
              else
                .scalar (.ofNat
                  (((b.toNat % 8 * 64 + tailBits s) * 64 + tailBits t) * 64 + tailBits u)) 3

/-- The bytes of a code point; a surrogate takes three bytes like its neighbours. -/
def encode (c : CodePoint) : Bytes :=
  let n := c.val
  if n < 0x80 then [.ofNat n]
  else if n < 0x800 then [.ofNat (0xC0 + n / 64), .ofNat (0x80 + n % 64)]
  else if n < 0x10000 then
    [.ofNat (0xE0 + n / 4096), .ofNat (0x80 + n / 64 % 64), .ofNat (0x80 + n % 64)]
  else
    [.ofNat (0xF0 + n / 262144), .ofNat (0x80 + n / 4096 % 64), .ofNat (0x80 + n / 64 % 64),
      .ofNat (0x80 + n % 64)]

/-- The surrogate that stands for a byte outside every character. -/
def escape (b : UInt8) : CodePoint := .ofNat (0xDC00 + b.toNat)

/-- The byte that a surrogate stands for. -/
def unescape? (c : CodePoint) : Option UInt8 :=
  if 0xDC80 ≤ c.val && c.val ≤ 0xDCFF then some (.ofNat (c.val - 0xDC00)) else none

/-- An ill-formed sequence in a text: its place, its bytes, and what is wrong. -/
structure Fault where
  position : Nat
  bytes : Bytes
  why : Defect

/-- The message for an ill-formed sequence. -/
def Fault.message (f : Fault) : Text :=
  let place :=
    match f.bytes with
    | [b] => ("byte 0x" : Text) ++ Text.hex 2 b.toNat ++ " in position " ++ Text.ofNat f.position
    | bs =>
      ("bytes in position " : Text) ++ Text.ofNat f.position ++ "-" ++
        Text.ofNat (f.position + bs.length - 1)
  let cause : Text :=
    match f.why with
    | .badStart => "invalid start byte"
    | .badContinuation => "invalid continuation byte"
    | .truncated => "unexpected end of data"
  ("'utf-8' codec can't decode " : Text) ++ place ++ ": " ++ cause

end Utf8

namespace Text
open Utf8

/-- The text of any bytes: a byte that belongs to no character becomes a surrogate. -/
def ofBytes : Bytes → Text
  | [] => []
  | b :: rest =>
    match read b rest with
    | .scalar c extra => c :: ofBytes (rest.drop extra)
    | .illFormed _ _ => escape b :: ofBytes rest
termination_by bs => bs.length
decreasing_by all_goals simp only [List.length_cons, List.length_drop]; omega

/-- The text of any bytes, with the replacement character for every ill-formed sequence. -/
def ofBytesLossy : Bytes → Text
  | [] => []
  | b :: rest =>
    match read b rest with
    | .scalar c extra => c :: ofBytesLossy (rest.drop extra)
    | .illFormed _ extra => 0xFFFD :: ofBytesLossy (rest.drop extra)
termination_by bs => bs.length
decreasing_by all_goals simp only [List.length_cons, List.length_drop]; omega

/-- The text of well-formed bytes, the first of which stands at `position`. -/
def ofBytesFrom? (position : Nat) : Bytes → Except Fault Text
  | [] => .ok []
  | b :: rest =>
    match read b rest with
    | .scalar c extra =>
      (ofBytesFrom? (position + 1 + extra) (rest.drop extra)).map (c :: ·)
    | .illFormed why extra => .error ⟨position, b :: rest.take extra, why⟩
termination_by bs => bs.length
decreasing_by all_goals simp only [List.length_cons, List.length_drop]; omega

/-- The text of well-formed bytes. -/
def ofBytes? (bs : Bytes) : Except Fault Text := ofBytesFrom? 0 bs

/-- The bytes of a text; `none` if it holds a surrogate that stands for no byte. -/
def toBytes? : Text → Option Bytes
  | [] => some []
  | c :: t =>
    match unescape? c with
    | some b => (toBytes? t).map (b :: ·)
    | none => if c.isSurrogate then none else (toBytes? t).map (encode c ++ ·)

/-- The bytes of a text in which every code point, surrogates too, is encoded on its own. -/
def toWideBytes (t : Text) : Bytes := t.flatMap encode

/-- The text in which every carriage return, alone or before a line feed, is a line feed. -/
def unifyLineEnds : Text → Text
  | [] => []
  | 13 :: 10 :: t => 10 :: unifyLineEnds t
  | c :: t => (if c = 13 then 10 else c) :: unifyLineEnds t

end Text

/-- The bytes of a string. -/
def Bytes.ofString (s : String) : Bytes := s.toUTF8.toList

instance : Coe String Bytes := ⟨Bytes.ofString⟩

end ShellCoverage
