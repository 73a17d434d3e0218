import ShellCoverage.Shell.Octets

/-!
# Digests

Numbers that are computed from byte strings so that different ones have different numbers.

* `Digest.md5`, `Digest.sha1`, `Digest.sha256`, `Digest.sha224` : the digests of 128, 160, 256 and 224 bits;
* `Digest.sha512`, `Digest.sha384` : the digests of 512 and 384 bits;
* `Digest.blake2b` : the digest of up to 512 bits that mixes the words of a block in columns and diagonals;
* `Digest.cyclic` : the cyclic redundancy check of 32 bits.
-/

namespace ShellCoverage.Shell.Digest

/-- The bytes of a word, the lowest one first. -/
def littleEndian (w : UInt32) : List UInt8 :=
  [w.toUInt8, (w >>> 8).toUInt8, (w >>> 16).toUInt8, (w >>> 24).toUInt8]

/-- The bytes of a word, the highest one first. -/
def bigEndian (w : UInt32) : List UInt8 := (littleEndian w).reverse

/-- The word whose bytes these are, the highest one first. -/
def ofBigEndian (bs : List UInt8) : UInt32 := bs.foldl (fun w b => w <<< 8 ||| b.toUInt32) 0

/-- The bits of a word turned to the left. -/
def turnLeft (w n : UInt32) : UInt32 := w <<< n ||| w >>> (32 - n)

/-- The bits of a word turned to the right. -/
def turnRight (w n : UInt32) : UInt32 := w >>> n ||| w <<< (32 - n)

/-- A message filled up to whole blocks of 64 bytes, of which the last eight hold its length in bits. -/
def filled (highFirst : Bool) (bs : List UInt8) : List UInt8 :=
  let size := bs.length
  let zeros := (119 - size % 64) % 64
  let length : List UInt8 := (List.range 8).map fun i => UInt8.ofNat (size * 8 / 256 ^ i)
  bs ++ 0x80 :: List.replicate zeros 0 ++ (if highFirst then length.reverse else length)

/-- The blocks of a filled message, each as words. -/
def blocks (highFirst : Bool) : Nat → List UInt8 → List (Array UInt32)
  | 0, _ => []
  | _, [] => []
  | n + 1, bs =>
    let block := bs.take 64
    let words := (List.range 16).map fun i =>
      let four := (block.drop (4 * i)).take 4
      ofBigEndian (if highFirst then four else four.reverse)
    words.toArray :: blocks highFirst n (bs.drop 64)

/-- The blocks of a message. -/
def blocksOf (highFirst : Bool) (bs : List UInt8) : List (Array UInt32) :=
  let all := filled highFirst bs
  blocks highFirst (all.length / 64 + 1) all

/-! ## The digest of 128 bits -/

/-- The constants of the steps: parts of the absolute values of the sine. -/
def sines : Array UInt32 := #[
  0xd76aa478, 0xe8c7b756, 0x242070db, 0xc1bdceee, 0xf57c0faf, 0x4787c62a, 0xa8304613, 0xfd469501,
  0x698098d8, 0x8b44f7af, 0xffff5bb1, 0x895cd7be, 0x6b901122, 0xfd987193, 0xa679438e, 0x49b40821,
  0xf61e2562, 0xc040b340, 0x265e5a51, 0xe9b6c7aa, 0xd62f105d, 0x02441453, 0xd8a1e681, 0xe7d3fbc8,
  0x21e1cde6, 0xc33707d6, 0xf4d50d87, 0x455a14ed, 0xa9e3e905, 0xfcefa3f8, 0x676f02d9, 0x8d2a4c8a,
  0xfffa3942, 0x8771f681, 0x6d9d6122, 0xfde5380c, 0xa4beea44, 0x4bdecfa9, 0xf6bb4b60, 0xbebfbc70,
  0x289b7ec6, 0xeaa127fa, 0xd4ef3085, 0x04881d05, 0xd9d4d039, 0xe6db99e5, 0x1fa27cf8, 0xc4ac5665,
  0xf4292244, 0x432aff97, 0xab9423a7, 0xfc93a039, 0x655b59c3, 0x8f0ccc92, 0xffeff47d, 0x85845dd1,
  0x6fa87e4f, 0xfe2ce6e0, 0xa3014314, 0x4e0811a1, 0xf7537e82, 0xbd3af235, 0x2ad7d2bb, 0xeb86d391]

/-- The turns of the steps, four for each of the four rounds. -/
def turns : Array UInt32 := #[7, 12, 17, 22, 5, 9, 14, 20, 4, 11, 16, 23, 6, 10, 15, 21]

/-- The digest of 128 bits. -/
def md5 (bs : List UInt8) : List UInt8 :=
  let step (m : Array UInt32) (s : UInt32 × UInt32 × UInt32 × UInt32) (i : Nat) :
      UInt32 × UInt32 × UInt32 × UInt32 :=
    let (a, b, c, d) := s
    let (f, g) : UInt32 × Nat :=
      match i / 16 with
      | 0 => ((b &&& c) ||| (~~~b &&& d), i)
      | 1 => ((d &&& b) ||| (~~~d &&& c), 5 * i + 1)
      | 2 => (b ^^^ c ^^^ d, 3 * i + 5)
      | _ => (c ^^^ (b ||| ~~~d), 7 * i)
    let f := f + a + (sines[i]?).getD 0 + (m[g % 16]?).getD 0
    (d, b + turnLeft f ((turns[i / 16 * 4 + i % 4]?).getD 0), b, c)
  let block (s : UInt32 × UInt32 × UInt32 × UInt32) (m : Array UInt32) :
      UInt32 × UInt32 × UInt32 × UInt32 :=
    let (a, b, c, d) := (List.range 64).foldl (step m) s
    (s.1 + a, s.2.1 + b, s.2.2.1 + c, s.2.2.2 + d)
  let (a, b, c, d) :=
    (blocksOf false bs).foldl block (0x67452301, 0xefcdab89, 0x98badcfe, 0x10325476)
  [a, b, c, d].flatMap littleEndian

/-! ## The digest of 160 bits -/

/-- A block's words followed by others, each of which is computed from those before it. -/
def extended (count : Nat) (next : Array UInt32 → Nat → UInt32) (block : Array UInt32) : Array UInt32 :=
  (List.range (count - 16)).foldl (fun w i => w.push (next w (i + 16))) block

/-- An element of a table of words. -/
def wordAt (w : Array UInt32) (i : Nat) : UInt32 := (w[i]?).getD 0

/-- The digest of 160 bits. -/
def sha1 (bs : List UInt8) : List UInt8 :=
  let schedule := extended 80 fun w i =>
    turnLeft (wordAt w (i - 3) ^^^ wordAt w (i - 8) ^^^ wordAt w (i - 14) ^^^ wordAt w (i - 16)) 1
  let block (h : List UInt32) (m : Array UInt32) : List UInt32 :=
    let w := schedule m
    let step (s : List UInt32) (i : Nat) : List UInt32 :=
      match s with
      | [a, b, c, d, e] =>
        let (f, k) : UInt32 × UInt32 :=
          if i < 20 then ((b &&& c) ||| (~~~b &&& d), 0x5a827999)
          else if i < 40 then (b ^^^ c ^^^ d, 0x6ed9eba1)
          else if i < 60 then ((b &&& c) ||| (b &&& d) ||| (c &&& d), 0x8f1bbcdc)
          else (b ^^^ c ^^^ d, 0xca62c1d6)
        [turnLeft a 5 + f + e + k + wordAt w i, a, turnLeft b 30, c, d]
      | s => s
    List.zipWith (· + ·) h ((List.range 80).foldl step h)
  let h := (blocksOf true bs).foldl block
    [0x67452301, 0xefcdab89, 0x98badcfe, 0x10325476, 0xc3d2e1f0]
  h.flatMap bigEndian

/-! ## The digests of 256 and 224 bits -/

/-- The constants of the steps: parts of the cube roots of primes. -/
def roots : Array UInt32 := #[
  0x428a2f98, 0x71374491, 0xb5c0fbcf, 0xe9b5dba5, 0x3956c25b, 0x59f111f1, 0x923f82a4, 0xab1c5ed5,
  0xd807aa98, 0x12835b01, 0x243185be, 0x550c7dc3, 0x72be5d74, 0x80deb1fe, 0x9bdc06a7, 0xc19bf174,
  0xe49b69c1, 0xefbe4786, 0x0fc19dc6, 0x240ca1cc, 0x2de92c6f, 0x4a7484aa, 0x5cb0a9dc, 0x76f988da,
  0x983e5152, 0xa831c66d, 0xb00327c8, 0xbf597fc7, 0xc6e00bf3, 0xd5a79147, 0x06ca6351, 0x14292967,
  0x27b70a85, 0x2e1b2138, 0x4d2c6dfc, 0x53380d13, 0x650a7354, 0x766a0abb, 0x81c2c92e, 0x92722c85,
  0xa2bfe8a1, 0xa81a664b, 0xc24b8b70, 0xc76c51a3, 0xd192e819, 0xd6990624, 0xf40e3585, 0x106aa070,
  0x19a4c116, 0x1e376c08, 0x2748774c, 0x34b0bcb5, 0x391c0cb3, 0x4ed8aa4a, 0x5b9cca4f, 0x682e6ff3,
  0x748f82ee, 0x78a5636f, 0x84c87814, 0x8cc70208, 0x90befffa, 0xa4506ceb, 0xbef9a3f7, 0xc67178f2]

/-- The words of a digest that begins with some others. -/
def digestWords (start : List UInt32) (bs : List UInt8) : List UInt32 :=
  let schedule := extended 64 fun w i =>
    let x := wordAt w (i - 15)
    let y := wordAt w (i - 2)
    wordAt w (i - 16) + (turnRight x 7 ^^^ turnRight x 18 ^^^ x >>> 3) + wordAt w (i - 7) +
      (turnRight y 17 ^^^ turnRight y 19 ^^^ y >>> 10)
  let block (h : List UInt32) (m : Array UInt32) : List UInt32 :=
    let w := schedule m
    let step (s : List UInt32) (i : Nat) : List UInt32 :=
      match s with
      | [a, b, c, d, e, f, g, h] =>
        let choice := (e &&& f) ^^^ (~~~e &&& g)
        let majority := (a &&& b) ^^^ (a &&& c) ^^^ (b &&& c)
        let x := h + (turnRight e 6 ^^^ turnRight e 11 ^^^ turnRight e 25) + choice + wordAt roots i +
          wordAt w i
        let y := (turnRight a 2 ^^^ turnRight a 13 ^^^ turnRight a 22) + majority
        [x + y, a, b, c, d + x, e, f, g]
      | s => s
    List.zipWith (· + ·) h ((List.range 64).foldl step h)
  (blocksOf true bs).foldl block start

/-- The digest of 256 bits. -/
def sha256 (bs : List UInt8) : List UInt8 :=
  (digestWords [0x6a09e667, 0xbb67ae85, 0x3c6ef372, 0xa54ff53a, 0x510e527f, 0x9b05688c, 0x1f83d9ab, 0x5be0cd19]
    bs).flatMap bigEndian

/-- The digest of 224 bits. -/
def sha224 (bs : List UInt8) : List UInt8 :=
  ((digestWords [
    0xc1059ed8, 0x367cd507, 0x3070dd17, 0xf70e5939, 0xffc00b31, 0x68581511, 0x64f98fa7, 0xbefa4fa4] bs).flatMap
    bigEndian).take 28

/-! ## The digests of 512 and 384 bits, with words of 64 bits -/

/-- The bytes of a long word, the lowest one first. -/
def longLittleEndian (w : UInt64) : List UInt8 := (List.range 8).map fun i => (w >>> (UInt64.ofNat (8 * i))).toUInt8

/-- The bytes of a long word, the highest one first. -/
def longBigEndian (w : UInt64) : List UInt8 := (longLittleEndian w).reverse

/-- The long word whose bytes these are, the highest one first. -/
def ofLongBigEndian (bs : List UInt8) : UInt64 := bs.foldl (fun w b => w <<< 8 ||| b.toUInt64) 0

/-- The bits of a long word turned to the right. -/
def longTurnRight (w n : UInt64) : UInt64 := w >>> n ||| w <<< (64 - n)

/-- An element of a table of long words. -/
def longWordAt (w : Array UInt64) (i : Nat) : UInt64 := (w[i]?).getD 0

/-- Blocks of 128 bytes, each as long words. -/
def longBlocks (highFirst : Bool) : Nat → List UInt8 → List (Array UInt64)
  | 0, _ => []
  | _, [] => []
  | n + 1, bs =>
    let block := bs.take 128
    let words := (List.range 16).map fun i =>
      let eight := (block.drop (8 * i)).take 8
      ofLongBigEndian (if highFirst then eight else eight.reverse)
    words.toArray :: longBlocks highFirst n (bs.drop 128)

/-- A message filled up to whole blocks of 128 bytes, of which the last sixteen hold its length in bits. -/
def longFilled (bs : List UInt8) : List UInt8 :=
  let size := bs.length
  let zeros := (239 - size % 128) % 128
  let length : List UInt8 := (List.range 16).map fun i => UInt8.ofNat (size * 8 / 256 ^ i)
  bs ++ 0x80 :: List.replicate zeros 0 ++ length.reverse

/-- The constants of the steps: parts of the cube roots of primes. -/
def longRoots : Array UInt64 := #[
  0x428a2f98d728ae22, 0x7137449123ef65cd, 0xb5c0fbcfec4d3b2f, 0xe9b5dba58189dbbc,
  0x3956c25bf348b538, 0x59f111f1b605d019, 0x923f82a4af194f9b, 0xab1c5ed5da6d8118,
  0xd807aa98a3030242, 0x12835b0145706fbe, 0x243185be4ee4b28c, 0x550c7dc3d5ffb4e2,
  0x72be5d74f27b896f, 0x80deb1fe3b1696b1, 0x9bdc06a725c71235, 0xc19bf174cf692694,
  0xe49b69c19ef14ad2, 0xefbe4786384f25e3, 0x0fc19dc68b8cd5b5, 0x240ca1cc77ac9c65,
  0x2de92c6f592b0275, 0x4a7484aa6ea6e483, 0x5cb0a9dcbd41fbd4, 0x76f988da831153b5,
  0x983e5152ee66dfab, 0xa831c66d2db43210, 0xb00327c898fb213f, 0xbf597fc7beef0ee4,
  0xc6e00bf33da88fc2, 0xd5a79147930aa725, 0x06ca6351e003826f, 0x142929670a0e6e70,
  0x27b70a8546d22ffc, 0x2e1b21385c26c926, 0x4d2c6dfc5ac42aed, 0x53380d139d95b3df,
  0x650a73548baf63de, 0x766a0abb3c77b2a8, 0x81c2c92e47edaee6, 0x92722c851482353b,
  0xa2bfe8a14cf10364, 0xa81a664bbc423001, 0xc24b8b70d0f89791, 0xc76c51a30654be30,
  0xd192e819d6ef5218, 0xd69906245565a910, 0xf40e35855771202a, 0x106aa07032bbd1b8,
  0x19a4c116b8d2d0c8, 0x1e376c085141ab53, 0x2748774cdf8eeb99, 0x34b0bcb5e19b48a8,
  0x391c0cb3c5c95a63, 0x4ed8aa4ae3418acb, 0x5b9cca4f7763e373, 0x682e6ff3d6b2b8a3,
  0x748f82ee5defb2fc, 0x78a5636f43172f60, 0x84c87814a1f0ab72, 0x8cc702081a6439ec,
  0x90befffa23631e28, 0xa4506cebde82bde9, 0xbef9a3f7b2c67915, 0xc67178f2e372532b,
  0xca273eceea26619c, 0xd186b8c721c0c207, 0xeada7dd6cde0eb1e, 0xf57d4f7fee6ed178,
  0x06f067aa72176fba, 0x0a637dc5a2c898a6, 0x113f9804bef90dae, 0x1b710b35131c471b,
  0x28db77f523047d84, 0x32caab7b40c72493, 0x3c9ebe0a15c9bebc, 0x431d67c49c100d4c,
  0x4cc5d4becb3e42b6, 0x597f299cfc657e2a, 0x5fcb6fab3ad6faec, 0x6c44198c4a475817]

/-- The schedule of a block: its words followed by others, each of which is computed from those before it. -/
def longSchedule (block : Array UInt64) : Array UInt64 :=
  (List.range 64).foldl (fun w j =>
    let i := j + 16
    let x := longWordAt w (i - 15)
    let y := longWordAt w (i - 2)
    w.push (longWordAt w (i - 16) + (longTurnRight x 1 ^^^ longTurnRight x 8 ^^^ x >>> 7) + longWordAt w (i - 7) +
      (longTurnRight y 19 ^^^ longTurnRight y 61 ^^^ y >>> 6))) block

/-- The words of a digest that begins with some others. -/
def longWords (start : List UInt64) (bs : List UInt8) : List UInt64 :=
  let block (h : List UInt64) (m : Array UInt64) : List UInt64 :=
    let w := longSchedule m
    let step (s : List UInt64) (i : Nat) : List UInt64 :=
      match s with
      | [a, b, c, d, e, f, g, h] =>
        let choice := (e &&& f) ^^^ (~~~e &&& g)
        let majority := (a &&& b) ^^^ (a &&& c) ^^^ (b &&& c)
        let x := h + (longTurnRight e 14 ^^^ longTurnRight e 18 ^^^ longTurnRight e 41) + choice +
          longWordAt longRoots i + longWordAt w i
        let y := (longTurnRight a 28 ^^^ longTurnRight a 34 ^^^ longTurnRight a 39) + majority
        [x + y, a, b, c, d + x, e, f, g]
      | s => s
    List.zipWith (· + ·) h ((List.range 80).foldl step h)
  let all := longFilled bs
  (longBlocks true (all.length / 128 + 1) all).foldl block start

/-- The words that the digest of 512 bits begins with: parts of the square roots of primes. -/
def longStart : List UInt64 := [
  0x6a09e667f3bcc908, 0xbb67ae8584caa73b, 0x3c6ef372fe94f82b, 0xa54ff53a5f1d36f1,
  0x510e527fade682d1, 0x9b05688c2b3e6c1f, 0x1f83d9abfb41bd6b, 0x5be0cd19137e2179]

/-- The digest of 512 bits. -/
def sha512 (bs : List UInt8) : List UInt8 := (longWords longStart bs).flatMap longBigEndian

/-- The digest of 384 bits. -/
def sha384 (bs : List UInt8) : List UInt8 :=
  ((longWords [
    0xcbbb9d5dc1059ed8, 0x629a292a367cd507, 0x9159015a3070dd17, 0x152fecd8f70e5939,
    0x67332667ffc00b31, 0x8eb44a8768581511, 0xdb0c2e0d64f98fa7, 0x47b5481dbefa4fa4] bs).flatMap longBigEndian).take 48

/-! ## The digest that mixes columns and diagonals -/

/-- The orders in which the rounds take the words of a block. -/
def mixingOrders : Array (List Nat) := #[
  [0, 1, 2, 3, 4, 5, 6, 7, 8, 9, 10, 11, 12, 13, 14, 15],
  [14, 10, 4, 8, 9, 15, 13, 6, 1, 12, 0, 2, 11, 7, 5, 3],
  [11, 8, 12, 0, 5, 2, 15, 13, 10, 14, 3, 6, 7, 1, 9, 4],
  [7, 9, 3, 1, 13, 12, 11, 14, 2, 6, 5, 10, 4, 0, 15, 8],
  [9, 0, 5, 7, 2, 4, 10, 15, 14, 1, 11, 12, 6, 8, 3, 13],
  [2, 12, 6, 10, 0, 11, 8, 3, 4, 13, 7, 5, 15, 14, 1, 9],
  [12, 5, 1, 15, 14, 13, 4, 10, 0, 7, 6, 3, 9, 2, 8, 11],
  [13, 11, 7, 14, 12, 1, 3, 9, 5, 0, 15, 4, 8, 6, 2, 10],
  [6, 15, 14, 9, 11, 3, 0, 8, 12, 2, 13, 7, 1, 4, 10, 5],
  [10, 2, 8, 4, 7, 6, 1, 5, 15, 11, 9, 14, 3, 12, 13, 0]]

/-- The places that are mixed in a round: the columns of a square, then its diagonals. -/
def mixedPlaces : List (Nat × Nat × Nat × Nat) :=
  [(0, 4, 8, 12), (1, 5, 9, 13), (2, 6, 10, 14), (3, 7, 11, 15),
    (0, 5, 10, 15), (1, 6, 11, 12), (2, 7, 8, 13), (3, 4, 9, 14)]

/-- Mixes four words with two of the block. -/
def mix (v : Array UInt64) (p : Nat × Nat × Nat × Nat) (x y : UInt64) : Array UInt64 :=
  let (i, j, k, l) := p
  let a := longWordAt v i + longWordAt v j + x
  let d := longTurnRight (longWordAt v l ^^^ a) 32
  let c := longWordAt v k + d
  let b := longTurnRight (longWordAt v j ^^^ c) 24
  let a := a + b + y
  let d := longTurnRight (d ^^^ a) 16
  let c := c + d
  let b := longTurnRight (b ^^^ c) 63
  (((v.set! i a).set! j b).set! k c).set! l d

/-- A round with the words of a block in some order. -/
def mixRound (m : Array UInt64) (v : Array UInt64) (order : List Nat) : Array UInt64 :=
  (mixedPlaces.zipIdx).foldl (fun v p =>
    mix v p.1 (longWordAt m ((order[2 * p.2]?).getD 0)) (longWordAt m ((order[2 * p.2 + 1]?).getD 0))) v

/-- The digest of up to 64 bytes. -/
def blake2b (size : Nat) (bs : List UInt8) : List UInt8 :=
  let start := (longStart.take 1).map (· ^^^ 0x01010000 ^^^ UInt64.ofNat size) ++ longStart.drop 1
  let count := max ((bs.length + 127) / 128) 1
  let filled := bs ++ List.replicate (count * 128 - bs.length) 0
  let block (h : List UInt64) (m : Array UInt64 × Nat) : List UInt64 :=
    let isLast : Bool := m.2 + 1 = count
    let read := if isLast then bs.length else (m.2 + 1) * 128
    let others := longStart.zipIdx.map fun w =>
      if w.2 = 4 then w.1 ^^^ UInt64.ofNat read else if w.2 = 6 && isLast then ~~~w.1 else w.1
    let v := ((List.range 12).map fun i => (mixingOrders[i % 10]?).getD []).foldl (mixRound m.1)
      (h ++ others).toArray
    h.zipIdx.map fun w => w.1 ^^^ longWordAt v w.2 ^^^ longWordAt v (w.2 + 8)
  let h := ((longBlocks false (count + 1) filled).zipIdx).foldl block start
  (h.flatMap longLittleEndian).take size

/-! ## Checks -/

/-- The check of 32 bits with one more byte. -/
def cyclicStep (c : UInt32) (b : UInt8) : UInt32 :=
  (List.range 8).foldl (fun (c : UInt32) _ =>
    if c >>> 31 = 1 then c <<< 1 ^^^ 0x04c11db7 else c <<< 1) (c ^^^ b.toUInt32 <<< 24)

/-- The bytes of a number, the lowest one first, as few as there can be. -/
def lengthBytes : Nat → Nat → List UInt8
  | 0, _ => []
  | k + 1, n => if n = 0 then [] else UInt8.ofNat n :: lengthBytes k (n / 256)

/-- The cyclic redundancy check of a message and its length. -/
def cyclic (bs : List UInt8) : UInt32 :=
  ~~~((bs ++ lengthBytes 8 bs.length).foldl cyclicStep 0)

/-- The digits of base 16 of some bytes. -/
def hexadecimal (bs : List UInt8) : Octets :=
  String.join (bs.map fun b =>
    String.ofList ((if b < 16 then ['0'] else []) ++ Nat.toDigits 16 b.toNat))

end ShellCoverage.Shell.Digest
