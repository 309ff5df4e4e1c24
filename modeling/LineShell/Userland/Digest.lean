import LineShell.Userland.Utility.Options

/-!
# Digests

Short texts that stand for long ones: the digests MD5, SHA-1, SHA-2 and BLAKE2b, and the older checksums.

- `Digest.md5`, `Digest.sha1`, `Digest.sha256`, `Digest.sha512`, `Digest.blake2b` are bytes;
- `Digest.cyclic`, `Digest.rotating` and `Digest.summing` are numbers.
-/

namespace LineShell.Host

namespace Digest

/-! ## Words and blocks -/

/-- The bytes of a number, so many of them, the highest first. -/
def bigEndian (count n : Nat) : Bytes :=
  (List.range count).reverse.map fun i => UInt8.ofNat (n / Nat.pow 256 i)

/-- The number of some bytes, the highest first. -/
def ofBigEndian (bytes : Bytes) : Nat :=
  bytes.foldl (fun n b => n * 256 + b.toNat) 0

/-- A text cut into blocks. `fuel` is more than their number. -/
def blocks (size : Nat) : (fuel : Nat) → Bytes → List Bytes
  | 0, _ => []
  | fuel + 1, text => if text.isEmpty then [] else text.take size :: blocks size fuel (text.drop size)

/-- A text filled up to whole blocks: a bit, zeros, and its length in bits. -/
def padded (block counter : Nat) (length : Nat → Bytes) (text : Bytes) : List Bytes :=
  let used := (text.length + 1 + counter) % block
  let zeros := (block - used) % block
  let all := text ++ 0x80 :: List.replicate zeros 0 ++ length (8 * text.length)
  blocks block (all.length / block + 1) all

def rotateLeft (x : UInt32) (n : UInt32) : UInt32 :=
  (x <<< n) ||| (x >>> (32 - n))

def rotateRight (x : UInt32) (n : UInt32) : UInt32 :=
  (x >>> n) ||| (x <<< (32 - n))

def rotateRight64 (x : UInt64) (n : UInt64) : UInt64 :=
  (x >>> n) ||| (x <<< (64 - n))

/-- The whole part of a root. -/
def root (degree bits n : Nat) : Nat :=
  (List.range bits).reverse.foldl (fun r i =>
    let next := r + Nat.pow 2 i
    if Nat.pow next degree ≤ n then next else r) 0

/-- The first primes. -/
def primes (count : Nat) : List Nat :=
  ((List.range 410).filter fun n => 1 < n && (List.range n).all fun d => d < 2 || n % d != 0).take count

/-- The first `bits` bits behind the point of a root of a prime. -/
def rootFraction (degree bits prime : Nat) : Nat :=
  root degree (bits + 9) (prime * Nat.pow 2 (bits * degree)) % Nat.pow 2 bits

/-! ## MD5 -/

def md5Constants : Array UInt32 :=
  #[0xd76aa478, 0xe8c7b756, 0x242070db, 0xc1bdceee, 0xf57c0faf, 0x4787c62a, 0xa8304613, 0xfd469501,
    0x698098d8, 0x8b44f7af, 0xffff5bb1, 0x895cd7be, 0x6b901122, 0xfd987193, 0xa679438e, 0x49b40821,
    0xf61e2562, 0xc040b340, 0x265e5a51, 0xe9b6c7aa, 0xd62f105d, 0x02441453, 0xd8a1e681, 0xe7d3fbc8,
    0x21e1cde6, 0xc33707d6, 0xf4d50d87, 0x455a14ed, 0xa9e3e905, 0xfcefa3f8, 0x676f02d9, 0x8d2a4c8a,
    0xfffa3942, 0x8771f681, 0x6d9d6122, 0xfde5380c, 0xa4beea44, 0x4bdecfa9, 0xf6bb4b60, 0xbebfbc70,
    0x289b7ec6, 0xeaa127fa, 0xd4ef3085, 0x04881d05, 0xd9d4d039, 0xe6db99e5, 0x1fa27cf8, 0xc4ac5665,
    0xf4292244, 0x432aff97, 0xab9423a7, 0xfc93a039, 0x655b59c3, 0x8f0ccc92, 0xffeff47d, 0x85845dd1,
    0x6fa87e4f, 0xfe2ce6e0, 0xa3014314, 0x4e0811a1, 0xf7537e82, 0xbd3af235, 0x2ad7d2bb, 0xeb86d391]

def md5Shifts : Array UInt32 :=
  #[7, 12, 17, 22, 5, 9, 14, 20, 4, 11, 16, 23, 6, 10, 15, 21]

/-- Go on with one block. -/
def md5Block (state : List UInt32) (block : Bytes) : List UInt32 :=
  let words := ((blocks 4 17 block).map fun b => UInt32.ofNat (ofBigEndian b.reverse)).toArray
  let start : UInt32 × UInt32 × UInt32 × UInt32 :=
    (state[0]?.getD 0, state[1]?.getD 0, state[2]?.getD 0, state[3]?.getD 0)
  let (a, b, c, d) := (List.range 64).foldl (fun (a, b, c, d) i =>
    let (f, k) : UInt32 × Nat :=
      if i < 16 then ((b &&& c) ||| (~~~b &&& d), i)
      else if i < 32 then ((d &&& b) ||| (~~~d &&& c), (5 * i + 1) % 16)
      else if i < 48 then (b ^^^ c ^^^ d, (3 * i + 5) % 16)
      else (c ^^^ (b ||| ~~~d), 7 * i % 16)
    let sum := f + a + md5Constants[i]?.getD 0 + words[k]?.getD 0
    (d, b + rotateLeft sum (md5Shifts[i / 16 * 4 + i % 4]?.getD 0), b, c)) start
  [start.1 + a, start.2.1 + b, start.2.2.1 + c, start.2.2.2 + d]

def md5 (text : Bytes) : Bytes :=
  let all := padded 64 8 (fun bits => (bigEndian 8 bits).reverse) text
  (all.foldl md5Block [0x67452301, 0xefcdab89, 0x98badcfe, 0x10325476]).flatMap fun w =>
    (bigEndian 4 w.toNat).reverse

/-! ## SHA-1 -/

/-- Words made of earlier ones, from the sixteen of a block on. -/
def grown {α : Type} (next : Array α → α) : (count : Nat) → Array α → Array α
  | 0, words => words
  | count + 1, words => grown next count (words.push (next words))

/-- Go on with one block. -/
def sha1Block (state : List UInt32) (block : Bytes) : List UInt32 :=
  let words := ((blocks 4 17 block).map fun b => UInt32.ofNat (ofBigEndian b)).toArray
  let back (w : Array UInt32) (n : Nat) : UInt32 := w[w.size - n]?.getD 0
  let words := grown (fun w => rotateLeft (back w 3 ^^^ back w 8 ^^^ back w 14 ^^^ back w 16) 1) 64 words
  let at_ (n : Nat) : UInt32 := state[n]?.getD 0
  let (a, b, c, d, e) := (List.range 80).foldl (fun (a, b, c, d, e) i =>
    let (f, k) : UInt32 × UInt32 :=
      if i < 20 then ((b &&& c) ||| (~~~b &&& d), 0x5a827999)
      else if i < 40 then (b ^^^ c ^^^ d, 0x6ed9eba1)
      else if i < 60 then ((b &&& c) ||| (b &&& d) ||| (c &&& d), 0x8f1bbcdc)
      else (b ^^^ c ^^^ d, 0xca62c1d6)
    (rotateLeft a 5 + f + e + k + words[i]?.getD 0, a, rotateLeft b 30, c, d)) (at_ 0, at_ 1, at_ 2, at_ 3, at_ 4)
  [at_ 0 + a, at_ 1 + b, at_ 2 + c, at_ 3 + d, at_ 4 + e]

def sha1 (text : Bytes) : Bytes :=
  ((padded 64 8 (bigEndian 8) text).foldl sha1Block
    [0x67452301, 0xefcdab89, 0x98badcfe, 0x10325476, 0xc3d2e1f0]).flatMap fun w => bigEndian 4 w.toNat

/-! ## SHA-2 -/

def sha256Constants : Array UInt32 :=
  ((primes 64).map fun p => UInt32.ofNat (rootFraction 3 32 p)).toArray

/-- Go on with one block. -/
def sha256Block (constants : Array UInt32) (state : List UInt32) (block : Bytes) : List UInt32 :=
  let words := ((blocks 4 17 block).map fun b => UInt32.ofNat (ofBigEndian b)).toArray
  let back (w : Array UInt32) (n : Nat) : UInt32 := w[w.size - n]?.getD 0
  let next (w : Array UInt32) : UInt32 :=
    let x := back w 15
    let y := back w 2
    back w 16 + (rotateRight x 7 ^^^ rotateRight x 18 ^^^ (x >>> 3)) + back w 7 +
      (rotateRight y 17 ^^^ rotateRight y 19 ^^^ (y >>> 10))
  let words := grown next 48 words
  let at_ (n : Nat) : UInt32 := state[n]?.getD 0
  let (a, b, c, d, e, f, g, h) := (List.range 64).foldl (fun (a, b, c, d, e, f, g, h) i =>
    let s := h + (rotateRight e 6 ^^^ rotateRight e 11 ^^^ rotateRight e 25) + ((e &&& f) ^^^ (~~~e &&& g)) +
      constants[i]?.getD 0 + words[i]?.getD 0
    let t := (rotateRight a 2 ^^^ rotateRight a 13 ^^^ rotateRight a 22) + ((a &&& b) ^^^ (a &&& c) ^^^ (b &&& c))
    (s + t, a, b, c, d + s, e, f, g)) (at_ 0, at_ 1, at_ 2, at_ 3, at_ 4, at_ 5, at_ 6, at_ 7)
  [at_ 0 + a, at_ 1 + b, at_ 2 + c, at_ 3 + d, at_ 4 + e, at_ 5 + f, at_ 6 + g, at_ 7 + h]

def sha256With (start : List UInt32) (text : Bytes) : Bytes :=
  ((padded 64 8 (bigEndian 8) text).foldl (sha256Block sha256Constants) start).flatMap fun w => bigEndian 4 w.toNat

def sha256 (text : Bytes) : Bytes :=
  sha256With ((primes 8).map fun p => UInt32.ofNat (rootFraction 2 32 p)) text

def sha224 (text : Bytes) : Bytes :=
  (sha256With (((primes 16).drop 8).map fun p => UInt32.ofNat (rootFraction 2 64 p)) text).take 28

def sha512Constants : Array UInt64 :=
  ((primes 80).map fun p => UInt64.ofNat (rootFraction 3 64 p)).toArray

/-- Go on with one block. -/
def sha512Block (constants : Array UInt64) (state : List UInt64) (block : Bytes) : List UInt64 :=
  let words := ((blocks 8 17 block).map fun b => UInt64.ofNat (ofBigEndian b)).toArray
  let back (w : Array UInt64) (n : Nat) : UInt64 := w[w.size - n]?.getD 0
  let turn := rotateRight64
  let next (w : Array UInt64) : UInt64 :=
    let x := back w 15
    let y := back w 2
    back w 16 + (turn x 1 ^^^ turn x 8 ^^^ (x >>> 7)) + back w 7 + (turn y 19 ^^^ turn y 61 ^^^ (y >>> 6))
  let words := grown next 64 words
  let at_ (n : Nat) : UInt64 := state[n]?.getD 0
  let (a, b, c, d, e, f, g, h) := (List.range 80).foldl (fun (a, b, c, d, e, f, g, h) i =>
    let s := h + (turn e 14 ^^^ turn e 18 ^^^ turn e 41) + ((e &&& f) ^^^ (~~~e &&& g)) + constants[i]?.getD 0 +
      words[i]?.getD 0
    let t := (turn a 28 ^^^ turn a 34 ^^^ turn a 39) + ((a &&& b) ^^^ (a &&& c) ^^^ (b &&& c))
    (s + t, a, b, c, d + s, e, f, g)) (at_ 0, at_ 1, at_ 2, at_ 3, at_ 4, at_ 5, at_ 6, at_ 7)
  [at_ 0 + a, at_ 1 + b, at_ 2 + c, at_ 3 + d, at_ 4 + e, at_ 5 + f, at_ 6 + g, at_ 7 + h]

/-- The start of the longer digests, from the roots of some primes. -/
def longStart (ps : List Nat) : List UInt64 :=
  ps.map fun p => UInt64.ofNat (rootFraction 2 64 p)

def sha512With (start : List UInt64) (text : Bytes) : Bytes :=
  ((padded 128 16 (bigEndian 16) text).foldl (sha512Block sha512Constants) start).flatMap fun w => bigEndian 8 w.toNat

def sha512 (text : Bytes) : Bytes :=
  sha512With (longStart (primes 8)) text

def sha384 (text : Bytes) : Bytes :=
  (sha512With (longStart ((primes 16).drop 8)) text).take 48

/-! ## BLAKE2b -/

/-- The order in which the words of a block are taken, round by round. -/
def blakeOrders : List (List Nat) :=
  [[0, 1, 2, 3, 4, 5, 6, 7, 8, 9, 10, 11, 12, 13, 14, 15], [14, 10, 4, 8, 9, 15, 13, 6, 1, 12, 0, 2, 11, 7, 5, 3],
    [11, 8, 12, 0, 5, 2, 15, 13, 10, 14, 3, 6, 7, 1, 9, 4], [7, 9, 3, 1, 13, 12, 11, 14, 2, 6, 5, 10, 4, 0, 15, 8],
    [9, 0, 5, 7, 2, 4, 10, 15, 14, 1, 11, 12, 6, 8, 3, 13], [2, 12, 6, 10, 0, 11, 8, 3, 4, 13, 7, 5, 15, 14, 1, 9],
    [12, 5, 1, 15, 14, 13, 4, 10, 0, 7, 6, 3, 9, 2, 8, 11], [13, 11, 7, 14, 12, 1, 3, 9, 5, 0, 15, 4, 8, 6, 2, 10],
    [6, 15, 14, 9, 11, 3, 0, 8, 12, 2, 13, 7, 1, 4, 10, 5], [10, 2, 8, 4, 7, 6, 1, 5, 15, 11, 9, 14, 3, 12, 13, 0],
    [0, 1, 2, 3, 4, 5, 6, 7, 8, 9, 10, 11, 12, 13, 14, 15], [14, 10, 4, 8, 9, 15, 13, 6, 1, 12, 0, 2, 11, 7, 5, 3]]

/-- The words that are mixed with each other in a round. -/
def blakeQuarters : List (Nat × Nat × Nat × Nat) :=
  [(0, 4, 8, 12), (1, 5, 9, 13), (2, 6, 10, 14), (3, 7, 11, 15), (0, 5, 10, 15), (1, 6, 11, 12), (2, 7, 8, 13),
    (3, 4, 9, 14)]

/-- Mix four words with two of the block. -/
def blakeMix (v : Array UInt64) (quarter : Nat × Nat × Nat × Nat) (x y : UInt64) : Array UInt64 :=
  let (i, j, k, l) := quarter
  let get (n : Nat) : UInt64 := v[n]?.getD 0
  let a := get i + get j + x
  let d := rotateRight64 (get l ^^^ a) 32
  let c := get k + d
  let b := rotateRight64 (get j ^^^ c) 24
  let a := a + b + y
  let d := rotateRight64 (d ^^^ a) 16
  let c := c + d
  let b := rotateRight64 (b ^^^ c) 63
  (((v.setIfInBounds i a).setIfInBounds j b).setIfInBounds k c).setIfInBounds l d

/-- Go on with one block, given how many bytes there were with it and whether it is the last. -/
def blakeBlock (start state : List UInt64) (block : Bytes) (passed : Nat) (last : Bool) : List UInt64 :=
  let whole := block ++ List.replicate (128 - block.length) 0
  let words := ((blocks 8 17 whole).map fun b => UInt64.ofNat (ofBigEndian b.reverse)).toArray
  let v := (state ++ start).toArray
  let v := v.modify 12 (· ^^^ UInt64.ofNat passed)
  let v := if last then v.modify 14 fun x => ~~~x else v
  let v := blakeOrders.foldl (fun v order =>
    (blakeQuarters.zipIdx).foldl (fun v (quarter, n) =>
      let word (i : Nat) : UInt64 := words[(order[i]?).getD 0]?.getD 0
      blakeMix v quarter (word (2 * n)) (word (2 * n + 1))) v) v
  state.zipIdx.map fun (x, n) => x ^^^ v[n]?.getD 0 ^^^ v[n + 8]?.getD 0

/-- A digest of so many bytes. -/
def blake2b (size : Nat) (text : Bytes) : Bytes :=
  let start := longStart (primes 8)
  let all := if text.isEmpty then [[]] else blocks 128 (text.length / 128 + 1) text
  let count := all.length
  let first := match start with
    | x :: rest => (x ^^^ UInt64.ofNat (0x01010000 + size)) :: rest
    | [] => []
  let state := all.zipIdx.foldl (fun state (block, n) =>
    let last := n + 1 = count
    blakeBlock start state block (if last then text.length else 128 * (n + 1)) last) first
  (state.flatMap fun w => (bigEndian 8 w.toNat).reverse).take size

/-! ## Checksums -/

/-- The remainder of a text, with its length behind it, by a polynomial. -/
def cyclic (text : Bytes) : Nat :=
  let step (crc : UInt32) (b : UInt8) : UInt32 :=
    (List.range 8).foldl (fun crc _ =>
      if crc &&& 0x80000000 = 0 then crc <<< 1 else (crc <<< 1) ^^^ 0x04c11db7) (crc ^^^ (b.toUInt32 <<< 24))
  let length := ((bigEndian 8 text.length).dropWhile (· = 0)).reverse
  (~~~((text ++ length).foldl step 0)).toNat

/-- The sum of all bytes, turned round by a bit before each. -/
def rotating (text : Bytes) : Nat :=
  text.foldl (fun sum b => (sum / 2 + sum % 2 * 32768 + b.toNat) % 65536) 0

/-- The sum of all bytes, with what does not fit into 16 bits added again. -/
def summing (text : Bytes) : Nat :=
  let sum := (text.foldl (fun sum b => sum + b.toNat) 0) % 4294967296
  let once := sum % 65536 + sum / 65536
  once % 65536 + once / 65536

end Digest

end LineShell.Host
