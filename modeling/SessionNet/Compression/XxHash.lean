import SessionNet.Bytes

/-!
# XXH64

A 64-bit checksum over 32-byte stripes: four lanes take eight bytes of each stripe, are merged, and
the bytes after the last whole stripe are mixed in.
-/

namespace SessionNet.Compression.XxHash

def prime1 : UInt64 := 0x9E3779B185EBCA87
def prime2 : UInt64 := 0xC2B2AE3D27D4EB4F
def prime3 : UInt64 := 0x165667B19E3779F9
def prime4 : UInt64 := 0x85EBCA77C2B2AE63
def prime5 : UInt64 := 0x27D4EB2F165667C5

/-- Rotate left by `n` bits, `0 < n < 64`. -/
def rotate (x n : UInt64) : UInt64 := (x <<< n) ||| (x >>> (64 - n))

/-- Take eight bytes into a lane. -/
def round (lane word : UInt64) : UInt64 := rotate (lane + word * prime2) 31 * prime1

/-- Fold a lane into the merged hash. -/
def merge (hash lane : UInt64) : UInt64 := (hash ^^^ round 0 lane) * prime1 + prime4

/-- The word whose least significant byte comes first. -/
def word (b0 b1 b2 b3 b4 b5 b6 b7 : UInt8) : UInt64 :=
  b0.toUInt64 ||| (b1.toUInt64 <<< 8) ||| (b2.toUInt64 <<< 16) ||| (b3.toUInt64 <<< 24)
    ||| (b4.toUInt64 <<< 32) ||| (b5.toUInt64 <<< 40) ||| (b6.toUInt64 <<< 48)
    ||| (b7.toUInt64 <<< 56)

/-- The four lanes. -/
structure Lanes where
  a : UInt64
  b : UInt64
  c : UInt64
  d : UInt64

/-- The lanes before any stripe. -/
def Lanes.start (seed : UInt64) : Lanes :=
  ⟨seed + prime1 + prime2, seed + prime2, seed, seed - prime1⟩

def Lanes.merged (l : Lanes) : UInt64 :=
  let hash := rotate l.a 1 + rotate l.b 7 + rotate l.c 12 + rotate l.d 18
  merge (merge (merge (merge hash l.a) l.b) l.c) l.d

/-- Take whole words in turn into the four lanes, with what is left when a stripe is not full. -/
def stripes (l : Lanes) : Bytes → Lanes × Bytes
  | a0 :: a1 :: a2 :: a3 :: a4 :: a5 :: a6 :: a7 :: b0 :: b1 :: b2 :: b3 :: b4 :: b5 :: b6 :: b7
      :: c0 :: c1 :: c2 :: c3 :: c4 :: c5 :: c6 :: c7
      :: d0 :: d1 :: d2 :: d3 :: d4 :: d5 :: d6 :: d7 :: rest =>
    stripes
      ⟨round l.a (word a0 a1 a2 a3 a4 a5 a6 a7), round l.b (word b0 b1 b2 b3 b4 b5 b6 b7),
        round l.c (word c0 c1 c2 c3 c4 c5 c6 c7), round l.d (word d0 d1 d2 d3 d4 d5 d6 d7)⟩
      rest
  | rest => (l, rest)

/-- Mix in the bytes after the last stripe: words, then half words, then bytes. -/
def mixTail (hash : UInt64) : Bytes → UInt64
  | b0 :: b1 :: b2 :: b3 :: b4 :: b5 :: b6 :: b7 :: rest =>
    mixTail (rotate (hash ^^^ round 0 (word b0 b1 b2 b3 b4 b5 b6 b7)) 27 * prime1 + prime4) rest
  | b0 :: b1 :: b2 :: b3 :: rest =>
    mixTail (rotate (hash ^^^ (word b0 b1 b2 b3 0 0 0 0 * prime1)) 23 * prime2 + prime3) rest
  | b :: rest => mixTail (rotate (hash ^^^ (b.toUInt64 * prime5)) 11 * prime1) rest
  | [] => hash

/-- Spread every bit over the whole hash. -/
def avalanche (hash : UInt64) : UInt64 :=
  let hash := (hash ^^^ (hash >>> 33)) * prime2
  let hash := (hash ^^^ (hash >>> 29)) * prime3
  hash ^^^ (hash >>> 32)

/-- The checksum of a byte string. -/
def hash (seed : UInt64) (bs : Bytes) : UInt64 :=
  let (lanes, tail) := stripes (Lanes.start seed) bs
  let length := bs.length
  let start := if 32 ≤ length then lanes.merged else seed + prime5
  avalanche (mixTail (start + UInt64.ofNat length) tail)

example : hash 0 [] = 0xEF46DB3751D8E999 := by decide +kernel
example : hash 0 [0x61, 0x62, 0x63] = 0x44BC2CF5AD770999 := by decide +kernel

end SessionNet.Compression.XxHash
