import SessionNet.Bytes

/-!
# ChaCha20

A stream cipher: twenty rounds of additions, rotations and exclusive-ors turn a key, a counter and a
nonce into 64 bytes of key stream. The same rounds without the final addition derive a key from a
key and a longer nonce.
-/

namespace SessionNet.Cipher.ChaCha20

/-- Sixteen words: four constants, eight of the key and four of the counter and nonce. -/
abbrev State := Vector UInt32 16

/-- Rotate left by `n` bits, `0 < n < 32`. -/
def rotate (x n : UInt32) : UInt32 := (x <<< n) ||| (x >>> (32 - n))

/-- Mix four words of the state. -/
def quarterRound (s : State) (a b c d : Fin 16) : State :=
  let s := s.set a (s[a] + s[b])
  let s := s.set d (rotate (s[d] ^^^ s[a]) 16)
  let s := s.set c (s[c] + s[d])
  let s := s.set b (rotate (s[b] ^^^ s[c]) 12)
  let s := s.set a (s[a] + s[b])
  let s := s.set d (rotate (s[d] ^^^ s[a]) 8)
  let s := s.set c (s[c] + s[d])
  s.set b (rotate (s[b] ^^^ s[c]) 7)

/-- A round over the columns and one over the diagonals. -/
def doubleRound (s : State) : State :=
  let s := quarterRound s 0 4 8 12
  let s := quarterRound s 1 5 9 13
  let s := quarterRound s 2 6 10 14
  let s := quarterRound s 3 7 11 15
  let s := quarterRound s 0 5 10 15
  let s := quarterRound s 1 6 11 12
  let s := quarterRound s 2 7 8 13
  quarterRound s 3 4 9 14

def rounds (s : State) : State := Nat.repeat doubleRound 10 s

/-- The words of a byte string, least significant byte first. -/
def words : Bytes → List UInt32
  | b0 :: b1 :: b2 :: b3 :: rest =>
    (b0.toUInt32 ||| (b1.toUInt32 <<< 8) ||| (b2.toUInt32 <<< 16) ||| (b3.toUInt32 <<< 24))
      :: words rest
  | _ => []

/-- The bytes of a word, least significant first. -/
def wordBytes (w : UInt32) : Bytes :=
  [w.toUInt8, (w >>> 8).toUInt8, (w >>> 16).toUInt8, (w >>> 24).toUInt8]

/-- The four words at the head of every state. -/
def constants : List UInt32 := [0x61707865, 0x3320646e, 0x79622d32, 0x6b206574]

/-- The state of a key of eight words and four words of counter and nonce; missing words are zero.
-/
def initial (key tail : List UInt32) : State :=
  let all := constants ++ key ++ tail
  Vector.ofFn fun i => all.getD i.val 0

/-- 64 bytes of key stream. -/
def block (key : List UInt32) (counter : UInt32) (nonce : List UInt32) : Bytes :=
  let start := initial key (counter :: nonce)
  let mixed := rounds start
  (Vector.zipWith (· + ·) mixed start).toList.flatMap wordBytes

/-- The key that a key and sixteen bytes of nonce give. -/
def derive (key nonce : List UInt32) : List UInt32 :=
  let mixed := (rounds (initial key nonce)).toList
  mixed.take 4 ++ mixed.drop 12

/-- Combine bytes with the key stream from `counter` on, behind those already done, newest first. -/
def applyFrom (key nonce : List UInt32) (counter : UInt32) (done : Bytes) (bs : Bytes) : Bytes :=
  if _h : bs = [] then done.reverse
  else
    let stream := block key counter nonce
    let mixed := List.zipWith (· ^^^ ·) bs stream
    applyFrom key nonce (counter + 1) (mixed.reverseAux done) (bs.drop 64)
termination_by bs.length
decreasing_by
  have : bs.length ≠ 0 := fun hlen => _h (List.length_eq_zero_iff.1 hlen)
  simp only [List.length_drop]
  omega

/-- Encrypt or decrypt bytes with the key stream from `counter` on. -/
def apply (key nonce : List UInt32) (counter : UInt32) (bs : Bytes) : Bytes :=
  applyFrom key nonce counter [] bs

end SessionNet.Cipher.ChaCha20
