import SessionNet.Cipher.ChaCha20
import SessionNet.Cipher.Poly1305
import SessionNet.Error

/-!
# Sealed payloads

Authenticated encryption with XChaCha20-Poly1305. A sealed payload is the nonce, the ciphertext and
the tag. The nonce may be drawn at random for every payload, so one key serves all sessions; it is
an argument here, and nothing depends on how it is drawn.
-/

namespace SessionNet

/-- A nonce of 24 bytes. -/
structure Nonce where
  bytes : Bytes
  length_eq : bytes.length = 24
  deriving DecidableEq, Repr

/-- The nonce that counts `n`. -/
def Nonce.ofNat (n : Nat) : Nonce := ⟨Bytes.littleEndian 24 n, Bytes.length_littleEndian 24 n⟩

/-- A way to seal payloads. -/
structure Encryptor where
  encrypt : Nonce → Bytes → Except NetError Bytes
  decrypt : Bytes → Except NetError Bytes

namespace Cipher

/-- A secret key of 32 bytes. -/
structure SecretKey where
  bytes : Bytes
  length_eq : bytes.length = 32
  deriving DecidableEq, Repr

namespace XChaCha

def nonceLength : Nat := 24

def tagLength : Nat := 16

/-- The key and nonce of the stream for a long nonce. -/
def streamOf (key : SecretKey) (nonce : Bytes) : List UInt32 × List UInt32 :=
  (ChaCha20.derive (ChaCha20.words key.bytes) (ChaCha20.words (nonce.take 16)),
    0 :: ChaCha20.words (nonce.drop 16))

/-- Zeros that fill the last block of sixteen bytes. -/
def padding (length : Nat) : Bytes := List.replicate ((16 - length % 16) % 16) 0

def tagOf (key nonce : List UInt32) (ciphertext : Bytes) : Bytes :=
  let length := ciphertext.length
  let oneTimeKey := (ChaCha20.block key 0 nonce).take 32
  Poly1305.tag oneTimeKey
    (ciphertext ++ padding length ++ Bytes.littleEndian 8 0 ++ Bytes.littleEndian 8 length)

def encrypt (key : SecretKey) (nonce : Nonce) (payload : Bytes) : Bytes :=
  let (streamKey, streamNonce) := streamOf key nonce.bytes
  let ciphertext := ChaCha20.apply streamKey streamNonce 1 payload
  nonce.bytes ++ ciphertext ++ tagOf streamKey streamNonce ciphertext

/-- Open a sealed payload; nothing is revealed unless the tag fits. -/
def decrypt? (key : SecretKey) (sealed : Bytes) : Option Bytes :=
  if sealed.length < nonceLength + tagLength then none
  else
    let nonce := sealed.take nonceLength
    let body := sealed.drop nonceLength
    let ciphertext := body.take (body.length - tagLength)
    let tag := body.drop (body.length - tagLength)
    let (streamKey, streamNonce) := streamOf key nonce
    if tagOf streamKey streamNonce ciphertext == tag then
      some (ChaCha20.apply streamKey streamNonce 1 ciphertext)
    else none

/-- The cipher under a key as a collaborator of the codec. -/
def encryptor (key : SecretKey) : Encryptor :=
  ⟨fun nonce payload => .ok (encrypt key nonce payload),
    fun sealed =>
      match decrypt? key sealed with
      | some payload => .ok payload
      | none => .error .decryption⟩

end XChaCha

end Cipher

end SessionNet
