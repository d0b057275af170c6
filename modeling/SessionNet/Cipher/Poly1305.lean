import SessionNet.Bytes

/-!
# Poly1305

A one-time authenticator: the message, cut into blocks of sixteen bytes, gives the coefficients of a
polynomial over the integers modulo `2 ^ 130 - 5`, which is evaluated at one half of the key; the
other half is added to the value.
-/

namespace SessionNet.Cipher.Poly1305

def modulus : Nat := Nat.pow 2 130 - 5

/-- The bits of the first half of the key that count. -/
def clampMask : Nat := 0x0ffffffc0ffffffc0ffffffc0fffffff

/-- Take the blocks of `bs` into the value of the polynomial at `r`. -/
def evaluate (r value : Nat) (bs : Bytes) : Nat :=
  if _h : bs = [] then value
  else
    let block := bs.take 16
    let coefficient := Bytes.toNatLittle block + Nat.pow 256 block.length
    evaluate r ((value + coefficient) * r % modulus) (bs.drop 16)
termination_by bs.length
decreasing_by
  have : bs.length ≠ 0 := fun hlen => _h (List.length_eq_zero_iff.1 hlen)
  simp only [List.length_drop]
  omega

/-- The tag of a message under a one-time key of 32 bytes. -/
def tag (key message : Bytes) : Bytes :=
  let r := Bytes.toNatLittle (key.take 16) &&& clampMask
  let s := Bytes.toNatLittle (key.drop 16)
  Bytes.littleEndian 16 (evaluate r 0 message + s)

end SessionNet.Cipher.Poly1305
