import SessionNet.Error

/-!
# Frame headers

One byte of flags in front of every frame: bit 0 says that the body is binary, bit 1 that it is
compressed, bit 2 that the frame is big-sized, bit 3 that the body is encrypted. The upper half is
reserved and must be zero.
-/

namespace SessionNet

/-- How the bytes after the flag byte are to be understood. -/
structure Header where
  binary : Bool := false
  compressed : Bool := false
  bigSized : Bool := false
  encrypted : Bool := false
  deriving DecidableEq, Repr

namespace Header

def toByte (h : Header) : UInt8 :=
  UInt8.ofNat (h.binary.toNat + 2 * h.compressed.toNat + 4 * h.bigSized.toNat
    + 8 * h.encrypted.toNat)

/-- Read a flag byte; reserved bits are refused. -/
def ofByte (byte : UInt8) : Except NetError Header :=
  let n := byte.toNat
  if 16 ≤ n then .error (.invalidHeader byte)
  else
    .ok {
      binary := n % 2 == 1
      compressed := n / 2 % 2 == 1
      bigSized := n / 4 % 2 == 1
      encrypted := n / 8 % 2 == 1 }

/-- Bytes of the length field after the flag byte. -/
def lengthWidth (h : Header) : Nat := if h.bigSized then 4 else 2

/-- The same flags with the given frame shape. -/
def shaped (h : Header) (bigSized : Bool) : Header := { h with bigSized }

@[simp] theorem ofByte_toByte (h : Header) : ofByte h.toByte = .ok h := by
  obtain ⟨b, c, g, e⟩ := h
  cases b <;> cases c <;> cases g <;> cases e <;> rfl

end Header

end SessionNet
