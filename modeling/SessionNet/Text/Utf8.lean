import SessionNet.Bytes

/-!
# Text as UTF-8

The bytes of a text and back.
-/

namespace SessionNet.Text

/-- The UTF-8 bytes of a text. -/
def utf8 (s : String) : Bytes := s.toByteArray.data.toList

/-- The text with the given UTF-8 bytes; nothing when they are not valid UTF-8. -/
def ofUtf8? (bs : Bytes) : Option String := String.fromUTF8? ⟨bs.toArray⟩

/-- Whether a byte continues a character begun by an earlier byte. -/
def isContinuation (b : UInt8) : Bool := 0x80 ≤ b && b < 0xc0

/-! ## Reading undoes writing -/

@[simp] theorem ofUtf8?_utf8 (s : String) : ofUtf8? (utf8 s) = some s := by
  simp [ofUtf8?, utf8, String.fromUTF8?, String.fromUTF8, s.isValidUTF8]

end SessionNet.Text
