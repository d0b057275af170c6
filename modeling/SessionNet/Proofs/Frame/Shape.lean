import SessionNet.Frame.Decoder
import SessionNet.Proofs.Bytes

/-!
# The shape of one frame

Both kinds of frame are a flag byte, the length of the body in a field whose width the flags tell,
and the body. A decoder takes a frame off a buffer exactly if the buffer starts with one and the
body is within its limit; it refuses a buffer exactly if the flags are reserved or the length is
excessive. Neither verdict changes when more bytes arrive.
-/

namespace SessionNet

namespace Header

theorem ofByte_eq_ok_iff {byte : UInt8} {h : Header} : ofByte byte = .ok h ↔ byte = h.toByte := by
  constructor
  · intro hread
    simp only [ofByte] at hread
    split at hread
    · cases hread
    · -- the header keeps four bits, and a byte below 16 has no others
      have hbit (n : Nat) : (n % 2 == 1).toNat = n % 2 := by
        rcases Nat.mod_two_eq_zero_or_one n with hn | hn <;> simp [hn]
      cases hread
      apply UInt8.toNat.inj
      simp only [toByte, hbit, UInt8.toNat_ofNat']
      omega
  · rintro rfl
    exact ofByte_toByte h

theorem ofByte_eq_error_iff {byte : UInt8} {e : NetError} :
    ofByte byte = .error e ↔ 16 ≤ byte.toNat ∧ e = .invalidHeader byte := by
  simp only [ofByte]
  split
  · rename_i hlarge
    simp [hlarge, eq_comm]
  · rename_i hsmall
    simp [hsmall]

end Header

namespace Frame

/-- A frame of either kind. -/
def toBytes (header : Header) (body : Bytes) : Bytes :=
  header.toByte :: (Bytes.bigEndian header.lengthWidth body.length ++ body)

theorem regular_eq_toBytes {header : Header} (h : header.bigSized = false) (payload : Bytes) :
    regular header payload = toBytes header payload := by
  simp [regular, toBytes, Header.lengthWidth, h]

theorem bigSized_eq_toBytes {header : Header} (h : header.bigSized = true) (marker : UInt8)
    (data : Bytes) : bigSized header marker data = toBytes header (marker :: data) := by
  simp [bigSized, toBytes, Header.lengthWidth, h]

/-- A body length that the field of the frame can tell. -/
def Fits (header : Header) (length : Nat) : Prop := length < Nat.pow 256 header.lengthWidth

end Frame

namespace FrameDecoder

variable {d : FrameDecoder} {buffer : Bytes}

/-! ## Taking a frame -/

theorem takeFrame_eq_some_iff {taken : Taken} :
    d.takeFrame buffer = .ok (some taken) ↔
      buffer = Frame.toBytes taken.header taken.body ++ taken.rest ∧
        Frame.Fits taken.header taken.body.length ∧
        taken.body.length ≤ d.maxBody taken.header := by
  constructor
  · intro h
    -- every way but one through the decoder stops before the body is taken
    unfold takeFrame at h
    split at h
    · cases h
    · rename_i flags rest
      split at h
      · cases h
      · rename_i header hheader
        split at h
        · cases h
        · rename_i length rest' hread
          split at h
          · cases h
          · rename_i hlimit
            split at h
            · cases h
            · rename_i body rest'' htake
              cases h
              rcases Bytes.readBig?_eq_some_iff.1 hread with ⟨rfl, hfits⟩
              rcases Bytes.takeExactly?_eq_some_iff.1 htake with ⟨rfl, rfl⟩
              have hflags := Header.ofByte_eq_ok_iff.1 hheader
              exact ⟨by simp [Frame.toBytes, hflags], hfits, Nat.le_of_not_lt hlimit⟩
  · rintro ⟨rfl, hfits, hlimit⟩
    have hread :
        Bytes.readBig? taken.header.lengthWidth
            (Bytes.bigEndian taken.header.lengthWidth taken.body.length
              ++ (taken.body ++ taken.rest)) =
          some (taken.body.length, taken.body ++ taken.rest) :=
      Bytes.readBig?_eq_some_iff.2 ⟨rfl, hfits⟩
    have htake :
        Bytes.takeExactly? taken.body.length (taken.body ++ taken.rest) =
          some (taken.body, taken.rest) :=
      Bytes.takeExactly?_append rfl taken.rest
    simp [takeFrame, Frame.toBytes, hread, htake, Nat.not_lt.2 hlimit]

theorem takeFrame_eq_error_iff {e : NetError} :
    d.takeFrame buffer = .error e ↔
      (∃ flags rest, buffer = flags :: rest ∧ 16 ≤ flags.toNat ∧ e = .invalidHeader flags) ∨
      (∃ header length rest,
        buffer = header.toByte :: (Bytes.bigEndian header.lengthWidth length ++ rest) ∧
          Frame.Fits header length ∧ d.maxBody header < length ∧ e = .oversizedPacket length) := by
  constructor
  · intro h
    -- the length is judged before the body is there, so the rest is arbitrary
    unfold takeFrame at h
    split at h
    · cases h
    · rename_i flags rest
      split at h
      · rename_i hheader
        cases h
        rcases Header.ofByte_eq_error_iff.1 hheader with ⟨hlarge, rfl⟩
        exact .inl ⟨flags, rest, rfl, hlarge, rfl⟩
      · rename_i header hheader
        have hflags := Header.ofByte_eq_ok_iff.1 hheader
        split at h
        · cases h
        · rename_i length rest' hread
          rcases Bytes.readBig?_eq_some_iff.1 hread with ⟨rfl, hfits⟩
          split at h
          · rename_i hlimit
            cases h
            exact .inr ⟨header, length, rest', by rw [hflags], hfits, hlimit, rfl⟩
          · split at h <;> cases h
  · rintro (⟨flags, rest, rfl, hlarge, rfl⟩ | ⟨header, length, rest, rfl, hfits, hlimit, rfl⟩)
    · have hheader := Header.ofByte_eq_error_iff.2 ⟨hlarge, rfl⟩
      simp [takeFrame, hheader]
    · have hread :
          Bytes.readBig? header.lengthWidth (Bytes.bigEndian header.lengthWidth length ++ rest) =
            some (length, rest) :=
        Bytes.readBig?_eq_some_iff.2 ⟨rfl, hfits⟩
      simp [takeFrame, hread, hlimit]

/-- A complete frame stays the first one when more bytes arrive. -/
theorem takeFrame_append {taken : Taken} (h : d.takeFrame buffer = .ok (some taken))
    (more : Bytes) :
    d.takeFrame (buffer ++ more) = .ok (some { taken with rest := taken.rest ++ more }) := by
  rcases takeFrame_eq_some_iff.1 h with ⟨rfl, hfits, hlimit⟩
  exact takeFrame_eq_some_iff.2 ⟨by simp, hfits, hlimit⟩

/-- A refused buffer is refused for the same reason when more bytes arrive. -/
theorem takeFrame_append_of_error {e : NetError} (h : d.takeFrame buffer = .error e)
    (more : Bytes) : d.takeFrame (buffer ++ more) = .error e := by
  rcases takeFrame_eq_error_iff.1 h with
    ⟨flags, rest, rfl, hlarge, rfl⟩ | ⟨header, length, rest, rfl, hfits, hlimit, rfl⟩
  · exact takeFrame_eq_error_iff.2 (.inl ⟨flags, rest ++ more, rfl, hlarge, rfl⟩)
  · exact takeFrame_eq_error_iff.2
      (.inr ⟨header, length, rest ++ more, by simp, hfits, hlimit, rfl⟩)

@[simp] theorem takeFrame_nil : d.takeFrame [] = .ok none := rfl

end FrameDecoder

end SessionNet
