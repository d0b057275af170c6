import SessionNet.Codec
import SessionNet.Proofs.Cipher.XChaCha
import SessionNet.Proofs.Compression.Lz4
import SessionNet.Proofs.Frame.RoundTrip

/-!
# Messages survive the wire

The stages of the codec are undone one by one, each told by the flags alone whether it was applied.
Compressors and encryptors are arbitrary; of a compressor it is only assumed that it restores what
is no larger than the largest message, of an encryptor that it opens what it sealed.
-/

namespace SessionNet

/-- Whatever is no larger than the largest message is restored. -/
def Compressor.Lossless (k : Compressor) : Prop :=
  ∀ payload packed, payload.length ≤ maxMessageSize → k.compress payload = .ok packed →
    k.decompress packed = .ok payload

/-- Whatever was sealed opens, under every nonce. -/
def Encryptor.Lossless (e : Encryptor) : Prop :=
  ∀ nonce payload sealed, e.encrypt nonce payload = .ok sealed → e.decrypt sealed = .ok payload

theorem CompressionKind.lossless_lz4 : CompressionKind.lz4.compressor.Lossless := by
  intro payload packed hsize hcompress
  have hfield : payload.length < Nat.pow 256 4 := by
    have hroom : maxMessageSize < Nat.pow 256 4 := by decide
    omega
  cases hcompress
  simp [CompressionKind.compressor, CompressionKind.decompress, CompressionKind.compress,
    Compression.Lz4.decode?_encode hsize hfield]

theorem Cipher.XChaCha.lossless_encryptor (key : Cipher.SecretKey) :
    (Cipher.XChaCha.encryptor key).Lossless := by
  intro nonce payload sealed hencrypt
  cases hencrypt
  simp [Cipher.XChaCha.encryptor, Cipher.XChaCha.decrypt?_encrypt]

namespace CodecConfig

variable {c : CodecConfig} {nonce : Nonce}

/-! ## Compression -/

/-- Packing leaves the payload as it is or compresses it, and the flag says which. -/
theorem pack_eq_ok {payload : Bytes} {packed : WireMessage} (h : c.pack payload = .ok packed) :
    (packed = ⟨{ binary := true }, payload⟩ ∧
      (c.compressor?.isSome && decide (c.compressionThreshold ≤ payload.length)) = false) ∨
    ∃ k bytes, c.compressor? = some k ∧ c.compressionThreshold ≤ payload.length ∧
      k.compress payload = .ok bytes ∧
      packed = ⟨{ binary := true, compressed := true }, bytes⟩ := by
  unfold pack at h
  split at h
  · rename_i hnone
    cases h
    exact .inl ⟨rfl, by simp [hnone]⟩
  · rename_i k hsome
    split at h
    · rename_i hlong
      split at h
      · cases h
      · rename_i bytes hcompress
        cases h
        exact .inr ⟨k, bytes, hsome, hlong, hcompress, rfl⟩
    · rename_i hshort
      cases h
      exact .inl ⟨rfl, by simp [hshort]⟩

theorem header_pack {payload : Bytes} {packed : WireMessage} (h : c.pack payload = .ok packed) :
    packed.header =
      { binary := true
        compressed := c.compressor?.isSome && decide (c.compressionThreshold ≤ payload.length) } := by
  rcases pack_eq_ok h with ⟨rfl, hplain⟩ | ⟨k, bytes, hsome, hlong, -, rfl⟩
  · rw [hplain]
  · simp [hsome, hlong]

theorem unpack_pack (hlossless : ∀ k ∈ c.compressor?, k.Lossless) {payload : Bytes}
    (hsize : payload.length ≤ SessionNet.maxMessageSize) (hmax : payload.length ≤ c.maxMessageSize)
    {packed : WireMessage} (h : c.pack payload = .ok packed) :
    c.unpack packed.header packed.payload = .ok payload := by
  rcases pack_eq_ok h with ⟨rfl, -⟩ | ⟨k, bytes, hsome, -, hcompress, rfl⟩
  · rfl
  · have hrestore := hlossless k hsome payload bytes hsize hcompress
    -- what is restored has the length of the payload, so the cap on it does not bite
    simp [unpack, hsome, hrestore, Nat.not_lt.2 hmax]

/-! ## Encryption -/

/-- Protection leaves the message as it is or encrypts it, and the flag says which. -/
theorem protect_eq_ok {encrypt : Bool} {message sealed : WireMessage}
    (h : c.protect nonce encrypt message = .ok sealed) :
    (sealed = message ∧ (encrypt && c.encryptor?.isSome) = false) ∨
    ∃ e bytes, encrypt = true ∧ c.encryptor? = some e ∧
      e.encrypt nonce message.payload = .ok bytes ∧
      sealed = ⟨{ message.header with encrypted := true }, bytes⟩ := by
  cases encrypt with
  | false =>
      cases h
      exact .inl ⟨rfl, rfl⟩
  | true =>
      rcases hkey : c.encryptor? with _ | e
      · simp only [protect, hkey] at h
        cases h
        exact .inl ⟨rfl, rfl⟩
      · simp only [protect, hkey] at h
        split at h
        · cases h
        · rename_i bytes hencrypt
          cases h
          exact .inr ⟨e, bytes, rfl, rfl, hencrypt, rfl⟩

theorem header_protect {encrypt : Bool} {message sealed : WireMessage}
    (hplain : message.header.encrypted = false)
    (h : c.protect nonce encrypt message = .ok sealed) :
    sealed.header = { message.header with encrypted := encrypt && c.encryptor?.isSome } := by
  rcases protect_eq_ok h with ⟨rfl, hopen⟩ | ⟨e, bytes, rfl, hkey, -, rfl⟩
  · rw [hopen, ← hplain]
  · simp [hkey]

theorem unprotect_protect (hlossless : ∀ e ∈ c.encryptor?, e.Lossless) {encrypt : Bool}
    {message sealed : WireMessage} (hplain : message.header.encrypted = false)
    (h : c.protect nonce encrypt message = .ok sealed) :
    c.unprotect sealed = .ok message.payload := by
  rcases protect_eq_ok h with ⟨rfl, -⟩ | ⟨e, bytes, -, hkey, hencrypt, rfl⟩
  · simp [unprotect, hplain]
  · have hopen := hlossless e hkey nonce message.payload bytes hencrypt
    simp [unprotect, hkey, hopen]

/-! ## Both -/

theorem sealPayload_eq_ok_iff {payload : Bytes} {encrypt : Bool} {sealed : WireMessage} :
    c.sealPayload nonce payload encrypt = .ok sealed ↔
      ∃ packed, c.pack payload = .ok packed ∧ c.protect nonce encrypt packed = .ok sealed := by
  rw [sealPayload]
  rcases c.pack payload with e | packed
  · simp
  · simp

/-- The flags of a sealed payload say which stages it went through. -/
theorem header_sealPayload {payload : Bytes} {encrypt : Bool} {sealed : WireMessage}
    (h : c.sealPayload nonce payload encrypt = .ok sealed) :
    sealed.header =
      { binary := true
        compressed := c.compressor?.isSome && decide (c.compressionThreshold ≤ payload.length)
        encrypted := encrypt && c.encryptor?.isSome } := by
  rcases sealPayload_eq_ok_iff.1 h with ⟨packed, hpack, hprotect⟩
  have hheader := header_pack hpack
  rw [header_protect (by rw [hheader]) hprotect, hheader]

/-- A sealed message opens. -/
theorem openMessage_sealPayload (hcompressor : ∀ k ∈ c.compressor?, k.Lossless)
    (hencryptor : ∀ e ∈ c.encryptor?, e.Lossless) {m : Message}
    (hformat : Message.deserialize c.format (m.serialize c.format) = .ok m)
    (hsize : (m.serialize c.format).length ≤ SessionNet.maxMessageSize)
    (hmax : (m.serialize c.format).length ≤ c.maxMessageSize) {encrypt : Bool}
    {sealed : WireMessage} (h : c.sealPayload nonce (m.serialize c.format) encrypt = .ok sealed) :
    c.openMessage sealed = .ok m := by
  rcases sealPayload_eq_ok_iff.1 h with ⟨packed, hpack, hprotect⟩
  have hplain : packed.header.encrypted = false := by
    rw [header_pack hpack]
  have hunprotect := unprotect_protect hencryptor hplain hprotect
  -- encryption leaves the flag of the compression alone
  have hcompressed : c.unpack sealed.header packed.payload = c.unpack packed.header packed.payload := by
    rw [header_protect hplain hprotect]
    rfl
  rw [openMessage, hunprotect]
  simp only [hcompressed, unpack_pack hcompressor hsize hmax hpack, hformat]

/-! ## On the wire -/

theorem encode_eq_ok_iff {m : Message} {header : Header} {bytes : Bytes} :
    c.encode nonce m = .ok (header, bytes) ↔
      ∃ sealed, c.sealPayload nonce (m.serialize c.format) true = .ok sealed ∧
        sealed.frames c.frameLimit = .ok bytes ∧ header = sealed.writtenHeader c.frameLimit := by
  rw [encode]
  rcases c.sealPayload nonce (m.serialize c.format) true with e | sealed
  · simp
  · rcases hframes : sealed.frames c.frameLimit with e | written
    · simp [frame, WireMessage.appendFrames_eq, hframes]
    · simp [frame, WireMessage.appendFrames_eq, hframes, and_comm, eq_comm]

theorem decode_of_frames {message : WireMessage} {bytes : Bytes}
    (hframes : message.frames c.frameLimit = .ok bytes)
    (hmax : effectiveLimit c.frameLimit < message.payload.length →
      message.payload.length ≤ c.maxMessageSize) :
    c.decode bytes = c.openMessage message := by
  have hdecode := FrameDecoder.decode_frames (d := c.frameDecoder) hframes rfl (Nat.le_refl _)
    (effectiveLimit_le _) hmax []
  rw [List.append_nil] at hdecode
  simp only [decode, hdecode, List.isEmpty_nil, if_true]
  -- opening looks at no flag that framing sets
  rfl

/--
A message that was encoded is decoded, and its flags say what was done to it. Encoding fails once
the payload is sealed exactly if that exceeds both the largest message and the frame limit.
-/
theorem decode_encode (c : CodecConfig) (nonce : Nonce) (m : Message)
    (hmax : c.maxMessageSize = SessionNet.maxMessageSize)
    (hformat : Message.deserialize c.format (m.serialize c.format) = .ok m)
    (hcompressor : ∀ k ∈ c.compressor?, k.Lossless)
    (hencryptor : ∀ e ∈ c.encryptor?, e.Lossless) :
    (∀ header bytes, (m.serialize c.format).length ≤ SessionNet.maxMessageSize →
      c.encode nonce m = .ok (header, bytes) →
        c.decode bytes = .ok m ∧
        bytes.head?.map Header.ofByte = some (.ok header) ∧
        header.binary = true ∧
        (header.compressed = true ↔
          c.compressor?.isSome = true ∧
            c.compressionThreshold ≤ (m.serialize c.format).length) ∧
        (header.encrypted = true ↔ c.encryptor?.isSome = true) ∧
        ∃ sealed, c.sealPayload nonce (m.serialize c.format) true = .ok sealed ∧
          (header.bigSized = true ↔ effectiveLimit c.frameLimit < sealed.payload.length)) ∧
    ∀ sealed, c.sealPayload nonce (m.serialize c.format) true = .ok sealed →
      ((∃ e, c.encode nonce m = .error e) ↔
        SessionNet.maxMessageSize < sealed.payload.length ∧
          effectiveLimit c.frameLimit < sealed.payload.length) := by
  constructor
  · intro header bytes hsize hencode
    rcases encode_eq_ok_iff.1 hencode with ⟨sealed, hseal, hframes, rfl⟩
    have hopen := openMessage_sealPayload hcompressor hencryptor hformat hsize (hmax ▸ hsize) hseal
    -- what is longer than the frame limit was written, so it is no larger than the largest message
    have hadmitted : effectiveLimit c.frameLimit < sealed.payload.length →
        sealed.payload.length ≤ c.maxMessageSize := by
      intro hbig
      rw [hmax]
      exact WireMessage.length_le_of_frames hframes hbig
    have hheader := header_sealPayload hseal
    refine ⟨(decode_of_frames hframes hadmitted).trans hopen, ?_, ?_, ?_, ?_, sealed, hseal, ?_⟩
    · rw [WireMessage.head?_frames hframes]
      simp
    · simp [WireMessage.writtenHeader, Header.shaped, hheader]
    · simp [WireMessage.writtenHeader, Header.shaped, hheader]
    · simp [WireMessage.writtenHeader, Header.shaped, hheader]
    · simp [WireMessage.writtenHeader, Header.shaped]
  · intro sealed hseal
    -- once the payload is sealed only framing can fail
    have hencode : c.encode nonce m = sealed.appendFrames c.frameLimit [] := by
      rw [encode, hseal]
      rfl
    rw [hencode]
    constructor
    · rintro ⟨e, herror⟩
      obtain ⟨hbig, hlarge, -⟩ :=
        WireMessage.frames_eq_error_iff.1 (WireMessage.appendFrames_eq_error_iff.1 herror)
      exact ⟨hlarge, hbig⟩
    · rintro ⟨hlarge, hbig⟩
      have hframes := WireMessage.frames_eq_error_iff.2 ⟨hbig, hlarge, rfl⟩
      exact ⟨_, WireMessage.appendFrames_eq_error_iff.2 hframes⟩

/-- Settings under which even a short message goes through every stage. -/
def everyStage : CodecConfig where
  compressionThreshold := 4
  frameLimit := 16
  compressor? := some CompressionKind.lz4.compressor
  encryptor? := some (Cipher.XChaCha.encryptor ⟨List.replicate 32 7, rfl⟩)

theorem decode_encode_everyStage :
    ∃ bytes,
      everyStage.encode (Nonce.ofNat 7) (Message.ofList [("a", .bool true)]) =
          .ok (⟨true, true, true, true⟩, bytes) ∧
        everyStage.decode bytes = .ok (Message.ofList [("a", .bool true)]) := by
  have hformat :
      Message.deserialize .messagePack
          ((Message.ofList [("a", .bool true)]).serialize .messagePack) =
        .ok (Message.ofList [("a", .bool true)]) := by
    with_unfolding_all rfl
  have hcompressor : ∀ k ∈ everyStage.compressor?, k.Lossless := by
    rintro k ⟨⟩
    exact CompressionKind.lossless_lz4
  have hencryptor : ∀ e ∈ everyStage.encryptor?, e.Lossless := by
    rintro e ⟨⟩
    exact Cipher.XChaCha.lossless_encryptor _
  have hheader :
      (everyStage.encode (Nonce.ofNat 7) (Message.ofList [("a", .bool true)])).toOption.map
          Prod.fst = some ⟨true, true, true, true⟩ := by
    decide +kernel
  rcases hencode :
    everyStage.encode (Nonce.ofNat 7) (Message.ofList [("a", .bool true)]) with e | ⟨header, bytes⟩
  · rw [hencode] at hheader
    cases hheader
  · rw [hencode] at hheader
    cases hheader
    have hdecode :=
      (decode_encode everyStage (Nonce.ofNat 7) _ rfl hformat hcompressor hencryptor).1 _ bytes
        (by decide) hencode
    exact ⟨bytes, rfl, hdecode.1⟩

end CodecConfig

end SessionNet
