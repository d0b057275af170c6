import SessionNet.Proofs.Codec.RoundTrip

/-!
# Messages that are sent and then refused for their size

The sender looks at the size of a message only after it was sealed, only if it takes more than one
frame, and compares it with the largest message there can be. The receiver compares what a head
frame declares with a limit that is part of the settings, and what it decompresses with both. So a
message can be written and then refused by a receiver with the same settings. When this happens is
exactly known: what came out of the sealing is too large for the settings, or what went into the
compression is too large for them or for any message.
-/

namespace SessionNet

/-- What is no larger than the largest message is restored, and anything larger is refused. -/
structure Compressor.Capped (k : Compressor) : Prop where
  restores : k.Lossless
  refuses : ∀ payload packed, maxMessageSize < payload.length → k.compress payload = .ok packed →
    k.decompress packed = .error .decompression

theorem CompressionKind.capped_lz4 : CompressionKind.lz4.compressor.Capped where
  restores := lossless_lz4
  refuses payload packed hlarge hcompress := by
    cases hcompress
    simp [compressor, decompress, compress, Compression.Lz4.decode?_encode_of_lt hlarge]

/-- Bytes that stand for no message are no other fault than that. -/
theorem Message.deserialize_eq_error {format : Format} {bytes : Bytes} {e : NetError}
    (h : Message.deserialize format bytes = .error e) : ∃ text, e = .deserialize text := by
  simp only [Message.deserialize] at h
  split at h
  · cases h
  · cases h
    exact ⟨_, rfl⟩

namespace CodecConfig

variable {c : CodecConfig} {nonce : Nonce}

/-- Only a payload that was compressed is measured again when it is restored. -/
theorem unpack_pack_eq (hcapped : ∀ k ∈ c.compressor?, k.Capped) {payload : Bytes}
    {packed : WireMessage} (h : c.pack payload = .ok packed) :
    c.unpack packed.header packed.payload =
      if packed.header.compressed ∧ SessionNet.maxMessageSize < payload.length then
        .error .decompression
      else if packed.header.compressed ∧ c.maxMessageSize < payload.length then
        .error (.oversizedPacket payload.length)
      else .ok payload := by
  rcases pack_eq_ok h with ⟨rfl, -⟩ | ⟨k, bytes, hsome, -, hcompress, rfl⟩
  · simp [unpack]
  · by_cases hlarge : SessionNet.maxMessageSize < payload.length
    · have hrefused := (hcapped k hsome).refuses payload bytes hlarge hcompress
      simp [unpack, hsome, hrefused, hlarge]
    · have hrestored := (hcapped k hsome).restores payload bytes (Nat.le_of_not_lt hlarge) hcompress
      simp [unpack, hsome, hrestored, hlarge]

theorem openMessage_sealPayload_eq (hcapped : ∀ k ∈ c.compressor?, k.Capped)
    (hlossless : ∀ e ∈ c.encryptor?, e.Lossless) {payload : Bytes} {encrypt : Bool}
    {sealed : WireMessage} (h : c.sealPayload nonce payload encrypt = .ok sealed) :
    c.openMessage sealed =
      if sealed.header.compressed ∧ SessionNet.maxMessageSize < payload.length then
        .error .decompression
      else if sealed.header.compressed ∧ c.maxMessageSize < payload.length then
        .error (.oversizedPacket payload.length)
      else Message.deserialize c.format payload := by
  rcases sealPayload_eq_ok_iff.1 h with ⟨packed, hpack, hprotect⟩
  have hplain : packed.header.encrypted = false := by
    rw [header_pack hpack]
  -- encryption leaves the flag of the compression alone
  have hcompressed : sealed.header.compressed = packed.header.compressed := by
    rw [header_protect hplain hprotect]
  have hunpack : c.unpack sealed.header packed.payload = c.unpack packed.header packed.payload := by
    simp only [unpack, hcompressed]
  rw [openMessage, unprotect_protect hlossless hplain hprotect]
  simp only [hunpack, unpack_pack_eq hcapped hpack, hcompressed]
  by_cases hlarge : packed.header.compressed ∧ SessionNet.maxMessageSize < payload.length
  · simp only [if_pos hlarge]
  · simp only [if_neg hlarge]
    by_cases hcap : packed.header.compressed ∧ c.maxMessageSize < payload.length
    · simp only [if_pos hcap]
    · simp only [if_neg hcap]

/-- What the receiver makes of a message that was written: it measures it once or twice. -/
theorem decode_encode_eq (hcapped : ∀ k ∈ c.compressor?, k.Capped)
    (hlossless : ∀ e ∈ c.encryptor?, e.Lossless) {m : Message} {header : Header} {bytes : Bytes}
    (h : c.encode nonce m = .ok (header, bytes)) :
    ∃ sealed, c.sealPayload nonce (m.serialize c.format) true = .ok sealed ∧
      c.decode bytes =
        if header.bigSized ∧ c.maxMessageSize < sealed.payload.length then
          .error (.oversizedPacket sealed.payload.length)
        else if header.compressed ∧ SessionNet.maxMessageSize < (m.serialize c.format).length then
          .error .decompression
        else if header.compressed ∧ c.maxMessageSize < (m.serialize c.format).length then
          .error (.oversizedPacket (m.serialize c.format).length)
        else Message.deserialize c.format (m.serialize c.format) := by
  rcases encode_eq_ok_iff.1 h with ⟨sealed, hseal, hframes, rfl⟩
  refine ⟨sealed, hseal, ?_⟩
  have hshape : (sealed.writtenHeader c.frameLimit).bigSized = true ↔
      effectiveLimit c.frameLimit < sealed.payload.length := by
    simp [WireMessage.writtenHeader, Header.shaped]
  by_cases hbig : (sealed.writtenHeader c.frameLimit).bigSized ∧
      c.maxMessageSize < sealed.payload.length
  · have hrefused := FrameDecoder.decode_frames_of_lt (d := c.frameDecoder) hframes rfl
      (hshape.mp hbig.1) hbig.2
    rw [if_pos hbig, decode]
    simp only [hrefused]
  · have hread := decode_of_frames hframes fun hlarge =>
      Nat.le_of_not_lt fun hcap => hbig ⟨hshape.mpr hlarge, hcap⟩
    rw [if_neg hbig, hread]
    exact openMessage_sealPayload_eq hcapped hlossless hseal

/--
A message that was written is refused by a receiver with the same settings in these cases and no
others. It is called oversized if it takes several frames and is larger, once sealed, than the
settings admit, or if it was compressed and is larger than they admit before that. It fails to
decompress if it was compressed although it is larger than any message may be.
-/
theorem decode_encode_refused_iff (c : CodecConfig) (nonce : Nonce) (m : Message)
    (hcapped : ∀ k ∈ c.compressor?, k.Capped) (hlossless : ∀ e ∈ c.encryptor?, e.Lossless)
    {header : Header} {bytes : Bytes} (hencode : c.encode nonce m = .ok (header, bytes)) :
    ∃ sealed, c.sealPayload nonce (m.serialize c.format) true = .ok sealed ∧
      ((∃ size, c.decode bytes = .error (.oversizedPacket size)) ↔
        (header.bigSized = true ∧ c.maxMessageSize < sealed.payload.length) ∨
          (header.compressed = true ∧ c.maxMessageSize < (m.serialize c.format).length ∧
            (m.serialize c.format).length ≤ SessionNet.maxMessageSize)) ∧
      (c.decode bytes = .error .decompression ↔
        ¬ (header.bigSized = true ∧ c.maxMessageSize < sealed.payload.length) ∧
          header.compressed = true ∧
            SessionNet.maxMessageSize < (m.serialize c.format).length) := by
  obtain ⟨sealed, hseal, hdecode⟩ := decode_encode_eq hcapped hlossless hencode
  refine ⟨sealed, hseal, ?_⟩
  -- what gets past both measurements can only fail for its format
  have hsize (size : Nat) :
      Message.deserialize c.format (m.serialize c.format) ≠ .error (.oversizedPacket size) := by
    intro h
    obtain ⟨_, ⟨⟩⟩ := Message.deserialize_eq_error h
  have hrestored : Message.deserialize c.format (m.serialize c.format) ≠ .error .decompression := by
    intro h
    obtain ⟨_, ⟨⟩⟩ := Message.deserialize_eq_error h
  rw [hdecode]
  by_cases hbig : header.bigSized = true ∧ c.maxMessageSize < sealed.payload.length
  · simp [hbig]
  · by_cases hlarge : SessionNet.maxMessageSize < (m.serialize c.format).length
    · have hnot : ¬ (m.serialize c.format).length ≤ SessionNet.maxMessageSize := Nat.not_le.2 hlarge
      cases header.compressed <;> simp [hbig, hlarge, hnot, hsize, hrestored]
    · have hsmall : (m.serialize c.format).length ≤ SessionNet.maxMessageSize :=
        Nat.le_of_not_lt hlarge
      by_cases hcap : c.maxMessageSize < (m.serialize c.format).length
      · cases header.compressed <;> simp [hbig, hlarge, hsmall, hcap, hsize, hrestored]
      · cases header.compressed <;> simp [hbig, hlarge, hcap, hsize, hrestored]

/-- Settings that admit messages of ten bytes, and compress those of four. -/
def tenBytes : CodecConfig where
  maxMessageSize := 10
  compressionThreshold := 4
  compressor? := some CompressionKind.lz4.compressor

/-- Under these settings a message of fifteen bytes is written, and then it is refused. -/
theorem decode_encode_refused_tenBytes :
    ∃ header bytes,
      tenBytes.encode (Nonce.ofNat 7) (Message.ofList [("type", .text "hi")]) =
          .ok (header, bytes) ∧
        ∃ size, tenBytes.decode bytes = .error (.oversizedPacket size) := by
  have hcapped : ∀ k ∈ tenBytes.compressor?, k.Capped := by
    rintro k ⟨⟩
    exact CompressionKind.capped_lz4
  have hlossless : ∀ e ∈ tenBytes.encryptor?, e.Lossless := nofun
  have hcompressed :
      (tenBytes.encode (Nonce.ofNat 7) (Message.ofList [("type", .text "hi")])).toOption.map
          (·.1.compressed) = some true := by
    decide +kernel
  rcases hencode : tenBytes.encode (Nonce.ofNat 7) (Message.ofList [("type", .text "hi")]) with
    e | ⟨header, bytes⟩
  · rw [hencode] at hcompressed
    cases hcompressed
  · rw [hencode] at hcompressed
    obtain ⟨sealed, -, hoversized, -⟩ :=
      decode_encode_refused_iff tenBytes (Nonce.ofNat 7) _ hcapped hlossless hencode
    exact ⟨header, bytes, rfl,
      hoversized.mpr (.inr ⟨Option.some.inj hcompressed, by decide, by decide⟩)⟩

/-- The bytes of a key. -/
def nines : List UInt8 := List.replicate 32 9

/-- Settings that admit messages of ten bytes, in frames of eight, and encrypt them. -/
def sealedTenBytes : CodecConfig where
  maxMessageSize := 10
  frameLimit := 8
  encryptor? := some (Cipher.XChaCha.encryptor ⟨nines, rfl⟩)

/-- What these settings write of a message is refused at its head frame under the same settings. -/
theorem sealed_message_refused :
    ∃ header bytes,
      sealedTenBytes.encode (Nonce.ofNat 7) (Message.ofList [("type", .text "hi")]) =
          .ok (header, bytes) ∧
        sealedTenBytes.decode bytes = .error (.oversizedPacket 55) := by
  have hcapped : ∀ k ∈ sealedTenBytes.compressor?, k.Capped := nofun
  have hlossless : ∀ e ∈ sealedTenBytes.encryptor?, e.Lossless := by
    rintro e ⟨⟩
    exact Cipher.XChaCha.lossless_encryptor _
  have hbig :
      (sealedTenBytes.encode (Nonce.ofNat 7) (Message.ofList [("type", .text "hi")])).toOption.map
          (·.1.bigSized) = some true := by
    decide +kernel
  -- fifteen bytes serialized, and the nonce and the tag around them
  have hlength :
      (sealedTenBytes.sealPayload (Nonce.ofNat 7)
          ((Message.ofList [("type", .text "hi")]).serialize .messagePack) true).toOption.map
          (·.payload.length) = some 55 := by
    decide +kernel
  rcases hencode : sealedTenBytes.encode (Nonce.ofNat 7) (Message.ofList [("type", .text "hi")]) with
    e | ⟨header, bytes⟩
  · rw [hencode] at hbig
    cases hbig
  · rw [hencode] at hbig
    obtain ⟨sealed, hseal, hdecode⟩ := decode_encode_eq hcapped hlossless hencode
    have hsize : sealed.payload.length = 55 := by
      have hsealed : sealedTenBytes.sealPayload (Nonce.ofNat 7)
          ((Message.ofList [("type", .text "hi")]).serialize .messagePack) true = .ok sealed := hseal
      rw [hsealed] at hlength
      exact Option.some.inj hlength
    have hlarge : sealedTenBytes.maxMessageSize < sealed.payload.length := by
      rw [hsize]
      decide
    rw [if_pos ⟨Option.some.inj hbig, hlarge⟩, hsize] at hdecode
    exact ⟨header, bytes, rfl, hdecode⟩

end CodecConfig

end SessionNet
