import SessionNet.Proofs.Frame.Shape

/-!
# The frames of a message

Chunks add up to what was cut; all of them but the last are of the size asked for, and the last is
neither empty nor longer. So the chunks are as many as were counted ahead, and the marker of the last
one is in its place. A message has frames unless its payload exceeds both the frame limit and the
largest message, and they are written behind whatever the destination holds.
-/

namespace SessionNet

theorem effectiveLimit_pos (limit : Nat) : 0 < effectiveLimit limit := by
  simp only [effectiveLimit]
  omega

theorem effectiveLimit_le (limit : Nat) : effectiveLimit limit ≤ maxFrameLimit := by
  simp only [effectiveLimit, maxFrameLimit]
  omega

namespace Frame

/-! ## Chunks -/

/-- Bytes cut into full pieces of a size and one more piece, which may be shorter but is not empty. -/
structure Cut (size : Nat) (bytes : Bytes) (full : List Bytes) (last : Bytes) : Prop where
  whole : full.flatten ++ last = bytes
  even : ∀ piece ∈ full, piece.length = size
  last_pos : 1 ≤ last.length
  last_le : last.length ≤ size

namespace Cut

variable {size : Nat} {bytes : Bytes} {full : List Bytes} {last : Bytes}

theorem cons (cut : Cut size bytes full last) {piece : Bytes} (h : piece.length = size) :
    Cut size (piece ++ bytes) (piece :: full) last where
  whole := by rw [← cut.whole, List.flatten_cons, List.append_assoc]
  even := List.forall_mem_cons.2 ⟨h, cut.even⟩
  last_pos := cut.last_pos
  last_le := cut.last_le

theorem flatten_eq (cut : Cut size bytes full last) : (full ++ [last]).flatten = bytes := by
  rw [List.flatten_append, List.flatten_singleton, cut.whole]

theorem length_eq (cut : Cut size bytes full last) :
    bytes.length = full.length * size + last.length := by
  rw [← cut.whole, List.length_append, List.length_flatten, List.map_congr_left cut.even,
    List.map_const', List.sum_replicate_nat]

/-- There are as many pieces as the size goes into the whole, rounded up. -/
theorem count (cut : Cut size bytes full last) :
    full.length + 1 = (bytes.length + size - 1) / size := by
  have hpos := cut.last_pos
  have hle := cut.last_le
  have hsplit : bytes.length + size - 1 = (last.length - 1) + (full.length + 1) * size := by
    rw [cut.length_eq, Nat.add_mul]
    omega
  rw [hsplit, Nat.add_mul_div_right _ _ (Nat.lt_of_lt_of_le hpos hle),
    Nat.div_eq_of_lt (by omega), Nat.zero_add]

theorem length_le (cut : Cut size bytes full last) :
    ∀ piece ∈ full ++ [last], piece.length ≤ size := by
  intro piece hmem
  rcases List.mem_append.1 hmem with hfull | hlast
  · exact Nat.le_of_eq (cut.even piece hfull)
  · rw [List.mem_singleton.1 hlast]
    exact cut.last_le

end Cut

theorem exists_cut_after {size : Nat} (hsize : 0 < size) (cut : List Bytes) {bytes : Bytes}
    (h : bytes ≠ []) :
    ∃ full last, chunksAfter size cut bytes = cut.reverse ++ (full ++ [last]) ∧
      Cut size bytes full last := by
  fun_induction chunksAfter size cut bytes with
  | case1 cut bytes hstop => exact absurd (hstop.resolve_left (Nat.ne_of_gt hsize)) h
  | case2 cut bytes hgo ih =>
      have hlength : 0 < bytes.length := List.length_pos_iff.2 h
      by_cases hrest : bytes.drop size = []
      · -- nothing is left behind the piece just cut, which is the last one
        refine ⟨[], bytes.take size, ?_, ?_, by simp, ?_, ?_⟩
        · rw [chunksAfter, dif_pos (.inr hrest), List.reverse_cons]
          rfl
        · exact (List.append_nil _).symm.trans (hrest ▸ List.take_append_drop size bytes)
        · rw [List.length_take]
          omega
        · rw [List.length_take]
          exact Nat.min_le_left _ _
      · obtain ⟨full, last, hchunks, hcut⟩ := ih hrest
        have hpiece : (bytes.take size).length = size := by
          have hmore := mt List.drop_eq_nil_iff.2 hrest
          rw [List.length_take]
          omega
        refine ⟨bytes.take size :: full, last, by rw [hchunks]; simp, ?_⟩
        have hwhole := hcut.cons hpiece
        rwa [List.take_append_drop] at hwhole

/-- All chunks but the last are of the size asked for. -/
theorem exists_cut {size : Nat} (hsize : 0 < size) {bytes : Bytes} (h : bytes ≠ []) :
    ∃ full last, chunks size bytes = full ++ [last] ∧ Cut size bytes full last :=
  exists_cut_after hsize [] h

@[simp] theorem chunkFrames_singleton (header : Header) (chunk : Bytes) :
    chunkFrames header [chunk] = bigSized header lastMarker chunk := by
  simp [chunkFrames]

@[simp] theorem chunkFrames_cons_cons (header : Header) (chunk next : Bytes)
    (chunks : List Bytes) :
    chunkFrames header (chunk :: next :: chunks) =
      bigSized header continuationMarker chunk ++ chunkFrames header (next :: chunks) := by
  simp [chunkFrames]

/-! ## Lengths -/

theorem fits_of_regular {header : Header} (h : header.bigSized = false) {length : Nat}
    (hlength : length ≤ maxFrameLimit) : Fits header length := by
  have hfield : Nat.pow 256 header.lengthWidth = maxFrameLimit + 1 := by
    simp [Header.lengthWidth, h, maxFrameLimit]
  rw [Fits, hfield]
  omega

theorem fits_of_bigSized {header : Header} (h : header.bigSized = true) {length : Nat}
    (hlength : length ≤ maxMessageSize) : Fits header length := by
  have hfield : maxMessageSize < Nat.pow 256 header.lengthWidth := by
    simp [Header.lengthWidth, h, maxMessageSize]
  exact Nat.lt_of_le_of_lt hlength hfield

/-! ## Writing -/

/-- A length that four bytes can hold is not changed by narrowing it. -/
theorem writeBigSized_eq {data : Bytes} (h : data.length + 1 < UInt32.size) (header : Header)
    (marker : UInt8) : writeBigSized header marker data = bigSized header marker data := by
  rw [writeBigSized, UInt32.toNat_ofNat_of_lt' h, bigSized]

theorem writeHead_eq {total : Nat} (h : total.toUInt32.toNat = total) (header : Header) :
    writeHead header total = head header total := by
  rw [writeHead, h, head, bigSized, Bytes.length_bigEndian]
  rfl

theorem chunkFrames_append_singleton (header : Header) (full : List Bytes) (last : Bytes) :
    chunkFrames header (full ++ [last]) =
      full.flatMap (bigSized header continuationMarker) ++ bigSized header lastMarker last := by
  simp [chunkFrames]

/-- If the count is right, exactly the last chunk is marked as such. -/
theorem writeChunks_eq {full : List Bytes} {last : Bytes}
    (h : ∀ chunk ∈ full ++ [last], chunk.length + 1 < UInt32.size) (header : Header) :
    writeChunks header (full.length + 1) (full ++ [last]) =
      chunkFrames header (full ++ [last]) := by
  have hfull : ∀ entry ∈ full.zipIdx,
      writeBigSized header (chunkMarker (full.length + 1) entry.2) entry.1 =
        bigSized header continuationMarker entry.1 := by
    rintro ⟨chunk, index⟩ hmem
    have hindex : index < full.length := by simpa using (List.mem_zipIdx hmem).2.1
    have hchunk : chunk ∈ full := List.fst_mem_of_mem_zipIdx hmem
    have hmarker : chunkMarker (full.length + 1) index = continuationMarker := if_neg (by omega)
    exact hmarker ▸ writeBigSized_eq (h chunk (List.mem_append_left _ hchunk)) header _
  have hlast : writeBigSized header (chunkMarker (full.length + 1) full.length) last =
      bigSized header lastMarker last := by
    have hmarker : chunkMarker (full.length + 1) full.length = lastMarker := if_pos rfl
    exact hmarker ▸ writeBigSized_eq (h last (by simp)) header _
  rw [chunkFrames_append_singleton, writeChunks, List.zipIdx_append, List.flatMap_append,
    List.flatMap_def, List.map_congr_left hfull, ← List.flatMap_def,
    ← List.flatMap_map Prod.fst (bigSized header continuationMarker), List.zipIdx_map_fst]
  simp [hlast]

end Frame

/-! ## Messages -/

namespace WireMessage

variable {message : WireMessage} {limit : Nat}

theorem size_toUInt16 (h : message.payload.length ≤ effectiveLimit limit) :
    message.payload.length.toUInt16.toNat = message.payload.length := by
  apply UInt16.toNat_ofNat_of_lt'
  exact Nat.lt_succ_of_le (Nat.le_trans h (effectiveLimit_le limit))

theorem size_toUInt32 (h : message.payload.length ≤ maxMessageSize) :
    message.payload.length.toUInt32.toNat = message.payload.length :=
  UInt32.toNat_ofNat_of_lt' (Nat.lt_of_le_of_lt h (by decide))

/-- A chunk and its marker are never too long for the field. -/
theorem chunk_lt {full : List Bytes} {last : Bytes}
    (hcut : Frame.Cut (effectiveLimit limit) message.payload full last) :
    ∀ chunk ∈ full ++ [last], chunk.length + 1 < UInt32.size := by
  intro chunk hmem
  have hlimit := Nat.le_trans (hcut.length_le chunk hmem) (effectiveLimit_le limit)
  exact Nat.lt_of_le_of_lt (Nat.succ_le_succ hlimit) (by decide)

theorem writeFrames_of_regular (h : message.payload.length ≤ effectiveLimit limit)
    (destination : Bytes) :
    message.writeFrames limit destination =
      (destination ++ Frame.regular (message.header.shaped false) message.payload,
        .ok (message.header.shaped false)) := by
  rw [writeFrames, if_pos h, size_toUInt16 h]
  rfl

theorem writeFrames_of_large (h : effectiveLimit limit < message.payload.length)
    (hlarge : maxMessageSize < message.payload.length) (destination : Bytes) :
    message.writeFrames limit destination =
      (destination, .error (.oversizedPacket message.payload.length)) := by
  rw [writeFrames, if_neg (Nat.not_le.2 h), if_pos hlarge]

/-- The count of the chunks and the way they are cut agree. -/
theorem writeFrames_of_cut (h : effectiveLimit limit < message.payload.length)
    (hmax : message.payload.length ≤ maxMessageSize) {full : List Bytes} {last : Bytes}
    (hchunks : Frame.chunks (effectiveLimit limit) message.payload = full ++ [last])
    (hcut : Frame.Cut (effectiveLimit limit) message.payload full last) (destination : Bytes) :
    message.writeFrames limit destination =
      (destination ++ (Frame.head (message.header.shaped true) message.payload.length
          ++ Frame.chunkFrames (message.header.shaped true) (full ++ [last])),
        .ok (message.header.shaped true)) := by
  rw [writeFrames, if_neg (Nat.not_le.2 h), if_neg (Nat.not_lt.2 hmax), hchunks, ← hcut.count,
    ← Frame.writeHead_eq (size_toUInt32 hmax), ← Frame.writeChunks_eq (chunk_lt hcut)]

theorem exists_cut (h : effectiveLimit limit < message.payload.length) :
    ∃ full last, Frame.chunks (effectiveLimit limit) message.payload = full ++ [last] ∧
      Frame.Cut (effectiveLimit limit) message.payload full last :=
  Frame.exists_cut (effectiveLimit_pos limit)
    (List.length_pos_iff.1 (Nat.lt_of_le_of_lt (Nat.zero_le _) h))

theorem frames_of_regular (h : message.payload.length ≤ effectiveLimit limit) :
    message.frames limit =
      .ok (Frame.toBytes (message.header.shaped false) message.payload) := by
  rw [frames, appendFrames, writeFrames_of_regular h, Frame.regular_eq_toBytes rfl]
  rfl

theorem frames_of_bigSized (h : effectiveLimit limit < message.payload.length)
    (hmax : message.payload.length ≤ maxMessageSize) :
    message.frames limit =
      .ok (Frame.head (message.header.shaped true) message.payload.length
        ++ Frame.chunkFrames (message.header.shaped true)
          (Frame.chunks (effectiveLimit limit) message.payload)) := by
  obtain ⟨full, last, hchunks, hcut⟩ := exists_cut h
  rw [frames, appendFrames, writeFrames_of_cut h hmax hchunks hcut, hchunks]
  rfl

theorem frames_of_large (h : effectiveLimit limit < message.payload.length)
    (hlarge : maxMessageSize < message.payload.length) :
    message.frames limit = .error (.oversizedPacket message.payload.length) := by
  rw [frames, appendFrames, writeFrames_of_large h hlarge]
  rfl

theorem frames_eq_error_iff {e : NetError} :
    message.frames limit = .error e ↔
      effectiveLimit limit < message.payload.length ∧ maxMessageSize < message.payload.length ∧
        e = .oversizedPacket message.payload.length := by
  by_cases hbig : effectiveLimit limit < message.payload.length
  · by_cases hlarge : maxMessageSize < message.payload.length
    · simp [frames_of_large hbig hlarge, hbig, hlarge, eq_comm]
    · simp [frames_of_bigSized hbig (Nat.le_of_not_lt hlarge), hlarge]
  · simp [frames_of_regular (Nat.le_of_not_lt hbig), hbig]

/-- Whatever the destination holds is left alone, and the frames go behind it. -/
theorem writeFrames_eq (message : WireMessage) (limit : Nat) (destination : Bytes) :
    message.writeFrames limit destination =
      match message.frames limit with
      | .ok bytes => (destination ++ bytes, .ok (message.writtenHeader limit))
      | .error e => (destination, .error e) := by
  by_cases hbig : effectiveLimit limit < message.payload.length
  · have hheader : message.writtenHeader limit = message.header.shaped true := by
      simp [writtenHeader, hbig]
    by_cases hlarge : maxMessageSize < message.payload.length
    · rw [frames_of_large hbig hlarge, writeFrames_of_large hbig hlarge]
    · have hmax := Nat.le_of_not_lt hlarge
      obtain ⟨full, last, hchunks, hcut⟩ := exists_cut hbig
      rw [frames_of_bigSized hbig hmax, writeFrames_of_cut hbig hmax hchunks hcut, hheader, hchunks]
  · have hregular := Nat.le_of_not_lt hbig
    have hheader : message.writtenHeader limit = message.header.shaped false := by
      simp [writtenHeader, hbig]
    rw [frames_of_regular hregular, writeFrames_of_regular hregular, hheader,
      Frame.regular_eq_toBytes rfl]

theorem appendFrames_eq (message : WireMessage) (limit : Nat) (destination : Bytes) :
    message.appendFrames limit destination =
      match message.frames limit with
      | .ok bytes => .ok (message.writtenHeader limit, destination ++ bytes)
      | .error e => .error e := by
  rw [appendFrames, writeFrames_eq]
  rcases message.frames limit with e | bytes <;> rfl

theorem length_le_of_frames {bytes : Bytes} (h : message.frames limit = .ok bytes)
    (hbig : effectiveLimit limit < message.payload.length) :
    message.payload.length ≤ maxMessageSize := by
  apply Nat.le_of_not_lt
  intro hlarge
  rw [frames_eq_error_iff.2 ⟨hbig, hlarge, rfl⟩] at h
  cases h

theorem appendFrames_eq_error_iff {destination : Bytes} {e : NetError} :
    message.appendFrames limit destination = .error e ↔ message.frames limit = .error e := by
  rw [appendFrames_eq]
  rcases message.frames limit with e' | bytes
  · simp
  · simp

/-- A message of at most the largest size always has frames. -/
theorem exists_frames (h : message.payload.length ≤ maxMessageSize) (limit : Nat) :
    ∃ bytes, message.frames limit = .ok bytes := by
  rcases hframes : message.frames limit with e | bytes
  · have hlarge := (frames_eq_error_iff.1 hframes).2.1
    omega
  · exact ⟨bytes, rfl⟩

/-- The first byte of the frames tells the header that was written. -/
theorem head?_frames {bytes : Bytes} (h : message.frames limit = .ok bytes) :
    bytes.head? = some (message.writtenHeader limit).toByte := by
  by_cases hbig : effectiveLimit limit < message.payload.length
  · rw [frames_of_bigSized hbig (length_le_of_frames h hbig)] at h
    cases h
    simp [Frame.head, Frame.bigSized, writtenHeader, hbig]
  · rw [frames_of_regular (Nat.le_of_not_lt hbig)] at h
    cases h
    simp [Frame.toBytes, writtenHeader, hbig]

end WireMessage

end SessionNet
