import SessionNet.Proofs.Frame.Layout
import SessionNet.Proofs.Frame.Stream

/-!
# Frames read back

A decoder whose limits admit what was written reads every message back, with the frame shape in its
flags and nothing else changed, and is then as it was before. From one message this carries over to
a list of messages, and from the whole byte string to any pieces it is cut into.
-/

namespace SessionNet

namespace Assembly

theorem size_push (a : Assembly) (piece : Bytes) : (a.push piece).size = a.size + piece.length := by
  simp [size, push, Nat.add_comm]

theorem received_push (a : Assembly) (piece : Bytes) :
    (a.push piece).received = a.received ++ piece := by
  simp [received, push]

end Assembly

/-- The message with the flag of the frame shape that it is written in. -/
def WireMessage.written (message : WireMessage) (limit : Nat) : WireMessage :=
  { message with header := message.writtenHeader limit }

/-- The frames of messages, each written behind those before it. -/
def WireMessage.appendAll (limit : Nat) : List WireMessage → Bytes → Except NetError Bytes
  | [], destination => .ok destination
  | message :: messages, destination =>
    match message.appendFrames limit destination with
    | .error e => .error e
    | .ok (_, destination) => appendAll limit messages destination

namespace FrameDecoder

variable {d : FrameDecoder} {header : Header}

/-! ## Frames taken in -/

theorem takeFrame_toBytes {body : Bytes} (hfits : Frame.Fits header body.length)
    (hlimit : body.length ≤ d.maxBody header) (rest : Bytes) :
    d.takeFrame (Frame.toBytes header body ++ rest) = .ok (some ⟨header, body, rest⟩) :=
  takeFrame_eq_some_iff.2 ⟨rfl, hfits, hlimit⟩

theorem pushFrame_regular (h : header.bigSized = false) (hidle : d.assembly = none)
    (body : Bytes) : d.pushFrame header body = (d, .ok (some ⟨header, body⟩)) := by
  simp [pushFrame, isAssembling, h, hidle]

theorem pushFrame_head (h : header.bigSized = true) (hidle : d.assembly = none) {total : Nat}
    (htotal : total ≤ maxMessageSize) (hmax : total ≤ d.maxMessage) :
    d.pushFrame header (Frame.headMarker :: Bytes.bigEndian 4 total) =
      ({ d with assembly := some ⟨header, total, []⟩ }, .ok none) := by
  have hfield : total < Nat.pow 256 4 := by
    have hroom : maxMessageSize < Nat.pow 256 4 := by decide
    omega
  have hread := Bytes.toNatBig_bigEndian hfield
  simp [pushFrame, pushBigSized, pushHead, isAssembling, h, hidle, hread, Nat.not_lt.2 hmax]

theorem pushFrame_head_of_lt (h : header.bigSized = true) (hidle : d.assembly = none) {total : Nat}
    (htotal : total ≤ maxMessageSize) (hmax : d.maxMessage < total) :
    d.pushFrame header (Frame.headMarker :: Bytes.bigEndian 4 total) =
      (d, .error (.oversizedPacket total)) := by
  have hfield : total < Nat.pow 256 4 := by
    have hroom : maxMessageSize < Nat.pow 256 4 := by decide
    omega
  have hread := Bytes.toNatBig_bigEndian hfield
  simp [pushFrame, pushBigSized, pushHead, isAssembling, h, hidle, hread, hmax]

theorem pushFrame_continuation (h : header.bigSized = true) {a : Assembly}
    (hopen : d.assembly = some a) {data : Bytes} (hroom : a.size + data.length ≤ a.declared) :
    d.pushFrame header (Frame.continuationMarker :: data) =
      ({ d with assembly := some (a.push data) }, .ok none) := by
  have hmarker : Frame.continuationMarker ≠ Frame.headMarker := by decide
  simp [pushFrame, pushBigSized, pushChunk, h, hopen, hmarker, Nat.not_lt.2 hroom]

theorem pushFrame_last (h : header.bigSized = true) {a : Assembly}
    (hopen : d.assembly = some a) {data : Bytes} (hfull : a.size + data.length = a.declared) :
    d.pushFrame header (Frame.lastMarker :: data) =
      ({ d with assembly := none }, .ok (some ⟨a.header, a.received ++ data⟩)) := by
  -- the markers are compared in the order head, continuation, last
  have hhead : Frame.lastMarker ≠ Frame.headMarker := by decide
  have hcontinuation : Frame.lastMarker ≠ Frame.continuationMarker := by decide
  have hsize : (a.push data).size = (a.push data).declared := by
    rw [Assembly.size_push, hfull]
    rfl
  have hnone : ¬ a.declared < a.size + data.length := by omega
  simp only [pushFrame, pushBigSized, pushChunk, h, hopen, hhead, hcontinuation, hnone, hsize,
    Assembly.received_push, if_true, if_false, Bool.not_true, ne_eq, not_true_eq_false]
  rfl

/-! ## One message -/

/-- A regular frame within the limit is a message by itself. -/
theorem decode_regular (h : header.bigSized = false) (hidle : d.assembly = none)
    {payload : Bytes} (hlimit : payload.length ≤ d.frameLimit)
    (hrange : d.frameLimit ≤ maxFrameLimit) (rest : Bytes) :
    d.decode (Frame.toBytes header payload ++ rest) =
      ⟨d, rest, .ok (some ⟨header, payload⟩)⟩ := by
  have hfits : Frame.Fits header payload.length :=
    Frame.fits_of_regular h (Nat.le_trans hlimit hrange)
  have hbody : payload.length ≤ d.maxBody header := by
    rw [maxBody, if_neg (by simp [h])]
    exact hlimit
  exact decode_of_answered (takeFrame_toBytes hfits hbody rest)
    (pushFrame_regular h hidle payload) (by simp)

/-- The chunk frames of a sequence in progress complete its message. -/
theorem decode_chunkFrames (h : header.bigSized = true) {a : Assembly}
    (hopen : d.assembly = some a) {chunks : List Bytes} (hchunks : chunks ≠ [])
    (hlimit : ∀ chunk ∈ chunks, chunk.length ≤ d.frameLimit)
    (hrange : d.frameLimit ≤ maxFrameLimit) (hfull : a.size + chunks.flatten.length = a.declared)
    (rest : Bytes) :
    d.decode (Frame.chunkFrames header chunks ++ rest) =
      ⟨{ d with assembly := none }, rest,
        .ok (some ⟨a.header, a.received ++ chunks.flatten⟩)⟩ := by
  -- the assembly grows with each chunk; what it holds and what is left add up to what is declared
  induction chunks generalizing d a with
  | nil => exact absurd rfl hchunks
  | cons chunk chunks ih =>
      have hchunk : chunk.length ≤ d.frameLimit := hlimit chunk (by simp)
      have htake (marker : UInt8) (rest : Bytes) :
          d.takeFrame (Frame.toBytes header (marker :: chunk) ++ rest) =
            .ok (some ⟨header, marker :: chunk, rest⟩) := by
        have hsmall : maxFrameLimit < maxMessageSize := by decide
        apply takeFrame_toBytes
        · apply Frame.fits_of_bigSized h
          rw [List.length_cons]
          omega
        · rw [maxBody, if_pos h, List.length_cons]
          omega
      -- the marker of a chunk depends on whether another follows
      cases chunks with
      | nil =>
          have hlast : a.size + chunk.length = a.declared := by
            simpa using hfull
          rw [Frame.chunkFrames_singleton, Frame.bigSized_eq_toBytes h,
            decode_of_answered (htake Frame.lastMarker rest) (pushFrame_last h hopen hlast)
              (by simp)]
          simp
      | cons next chunks =>
          rw [List.flatten_cons, List.length_append] at hfull
          have hroom : a.size + chunk.length ≤ a.declared := by omega
          have hrest :
              (a.push chunk).size + (next :: chunks).flatten.length =
                (a.push chunk).declared := by
            rw [Assembly.size_push, Nat.add_assoc]
            exact hfull
          have htail := ih (d := { d with assembly := some (a.push chunk) }) rfl (by simp)
            (fun chunk hmem => hlimit chunk (List.mem_cons_of_mem _ hmem)) hrange hrest
          rw [Frame.chunkFrames_cons_cons, Frame.bigSized_eq_toBytes h, List.append_assoc,
            decode_of_absorbed (htake Frame.continuationMarker _)
              (pushFrame_continuation h hopen hroom), htail, Assembly.received_push]
          simp [Assembly.push]

/-- A head frame and chunk frames that add up to what it declares are a message. -/
theorem decode_sequence (h : header.bigSized = true) (hidle : d.assembly = none)
    {chunks : List Bytes} (hchunks : chunks ≠ [])
    (hlimit : ∀ chunk ∈ chunks, chunk.length ≤ d.frameLimit)
    (hrange : d.frameLimit ≤ maxFrameLimit) (hsize : chunks.flatten.length ≤ maxMessageSize)
    (hmax : chunks.flatten.length ≤ d.maxMessage) (rest : Bytes) :
    d.decode (Frame.head header chunks.flatten.length ++ Frame.chunkFrames header chunks ++ rest) =
      ⟨d, rest, .ok (some ⟨header, chunks.flatten⟩)⟩ := by
  have hbody :
      (Frame.headMarker :: Bytes.bigEndian 4 chunks.flatten.length).length ≤ d.maxBody header := by
    rw [maxBody, if_pos h, List.length_cons, Bytes.length_bigEndian]
    exact Nat.le_max_right _ _
  have htake := takeFrame_toBytes (Frame.fits_of_bigSized h (by simp [maxMessageSize])) hbody
    (Frame.chunkFrames header chunks ++ rest)
  have hpush := pushFrame_head h hidle hsize hmax
  have hchunkFrames := decode_chunkFrames (d := { d with assembly := some ⟨header, _, []⟩ }) h rfl
    hchunks hlimit hrange (show 0 + chunks.flatten.length = _ from Nat.zero_add _) rest
  rw [List.append_assoc, Frame.head, Frame.bigSized_eq_toBytes h,
    decode_of_absorbed htake hpush, hchunkFrames]
  simp [Assembly.received, ← hidle]

/-- The frames of a message are read back as that message, and nothing behind them is touched. -/
theorem decode_frames {message : WireMessage} {limit : Nat} {bytes : Bytes}
    (hframes : message.frames limit = .ok bytes) (hidle : d.assembly = none)
    (hlimit : effectiveLimit limit ≤ d.frameLimit) (hrange : d.frameLimit ≤ maxFrameLimit)
    (hmax : effectiveLimit limit < message.payload.length →
      message.payload.length ≤ d.maxMessage) (rest : Bytes) :
    d.decode (bytes ++ rest) = ⟨d, rest, .ok (some (message.written limit))⟩ := by
  by_cases hbig : effectiveLimit limit < message.payload.length
  · have hsize := WireMessage.length_le_of_frames hframes hbig
    obtain ⟨full, last, hchunks, hcut⟩ := WireMessage.exists_cut hbig
    have hpieces : ∀ chunk ∈ full ++ [last], chunk.length ≤ d.frameLimit :=
      fun chunk hmem => Nat.le_trans (hcut.length_le chunk hmem) hlimit
    have hshape : (message.header.shaped true).bigSized = true := rfl
    -- the declared total is the payload's length, because the chunks add up to the payload
    have hsequence := decode_sequence hshape hidle (by simp) hpieces hrange
      (by rw [hcut.flatten_eq]; exact hsize) (by rw [hcut.flatten_eq]; exact hmax hbig) rest
    rw [WireMessage.frames_of_bigSized hbig hsize, hchunks] at hframes
    cases hframes
    rw [hcut.flatten_eq] at hsequence
    simpa [WireMessage.written, WireMessage.writtenHeader, hbig] using hsequence
  · have hregular : message.payload.length ≤ effectiveLimit limit := Nat.le_of_not_lt hbig
    rw [WireMessage.frames_of_regular hregular] at hframes
    cases hframes
    rw [decode_regular rfl hidle (Nat.le_trans hregular hlimit) hrange]
    simp [WireMessage.written, WireMessage.writtenHeader, hbig]

/-- A message of several frames is refused at the head if its size exceeds the decoder's limit. -/
theorem decode_frames_of_lt {message : WireMessage} {limit : Nat} {bytes : Bytes}
    (hframes : message.frames limit = .ok bytes) (hidle : d.assembly = none)
    (hbig : effectiveLimit limit < message.payload.length)
    (hmax : d.maxMessage < message.payload.length) :
    (d.decode bytes).outcome = .error (.oversizedPacket message.payload.length) := by
  have hsize := WireMessage.length_le_of_frames hframes hbig
  have hshape : (message.header.shaped true).bigSized = true := rfl
  have hbody :
      (Frame.headMarker :: Bytes.bigEndian 4 message.payload.length).length ≤
        d.maxBody (message.header.shaped true) := by
    rw [maxBody, if_pos hshape, List.length_cons, Bytes.length_bigEndian]
    exact Nat.le_max_right _ _
  rw [WireMessage.frames_of_bigSized hbig hsize] at hframes
  cases hframes
  rw [Frame.head, Frame.bigSized_eq_toBytes hshape,
    decode_of_answered
      (takeFrame_toBytes (Frame.fits_of_bigSized hshape (by simp [maxMessageSize])) hbody _)
      (pushFrame_head_of_lt hshape hidle hsize hmax) (by simp)]

/-! ## Many messages -/

/-- The frames of messages are drained as those messages, and nothing is left. -/
theorem drain_appendAll {limit : Nat} {messages : List WireMessage} {before stream : Bytes}
    (hstream : WireMessage.appendAll limit messages before = .ok stream)
    (hidle : d.assembly = none) (hlimit : effectiveLimit limit ≤ d.frameLimit)
    (hrange : d.frameLimit ≤ maxFrameLimit)
    (hmax : ∀ message ∈ messages, effectiveLimit limit < message.payload.length →
      message.payload.length ≤ d.maxMessage) :
    ∃ written, stream = before ++ written ∧
      d.drain written = ⟨d, [], messages.map (·.written limit), none⟩ := by
  induction messages generalizing before with
  | nil =>
      cases hstream
      exact ⟨[], by simp, drain_of_nothing waiting_nil⟩
  | cons message messages ih =>
      rw [WireMessage.appendAll, WireMessage.appendFrames_eq] at hstream
      rcases hframes : message.frames limit with e | bytes
      · simp [hframes] at hstream
      · rw [hframes] at hstream
        obtain ⟨written, rfl, hdrain⟩ :=
          ih hstream fun message hmem => hmax message (List.mem_cons_of_mem _ hmem)
        -- after one message the decoder is as before, so the others are read by the same one
        have hfirst := decode_frames hframes hidle hlimit hrange (hmax message (by simp)) written
        refine ⟨bytes ++ written, by simp, ?_⟩
        rw [drain_of_message hfirst, hdrain]
        rfl

/-- Messages of at most the largest size can all be written. -/
theorem exists_appendAll {messages : List WireMessage}
    (hsize : ∀ message ∈ messages, message.payload.length ≤ maxMessageSize) (limit : Nat)
    (before : Bytes) : ∃ stream, WireMessage.appendAll limit messages before = .ok stream := by
  induction messages generalizing before with
  | nil => exact ⟨before, rfl⟩
  | cons message messages ih =>
      rcases WireMessage.exists_frames (hsize message (by simp)) limit with ⟨bytes, hframes⟩
      obtain ⟨stream, hstream⟩ :=
        ih (fun message hmem => hsize message (List.mem_cons_of_mem _ hmem)) (before ++ bytes)
      refine ⟨stream, ?_⟩
      rw [WireMessage.appendAll, WireMessage.appendFrames_eq, hframes]
      exact hstream

/--
Messages written with one limit and read with another that admits it arrive as they were, in order
and without a fault, however the stream is cut: the same payloads, and the same flags but for the
one that says whether a message took more than one frame. Nothing is left over.
-/
theorem feed_appendAll {messages : List WireMessage} {limit limit' maxMessage : Nat}
    (hsize : ∀ message ∈ messages, message.payload.length ≤ maxMessageSize)
    (hlimit : effectiveLimit limit ≤ effectiveLimit limit')
    (hmax : ∀ message ∈ messages, effectiveLimit limit < message.payload.length →
      message.payload.length ≤ maxMessage) :
    ∃ stream, WireMessage.appendAll limit messages [] = .ok stream ∧
      ∀ pieces : List Bytes, pieces.flatten = stream →
        (create limit' maxMessage).feed [] pieces =
          ⟨create limit' maxMessage, [],
            messages.map fun message =>
              { message with
                header := { message.header with
                  bigSized := effectiveLimit limit < message.payload.length } },
            none⟩ := by
  rcases exists_appendAll hsize limit [] with ⟨stream, hstream⟩
  obtain ⟨written, hwritten, hdrain⟩ :=
    drain_appendAll (d := create limit' maxMessage) hstream rfl hlimit (effectiveLimit_le limit')
      hmax
  refine ⟨stream, hstream, ?_⟩
  intro pieces hpieces
  -- the pieces say what the whole stream says, and that ends without a fault
  have hagrees :
      ((create limit' maxMessage).feed [] pieces).Agrees
        ((create limit' maxMessage).drain ([] ++ pieces.flatten)) :=
    feed_agrees_drain (.inl waiting_nil)
  rw [hpieces, hwritten, List.nil_append, List.nil_append, hdrain] at hagrees
  exact hagrees.eq_of_fault_eq_none rfl

/-- A sequence of three chunks, and two regular frames of which one was marked as big-sized. -/
theorem feed_appendAll_three :
    ∃ stream,
      WireMessage.appendAll 2
          [⟨{ binary := true }, [1, 2, 3, 4, 5]⟩, ⟨{ compressed := true, bigSized := true }, [9]⟩,
            ⟨{ encrypted := true }, []⟩] [] = .ok stream ∧
        ∀ pieces : List Bytes, pieces.flatten = stream →
          (create 3 5).feed [] pieces =
            ⟨create 3 5, [],
              [⟨{ binary := true, bigSized := true }, [1, 2, 3, 4, 5]⟩,
                ⟨{ compressed := true }, [9]⟩, ⟨{ encrypted := true }, []⟩],
              none⟩ :=
  feed_appendAll (by decide) (by decide) (by decide)

end FrameDecoder

end SessionNet
