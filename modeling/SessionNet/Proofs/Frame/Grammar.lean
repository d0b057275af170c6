import SessionNet.Proofs.Frame.RoundTrip

/-!
# The language of the wire

What a stream may hold is given here as a grammar over bytes, which knows nothing of the decoder. A
message is one regular frame, or a sequence of big-sized frames: a head that declares a total, any
number of continuations, and a last frame, whose chunks add up to the total. Only the flags of the
head count; those of the other frames of a sequence are free as long as they say big-sized.

A fresh decoder reads a stream to its end, without a fault and with nothing left over, exactly if
the stream is a concatenation of such encodings, and the messages are those that they denote
(`feed_completes_iff_denotes`).
-/

namespace SessionNet

/-! ## The grammar -/

namespace Wire

/-- What the bits of a flag byte say. -/
def header (flags : UInt8) : Header where
  binary := flags.toNat.testBit 0
  compressed := flags.toNat.testBit 1
  bigSized := flags.toNat.testBit 2
  encrypted := flags.toNat.testBit 3

/-- A frame: a flag byte below 16, the length of the body in `width` bytes, and the body itself. -/
inductive IsFrame (width longest : Nat) : Header → (body bytes : Bytes) → Prop
  | frame (flags : UInt8) (body : Bytes) (unreserved : flags.toNat < 16)
      (fits : body.length ≤ longest) :
      IsFrame width longest (header flags) body
        (flags :: (Bytes.bigEndian width body.length ++ body))

/-- A frame that is a message by itself. -/
def IsRegular (limit : Nat) (header : Header) (payload bytes : Bytes) : Prop :=
  header.bigSized = false ∧ IsFrame 2 limit header payload bytes

/-- A frame of a sequence: a marker and what belongs to it. -/
def IsBigSized (limit : Nat) (header : Header) (marker : UInt8) (data bytes : Bytes) : Prop :=
  header.bigSized = true ∧ IsFrame 4 (max (limit + 1) 5) header (marker :: data) bytes

/-- Frames that carry a payload in chunks: any number of continuations, and a last one. -/
inductive Chunked (limit : Nat) : (payload bytes : Bytes) → Prop
  | last {header : Header} {chunk frame : Bytes} (last : IsBigSized limit header 0x02 chunk frame) :
      Chunked limit chunk frame
  | continued {header : Header} {chunk frame payload bytes : Bytes}
      (continuation : IsBigSized limit header 0x01 chunk frame)
      (rest : Chunked limit payload bytes) : Chunked limit (chunk ++ payload) (frame ++ bytes)

/-- The encodings of a message. -/
inductive Encodes (limit maxMessage : Nat) : WireMessage → Bytes → Prop
  | regular {header : Header} {payload bytes : Bytes}
      (frame : IsRegular limit header payload bytes) :
      Encodes limit maxMessage ⟨header, payload⟩ bytes
  /-- The four bytes of the head tell how long the payload is. -/
  | sequence {header : Header} {total head payload bytes : Bytes}
      (frame : IsBigSized limit header 0x00 total head) (width : total.length = 4)
      (declared : Bytes.toNatBig total = payload.length)
      (admitted : payload.length ≤ maxMessage) (chunks : Chunked limit payload bytes) :
      Encodes limit maxMessage ⟨header, payload⟩ (head ++ bytes)

/-- A stream that is a concatenation of encodings denotes their messages. -/
inductive Denotes (limit maxMessage : Nat) : List WireMessage → Bytes → Prop
  | nil : Denotes limit maxMessage [] []
  | cons {message : WireMessage} {messages : List WireMessage} {bytes rest : Bytes}
      (first : Encodes limit maxMessage message bytes)
      (others : Denotes limit maxMessage messages rest) :
      Denotes limit maxMessage (message :: messages) (bytes ++ rest)

/-! ## Frames of the grammar -/

variable {limit maxMessage longest : Nat} {h : Header} {marker : UInt8}
variable {body data payload bytes : Bytes}

/-- The flag bytes below 16 are those that are written for a header. -/
theorem header_eq_iff {flags : UInt8} :
    flags.toNat < 16 ∧ header flags = h ↔ flags = h.toByte := by
  have read : Header.ofByte flags = .ok h ↔ flags.toNat < 16 ∧ header flags = h := by
    simp only [Header.ofByte]
    split
    · rename_i reserved
      simp [Nat.not_lt.2 reserved]
    · rename_i unreserved
      simp [header, Nat.testBit_eq_decide_div_mod_eq, Nat.lt_of_not_le unreserved, BEq.beq]
  rw [← read]
  exact Header.ofByte_eq_ok_iff

theorem isFrame_iff {width : Nat} (hwidth : width = h.lengthWidth) :
    IsFrame width longest h body bytes ↔
      bytes = Frame.toBytes h body ∧ body.length ≤ longest := by
  subst hwidth
  constructor
  · rintro ⟨flags, _, unreserved, fits⟩
    have written : flags = (header flags).toByte := header_eq_iff.1 ⟨unreserved, rfl⟩
    refine ⟨?_, fits⟩
    rw [Frame.toBytes, ← written]
  · rintro ⟨rfl, fits⟩
    have read : h.toByte.toNat < 16 ∧ header h.toByte = h := header_eq_iff.2 rfl
    have frame : IsFrame h.lengthWidth longest (header h.toByte) body (Frame.toBytes h body) :=
      .frame h.toByte body read.1 fits
    rwa [read.2] at frame

theorem isRegular_iff :
    IsRegular limit h payload bytes ↔
      h.bigSized = false ∧ bytes = Frame.toBytes h payload ∧ payload.length ≤ limit := by
  refine and_congr_right ?_
  intro small
  exact isFrame_iff (by simp [Header.lengthWidth, small])

theorem isBigSized_iff :
    IsBigSized limit h marker data bytes ↔
      h.bigSized = true ∧ bytes = Frame.toBytes h (marker :: data) ∧
        data.length + 1 ≤ max (limit + 1) 5 := by
  refine and_congr_right ?_
  intro big
  exact isFrame_iff (by simp [Header.lengthWidth, big])

end Wire

/-! ## One frame and the decoder -/

namespace FrameDecoder

variable {d d' : FrameDecoder} {h : Header} {a : Assembly} {marker : UInt8}
variable {body buffer rest data payload bytes frame : Bytes}
variable {message : WireMessage} {messages : List WireMessage}

/-- What a decoder absorbs without yielding a message: a head, or a continuation. -/
theorem pushFrame_eq_none_iff :
    d.pushFrame h body = (d', .ok none) ↔ h.bigSized = true ∧
      ((∃ total, body = 0x00 :: total ∧ total.length = 4 ∧ d.assembly = none ∧
          Bytes.toNatBig total ≤ d.maxMessage ∧
          d' = { d with assembly := some ⟨h, Bytes.toNatBig total, []⟩ }) ∨
        ∃ a data, body = 0x01 :: data ∧ d.assembly = some a ∧
          a.size + data.length ≤ a.declared ∧ d' = { d with assembly := some (a.push data) }) := by
  unfold pushFrame pushBigSized pushHead pushChunk isAssembling
  cases h.bigSized with
  | false => cases d.assembly <;> simp
  | true =>
    cases body with
    | nil => simp
    | cons marker data =>
      -- the marker decides on the kind of frame, the assembly on whether it may come now
      by_cases isHead : marker = 0x00
      · cases hopen : d.assembly <;> grind [Frame.headMarker]
      · cases hopen : d.assembly <;>
          grind [Frame.headMarker, Frame.continuationMarker, Frame.lastMarker]

/-- What makes a decoder yield a message: a regular frame, or the last of a sequence. -/
theorem pushFrame_eq_some_iff :
    d.pushFrame h body = (d', .ok (some message)) ↔
      (h.bigSized = false ∧ d.assembly = none ∧ d' = d ∧ message = ⟨h, body⟩) ∨
      (h.bigSized = true ∧ ∃ a data, body = 0x02 :: data ∧ d.assembly = some a ∧
        a.size + data.length = a.declared ∧ d' = { d with assembly := none } ∧
        message = ⟨a.header, a.received ++ data⟩) := by
  unfold pushFrame pushBigSized pushHead pushChunk isAssembling
  cases h.bigSized with
  | false => cases d.assembly <;> grind
  | true =>
    cases body with
    | nil => simp
    | cons marker data =>
      by_cases isHead : marker = 0x00
      · cases hopen : d.assembly <;> grind [Frame.headMarker]
      · -- the size is compared after the chunk has been added
        cases hopen : d.assembly <;>
          grind [Frame.headMarker, Frame.continuationMarker, Frame.lastMarker,
            Assembly.size_push, Assembly.received_push, Assembly.push]

section Frames

variable {taken : Taken}

theorem isRegular_of_takeFrame (htake : d.takeFrame buffer = .ok (some taken))
    (small : taken.header.bigSized = false) :
    ∃ frame, Wire.IsRegular d.frameLimit taken.header taken.body frame ∧
      buffer = frame ++ taken.rest := by
  obtain ⟨hbuffer, -, hlimit⟩ := takeFrame_eq_some_iff.1 htake
  have fits : taken.body.length ≤ d.frameLimit := by
    simpa only [maxBody, small, Bool.false_eq_true, if_false] using hlimit
  exact ⟨_, Wire.isRegular_iff.2 ⟨small, rfl, fits⟩, hbuffer⟩

theorem isBigSized_of_takeFrame (htake : d.takeFrame buffer = .ok (some taken))
    (big : taken.header.bigSized = true) (hbody : taken.body = marker :: data) :
    ∃ frame, Wire.IsBigSized d.frameLimit taken.header marker data frame ∧
      buffer = frame ++ taken.rest := by
  obtain ⟨hbuffer, -, hlimit⟩ := takeFrame_eq_some_iff.1 htake
  have fits : data.length + 1 ≤ max (d.frameLimit + 1) 5 := by
    simpa only [maxBody, big, if_true, hbody, List.length_cons, Frame.headBodyLength] using hlimit
  exact ⟨_, Wire.isBigSized_iff.2 ⟨big, hbody ▸ rfl, fits⟩, hbuffer⟩

theorem takeFrame_of_isRegular (hrange : d.frameLimit ≤ maxFrameLimit)
    (regular : Wire.IsRegular d.frameLimit h payload frame) (rest : Bytes) :
    d.takeFrame (frame ++ rest) = .ok (some ⟨h, payload, rest⟩) := by
  obtain ⟨small, rfl, fits⟩ := Wire.isRegular_iff.1 regular
  apply takeFrame_toBytes (Frame.fits_of_regular small (Nat.le_trans fits hrange))
  simpa only [maxBody, small, Bool.false_eq_true, if_false] using fits

theorem takeFrame_of_isBigSized (hrange : d.frameLimit ≤ maxFrameLimit)
    (bigSized : Wire.IsBigSized d.frameLimit h marker data frame) (rest : Bytes) :
    d.takeFrame (frame ++ rest) = .ok (some ⟨h, marker :: data, rest⟩) := by
  obtain ⟨big, rfl, fits⟩ := Wire.isBigSized_iff.1 bigSized
  have room : max (maxFrameLimit + 1) 5 ≤ maxMessageSize := by decide
  apply takeFrame_toBytes
  · apply Frame.fits_of_bigSized big
    rw [List.length_cons]
    omega
  · simpa only [maxBody, big, if_true, List.length_cons, Frame.headBodyLength] using fits

end Frames

/-! ## One message and the decoder -/

/-- In the middle of a sequence a message is what the frames still to come add to it. -/
theorem chunked_of_decode (hopen : d.assembly = some a)
    (decoded : d.decode buffer = ⟨d', rest, .ok (some message)⟩) :
    d' = { d with assembly := none } ∧ ∃ payload bytes, Wire.Chunked d.frameLimit payload bytes ∧
      buffer = bytes ++ rest ∧ a.size + payload.length = a.declared ∧
      message = ⟨a.header, a.received ++ payload⟩ := by
  fun_induction decode d buffer generalizing a with
  | case1 d buffer e htake => cases decoded
  | case2 d buffer htake => cases decoded
  | case3 d buffer taken htake d₁ hpush ih =>
    -- a head would be nested, so the frame continues the sequence
    obtain ⟨big, ⟨_, -, -, idle, -⟩ | ⟨a₁, data, hbody, hopen₁, -, rfl⟩⟩ :=
      pushFrame_eq_none_iff.1 hpush
    · cases hopen.symm.trans idle
    · obtain rfl : a = a₁ := Option.some.inj (hopen.symm.trans hopen₁)
      obtain ⟨frame, continuation, rfl⟩ := isBigSized_of_takeFrame htake big hbody
      obtain ⟨rfl, payload, bytes, chunked, hrest, hfull, rfl⟩ := ih rfl decoded
      refine ⟨rfl, data ++ payload, frame ++ bytes, .continued continuation chunked, ?_, ?_, ?_⟩
      · rw [hrest, List.append_assoc]
      · rw [List.length_append, ← Nat.add_assoc, ← Assembly.size_push]
        exact hfull
      · rw [Assembly.received_push, List.append_assoc]
        rfl
  | case4 d buffer taken htake d₁ outcome hanswer hpush =>
    cases decoded
    obtain ⟨-, idle, -⟩ | ⟨big, a₁, data, hbody, hopen₁, hfull, rfl, rfl⟩ :=
      pushFrame_eq_some_iff.1 hpush
    · cases hopen.symm.trans idle
    · obtain rfl : a = a₁ := Option.some.inj (hopen.symm.trans hopen₁)
      obtain ⟨frame, last, rfl⟩ := isBigSized_of_takeFrame htake big hbody
      exact ⟨rfl, data, frame, .last last, rfl, hfull, rfl⟩

theorem decode_of_chunked (hrange : d.frameLimit ≤ maxFrameLimit) (hopen : d.assembly = some a)
    (chunked : Wire.Chunked d.frameLimit payload bytes)
    (hfull : a.size + payload.length = a.declared) (rest : Bytes) :
    d.decode (bytes ++ rest) =
      ⟨{ d with assembly := none }, rest, .ok (some ⟨a.header, a.received ++ payload⟩)⟩ := by
  generalize hlimit : d.frameLimit = limit at chunked
  induction chunked generalizing d a with
  | last last =>
    subst hlimit
    have big := last.1
    exact decode_of_answered (takeFrame_of_isBigSized hrange last rest)
      (pushFrame_eq_some_iff.2 (.inr ⟨big, a, _, rfl, hopen, hfull, rfl, rfl⟩)) (by simp)
  | @continued header chunk frame payload bytes continuation _ ih =>
    subst hlimit
    have big := continuation.1
    rw [List.length_append] at hfull
    have room : a.size + chunk.length ≤ a.declared := by omega
    have hpush : d.pushFrame header (0x01 :: chunk) =
        ({ d with assembly := some (a.push chunk) }, .ok none) :=
      pushFrame_eq_none_iff.2 ⟨big, .inr ⟨a, chunk, rfl, hopen, room, rfl⟩⟩
    have hfull' : (a.push chunk).size + payload.length = (a.push chunk).declared := by
      rw [Assembly.size_push, Nat.add_assoc]
      exact hfull
    have tail := ih (d := { d with assembly := some (a.push chunk) }) hrange rfl hfull' rfl
    rw [List.append_assoc, decode_of_absorbed (takeFrame_of_isBigSized hrange continuation _) hpush,
      tail, Assembly.received_push, List.append_assoc]
    rfl

theorem encodes_of_decode (idle : d.assembly = none)
    (decoded : d.decode buffer = ⟨d', rest, .ok (some message)⟩) :
    d' = d ∧ ∃ bytes, Wire.Encodes d.frameLimit d.maxMessage message bytes ∧
      buffer = bytes ++ rest := by
  rcases htake : d.takeFrame buffer with e | _ | taken
  · cases (decode_of_error htake).symm.trans decoded
  · cases (decode_of_none htake).symm.trans decoded
  · rcases hpush : d.pushFrame taken.header taken.body with ⟨d₁, e | _ | yielded⟩
    · cases (decode_of_answered htake hpush (by simp)).symm.trans decoded
    · -- only a head is absorbed here, and the message comes from the frames behind it
      obtain ⟨big, ⟨total, hbody, width, -, admitted, rfl⟩ | ⟨_, _, -, hopen, -⟩⟩ :=
        pushFrame_eq_none_iff.1 hpush
      · obtain ⟨head, hhead, hbuffer⟩ := isBigSized_of_takeFrame htake big hbody
        have continued := (decode_of_absorbed htake hpush).symm.trans decoded
        obtain ⟨rfl, payload, bytes, chunked, hrest, hfull, rfl⟩ :=
          chunked_of_decode rfl continued
        have declared : Bytes.toNatBig total = payload.length := by
          simpa [Assembly.size] using hfull.symm
        have encodes : Wire.Encodes d.frameLimit d.maxMessage ⟨taken.header, payload⟩
            (head ++ bytes) :=
          .sequence hhead width declared (declared ▸ admitted) chunked
        refine ⟨by rw [← idle], head ++ bytes, ?_, ?_⟩
        · simpa [Assembly.received] using encodes
        · rw [hbuffer, hrest, List.append_assoc]
      · cases idle.symm.trans hopen
    · cases (decode_of_answered htake hpush (by simp)).symm.trans decoded
      obtain ⟨small, -, rfl, rfl⟩ | ⟨-, _, _, -, hopen, -⟩ := pushFrame_eq_some_iff.1 hpush
      · obtain ⟨frame, regular, hbuffer⟩ := isRegular_of_takeFrame htake small
        exact ⟨rfl, frame, .regular regular, hbuffer⟩
      · cases idle.symm.trans hopen

theorem decode_of_encodes (hrange : d.frameLimit ≤ maxFrameLimit) (idle : d.assembly = none)
    (encodes : Wire.Encodes d.frameLimit d.maxMessage message bytes) (rest : Bytes) :
    d.decode (bytes ++ rest) = ⟨d, rest, .ok (some message)⟩ := by
  cases encodes with
  | regular regular =>
    exact decode_of_answered (takeFrame_of_isRegular hrange regular rest)
      (pushFrame_eq_some_iff.2 (.inl ⟨regular.1, idle, rfl, rfl⟩)) (by simp)
  | @sequence header total head payload bytes frame width declared admitted chunked =>
    -- the head opens the assembly that the chunks fill
    let opened : Assembly := ⟨header, Bytes.toNatBig total, []⟩
    have hpush : d.pushFrame header (0x00 :: total) =
        ({ d with assembly := some opened }, .ok none) :=
      pushFrame_eq_none_iff.2 ⟨frame.1, .inl ⟨total, rfl, width, idle, declared ▸ admitted, rfl⟩⟩
    have hfull : opened.size + payload.length = opened.declared := by
      simp [opened, Assembly.size, declared]
    have tail := decode_of_chunked (d := { d with assembly := some opened }) hrange rfl chunked
      hfull rest
    calc d.decode (head ++ bytes ++ rest)
        = d.decode (head ++ (bytes ++ rest)) := by rw [List.append_assoc]
      _ = ({ d with assembly := some opened } : FrameDecoder).decode (bytes ++ rest) :=
        decode_of_absorbed (takeFrame_of_isBigSized hrange frame _) hpush
      _ = _ := tail
      _ = ⟨d, rest, .ok (some ⟨header, payload⟩)⟩ := by
        simp [opened, Assembly.received, ← idle]

/-- Between messages a decoder yields exactly the message that the buffer starts with. -/
theorem decode_eq_some_iff (hrange : d.frameLimit ≤ maxFrameLimit) (idle : d.assembly = none) :
    d.decode buffer = ⟨d', rest, .ok (some message)⟩ ↔
      d' = d ∧ ∃ bytes, Wire.Encodes d.frameLimit d.maxMessage message bytes ∧
        buffer = bytes ++ rest := by
  constructor
  · exact encodes_of_decode idle
  · rintro ⟨rfl, bytes, encodes, rfl⟩
    exact decode_of_encodes hrange idle encodes rest

/-- What is absorbed without a message is a sequence in progress. -/
theorem isAssembling_of_absorbed (hpush : d.pushFrame h body = (d', .ok none)) :
    d'.isAssembling = true := by
  obtain ⟨-, ⟨_, -, -, -, -, rfl⟩ | ⟨_, _, -, -, -, rfl⟩⟩ := pushFrame_eq_none_iff.1 hpush
  · rfl
  · rfl

theorem isAssembling_of_nothing (assembling : d.isAssembling = true)
    (nothing : (d.decode buffer).outcome = .ok none) :
    (d.decode buffer).decoder.isAssembling = true := by
  fun_induction decode d buffer with
  | case1 d buffer e htake => cases nothing
  | case2 d buffer htake => exact assembling
  | case3 d buffer taken htake d₁ hpush ih => exact ih (isAssembling_of_absorbed hpush) nothing
  | case4 d buffer taken htake d₁ outcome hanswer hpush => exact absurd nothing hanswer

/-- Where no message is complete, a buffer is used up with no sequence in progress only if it is
empty. -/
theorem eq_nil_of_nothing (decoded : d.decode buffer = ⟨d', [], .ok none⟩)
    (idle : d'.assembly = none) : buffer = [] ∧ d' = d := by
  rcases htake : d.takeFrame buffer with e | _ | taken
  · cases (decode_of_error htake).symm.trans decoded
  · cases (decode_of_none htake).symm.trans decoded
    exact ⟨rfl, rfl⟩
  · rcases hpush : d.pushFrame taken.header taken.body with ⟨d₁, e | _ | yielded⟩
    · cases congrArg Decoded.outcome ((decode_of_answered htake hpush (by simp)).symm.trans decoded)
    · have continued := (decode_of_absorbed htake hpush).symm.trans decoded
      have assembling := isAssembling_of_nothing (isAssembling_of_absorbed hpush)
        (show (d₁.decode taken.rest).outcome = .ok none by rw [continued])
      rw [continued, isAssembling, idle] at assembling
      cases assembling
    · cases congrArg Decoded.outcome ((decode_of_answered htake hpush (by simp)).symm.trans decoded)

/-! ## Streams -/

/-- A reading that came to the end of its bytes, between messages and without a fault. -/
structure Drained.Completes (r : Drained) (messages : List WireMessage) : Prop where
  messages : r.messages = messages
  fault : r.fault = none
  rest : r.rest = []
  idle : r.decoder.assembly = none

theorem Drained.Agrees.completes {r r' : Drained} (agrees : r.Agrees r')
    (completes : r'.Completes messages) : r.Completes messages := by
  rw [agrees.eq_of_fault_eq_none completes.fault]
  exact completes

theorem denotes_of_drain (hrange : d.frameLimit ≤ maxFrameLimit) (idle : d.assembly = none)
    (completes : (d.drain buffer).Completes messages) :
    Wire.Denotes d.frameLimit d.maxMessage messages buffer := by
  obtain ⟨rfl, fault, rest, idle'⟩ := completes
  fun_induction drain d buffer with
  | case1 d buffer d₁ rest e hdecode => cases fault
  | case2 d buffer d₁ left hdecode =>
    obtain rfl : left = [] := rest
    obtain ⟨rfl, rfl⟩ := eq_nil_of_nothing hdecode idle'
    exact .nil
  | case3 d buffer d₁ left message hdecode more ih =>
    obtain ⟨rfl, bytes, encodes, rfl⟩ := (decode_eq_some_iff hrange idle).1 hdecode
    exact .cons encodes (ih hrange idle fault rest idle')

theorem drain_of_denotes (hrange : d.frameLimit ≤ maxFrameLimit) (idle : d.assembly = none)
    (denotes : Wire.Denotes d.frameLimit d.maxMessage messages buffer) :
    d.drain buffer = ⟨d, [], messages, none⟩ := by
  induction denotes with
  | nil => exact drain_of_nothing waiting_nil
  | @cons message messages bytes rest first others ih =>
    -- after a message the decoder is as before, so the others are read by the same one
    have decoded : d.decode (bytes ++ rest) = ⟨d, rest, .ok (some message)⟩ :=
      (decode_eq_some_iff hrange idle).2 ⟨rfl, bytes, first, rfl⟩
    rw [drain_of_message decoded, ih]

/--
However a stream is cut, a fresh decoder reads it to its end without a fault, with nothing left over
and no sequence in progress, exactly if it is a concatenation of encodings of messages; and then
these are the messages read.
-/
theorem feed_completes_iff_denotes (limit maxMessage : Nat) (pieces : List Bytes)
    (messages : List WireMessage) :
    ((create limit maxMessage).feed [] pieces).Completes messages ↔
      Wire.Denotes (effectiveLimit limit) maxMessage messages pieces.flatten := by
  have range : (create limit maxMessage).frameLimit ≤ maxFrameLimit := effectiveLimit_le limit
  have agrees : ((create limit maxMessage).feed [] pieces).Agrees
      ((create limit maxMessage).drain pieces.flatten) := feed_agrees_drain (.inl waiting_nil)
  constructor
  · intro completes
    exact denotes_of_drain range rfl (agrees.symm.completes completes)
  · intro denotes
    have drained := drain_of_denotes (d := create limit maxMessage) range rfl denotes
    apply agrees.completes
    rw [drained]
    exact ⟨rfl, rfl, rfl, rfl⟩

end FrameDecoder

end SessionNet
