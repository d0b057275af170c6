import SessionNet.Proofs.Frame.Bounds
import SessionNet.Proofs.Frame.Grammar

/-!
# Recovering from a frame at fault

A frame at fault is reported in one of two ways: with the frame still at the front of the buffer, or
after it was taken off. This module is about the second way. The sequence in progress is given up,
so that the decoder is as good as new and reads the next message, unless the frame at fault does not
say what part of a sequence it is: a big-sized frame without a marker, or with an unknown one, is
reported and the sequence goes on. The next message is then lost, because its first frame cannot
come inside a sequence, and only that gives the sequence up (`refused_frame_resets`).
-/

namespace SessionNet

/-- The fault of a big-sized frame that does not say what part of a sequence it is. -/
def NetError.isUnmarked : NetError → Bool
  | .framing .missingMarker | .framing (.unknownMarker _) => true
  | _ => false

namespace FrameDecoder

variable {d d' before after : FrameDecoder} {buffer rest body bytes : Bytes} {taken : Taken}
variable {header : Header} {fault : NetError} {message : WireMessage}

/-- The decoder takes frames off the buffer and refuses the last of them, which it meets in the
state `before`; all others only fill the assembly. -/
inductive Refuses : FrameDecoder → Bytes → FrameDecoder → Taken → NetError → Prop
  | here {d : FrameDecoder} {buffer : Bytes} {taken : Taken} {fault : NetError}
      (takes : d.takeFrame buffer = .ok (some taken))
      (fails : (d.pushFrame taken.header taken.body).2 = .error fault) :
      Refuses d buffer d taken fault
  | later {d d' before : FrameDecoder} {buffer : Bytes} {first taken : Taken} {fault : NetError}
      (takes : d.takeFrame buffer = .ok (some first))
      (absorbs : d.pushFrame first.header first.body = (d', .ok none))
      (refuses : Refuses d' first.rest before taken fault) : Refuses d buffer before taken fault

/-! ## One frame -/

/-- What a frame at fault does to the sequence in progress depends on the fault alone. -/
theorem pushFrame_refused (fails : d.pushFrame header body = (d', .error fault)) :
    d' = if fault.isUnmarked then d else { d with assembly := none } := by
  have idle (h : d.assembly = none) : d = { d with assembly := none } := by rw [← h]
  unfold pushFrame pushBigSized pushHead pushChunk isAssembling at fails
  cases big : header.bigSized with
  | false => grind [NetError.isUnmarked]
  | true =>
    cases body with
    | nil => grind [NetError.isUnmarked]
    | cons marker data => cases opened : d.assembly <;> grind [NetError.isUnmarked]

theorem SameLimits.of_absorbed (absorbs : d.pushFrame header body = (d', .ok none)) :
    d.SameLimits d' := by
  obtain ⟨-, ⟨_, -, -, -, -, rfl⟩ | ⟨_, _, -, -, -, rfl⟩⟩ := pushFrame_eq_none_iff.1 absorbs
  · exact ⟨rfl, rfl⟩
  · exact ⟨rfl, rfl⟩

/-! ## Frames in a row -/

/-- A refused frame is taken off, and its fault is what decoding reports. -/
theorem Refuses.decode (refuses : d.Refuses buffer before taken fault) :
    d.decode buffer =
      ⟨if fault.isUnmarked then before else { before with assembly := none }, taken.rest,
        .error fault⟩ := by
  induction refuses with
  | @here d buffer taken fault takes fails =>
    have pushes : d.pushFrame taken.header taken.body =
        ((d.pushFrame taken.header taken.body).1, .error fault) := by rw [← fails]
    rw [decode_of_answered takes pushes (by simp), pushFrame_refused pushes]
  | later takes absorbs _ ih => rw [decode_of_absorbed takes absorbs, ih]

theorem Refuses.sameLimits (refuses : d.Refuses buffer before taken fault) :
    d.SameLimits before := by
  induction refuses with
  | here => exact SameLimits.refl _
  | later _ absorbs _ ih => exact (SameLimits.of_absorbed absorbs).trans ih

/-- A fault is that of a frame at the front of what is left, or of the frame that was taken off
before it. -/
theorem refuses_of_decode (failed : d.decode buffer = ⟨after, rest, .error fault⟩) :
    after.takeFrame rest = .error fault ∨
      ∃ before taken, d.Refuses buffer before taken fault ∧ taken.rest = rest := by
  fun_induction FrameDecoder.decode d buffer with
  | case1 d buffer e takes =>
    cases failed
    exact .inl takes
  | case2 => cases failed
  | case3 d buffer taken takes d' absorbs ih =>
    refine (ih failed).imp_right ?_
    rintro ⟨before, refused, refuses, left⟩
    exact ⟨before, refused, .later takes absorbs refuses, left⟩
  | case4 d buffer taken takes d' outcome _ pushes =>
    cases failed
    exact .inr ⟨d, taken, .here takes (by rw [pushes]), rfl⟩

/-! ## The next message -/

/-- The fault of the first frame of a message that comes inside a sequence. -/
def intrusion (message : WireMessage) : FramingFault :=
  if message.header.bigSized then .nestedHead else .interleavedFrame

/-- A message that comes inside a sequence is refused at its first frame, and the sequence ends. -/
theorem decode_of_intruding (hrange : d.frameLimit ≤ maxFrameLimit)
    (assembling : d.isAssembling = true)
    (encodes : Wire.Encodes d.frameLimit d.maxMessage message bytes) (rest : Bytes) :
    ∃ left, d.decode (bytes ++ rest) =
      ⟨{ d with assembly := none }, left, .error (.framing (intrusion message))⟩ := by
  cases encodes with
  | @regular header payload bytes frame =>
    have refused : d.pushFrame header payload =
        ({ d with assembly := none }, .error (.framing .interleavedFrame)) := by
      simp [pushFrame, frame.1, assembling]
    refine ⟨rest, ?_⟩
    rw [decode_of_answered (takeFrame_of_isRegular hrange frame rest) refused (by simp), intrusion,
      if_neg (by simp [frame.1])]
  | @sequence header total head payload bytes frame =>
    have refused : d.pushFrame header (0x00 :: total) =
        ({ d with assembly := none }, .error (.framing .nestedHead)) := by
      simp [pushFrame, pushBigSized, pushHead, frame.1, assembling, Frame.headMarker]
    refine ⟨bytes ++ rest, ?_⟩
    rw [List.append_assoc,
      decode_of_answered (takeFrame_of_isBigSized hrange frame _) refused (by simp), intrusion,
      if_pos frame.1]

/--
After a fault of a frame that was taken off, a sequence is in progress exactly if one was when the
frame came and the frame did not say what part of a sequence it is. Without one the decoder is as
good as new and reads every message that follows; otherwise it is as it was, refuses the message
that follows, whatever that is, and is as good as new only then.
-/
theorem refused_frame_resets {limit maxMessage : Nat}
    (limits : (create limit maxMessage).SameLimits d)
    (refuses : d.Refuses buffer before taken fault) :
    ∃ after, d.decode buffer = ⟨after, taken.rest, .error fault⟩ ∧
      (after.isAssembling = true ↔ before.isAssembling = true ∧ fault.isUnmarked = true) ∧
      (after.isAssembling = false → after = create limit maxMessage) ∧
      (after.isAssembling = true → after = before) ∧
      ∀ message bytes rest, Wire.Encodes (effectiveLimit limit) maxMessage message bytes →
        (create limit maxMessage).decode (bytes ++ rest) =
          ⟨create limit maxMessage, rest, .ok (some message)⟩ ∧
        (after.isAssembling = false →
          after.decode (bytes ++ rest) = (create limit maxMessage).decode (bytes ++ rest)) ∧
        (after.isAssembling = true → ∃ left, after.decode (bytes ++ rest) =
          ⟨create limit maxMessage, left, .error (.framing (intrusion message))⟩) := by
  have hrange : effectiveLimit limit ≤ maxFrameLimit := effectiveLimit_le limit
  obtain ⟨sameLimit, sameMessage⟩ := limits.trans refuses.sameLimits
  have renewed : { before with assembly := none } = create limit maxMessage := by
    rw [create, ← show before.frameLimit = effectiveLimit limit from sameLimit,
      ← show before.maxMessage = maxMessage from sameMessage]
  have fresh {message : WireMessage} {bytes : Bytes} (rest : Bytes)
      (encodes : Wire.Encodes (effectiveLimit limit) maxMessage message bytes) :=
    decode_of_encodes (d := create limit maxMessage) hrange rfl encodes rest
  have decoded := refuses.decode
  by_cases kept : before.isAssembling = true ∧ fault.isUnmarked = true
  · -- the frame left the sequence as it was
    rw [if_pos kept.2] at decoded
    refine ⟨before, decoded, iff_of_true kept.1 kept, fun idle => ?_, fun _ => rfl, ?_⟩
    · cases kept.1.symm.trans idle
    · intro message bytes rest encodes
      refine ⟨fresh rest encodes, fun idle => ?_, fun assembling => ?_⟩
      · cases kept.1.symm.trans idle
      · rw [← renewed]
        exact decode_of_intruding (sameLimit ▸ hrange) assembling
          (by rw [sameLimit, sameMessage]; exact encodes) rest
  · have outcome : (if fault.isUnmarked then before else { before with assembly := none }) =
        create limit maxMessage := by
      split
      · rename_i unmarked
        have idle : before.assembly = none := by
          have := fun assembling => kept ⟨assembling, unmarked⟩
          simpa [isAssembling] using this
        rw [← renewed, ← idle]
      · exact renewed
    have quiet : ¬(create limit maxMessage).isAssembling = true := Bool.false_ne_true
    rw [outcome] at decoded
    refine ⟨_, decoded, iff_of_false quiet kept, fun _ => rfl,
      fun assembling => absurd assembling quiet, fun message bytes rest encodes => ?_⟩
    exact ⟨fresh rest encodes, fun _ => rfl, fun assembling => absurd assembling quiet⟩

/-- A head that declares three bytes, and a continuation with the first of them. -/
def unfinished : Bytes := [5, 0, 0, 0, 5, 0, 0, 0, 0, 3] ++ [5, 0, 0, 0, 2, 1, 7]

/-- The header of a regular frame, or of a frame of a sequence. -/
def plainHeader (bigSized : Bool) : Header := { binary := true, bigSized }

/-- A decoder that has taken in an unfinished sequence. -/
def expectant : FrameDecoder := ⟨16, 64, some ⟨plainHeader true, 3, [[7]]⟩⟩

theorem refuses_behind_unfinished (takes : expectant.takeFrame buffer = .ok (some taken))
    (fails : (expectant.pushFrame taken.header taken.body).2 = .error fault) :
    (create 16 64).Refuses (unfinished ++ buffer) expectant taken fault := by
  have sequenced (d : FrameDecoder) (body rest : Bytes) (fits : body.length ≤ 5) :
      d.takeFrame (Frame.toBytes (plainHeader true) body ++ rest) =
        .ok (some ⟨plainHeader true, body, rest⟩) := by
    refine takeFrame_toBytes (Frame.fits_of_bigSized rfl (Nat.le_trans fits (by decide))) ?_ rest
    exact Nat.le_trans fits (Nat.le_max_right _ _)
  have head := sequenced (create 16 64) [0, 0, 0, 0, 3] ([5, 0, 0, 0, 2, 1, 7] ++ buffer)
    (by decide)
  have continuation := sequenced ⟨16, 64, some ⟨plainHeader true, 3, []⟩⟩ [1, 7] buffer
    (by decide)
  exact .later head rfl (.later continuation rfl (.here takes fails))

/-- A regular frame inside a sequence, and a message behind it. -/
theorem refused_frame_resets_interleaved :
    (create 16 64).SameLimits (create 16 64) ∧
      (create 16 64).Refuses (unfinished ++ [1, 0, 0] ++ [1, 0, 1, 170]) expectant
        ⟨plainHeader false, [], [1, 0, 1, 170]⟩ (.framing .interleavedFrame) ∧
      ∃ after, (create 16 64).decode (unfinished ++ [1, 0, 0] ++ [1, 0, 1, 170]) =
          ⟨after, [1, 0, 1, 170], .error (.framing .interleavedFrame)⟩ ∧
        after.isAssembling = false ∧ after = create 16 64 := by
  have refuses : (create 16 64).Refuses (unfinished ++ ([1, 0, 0] ++ [1, 0, 1, 170])) expectant
      ⟨plainHeader false, [], [1, 0, 1, 170]⟩ (.framing .interleavedFrame) :=
    refuses_behind_unfinished rfl rfl
  obtain ⟨after, decoded, kept, renewed, -⟩ := refused_frame_resets (.refl _) refuses
  have idle : after.isAssembling = false := by simpa [NetError.isUnmarked] using kept
  exact ⟨.refl _, refuses, after, decoded, idle, renewed idle⟩

/-- A frame without a marker is taken off and reported, and the sequence goes on: the regular frame
that follows is refused, though a decoder without a sequence reads it. -/
theorem unmarked_frame_keeps_assembly :
    (create 16 64).Refuses (unfinished ++ [5, 0, 0, 0, 0]) expectant ⟨plainHeader true, [], []⟩
        (.framing .missingMarker) ∧
      (create 16 64).decode (unfinished ++ [5, 0, 0, 0, 0]) =
        ⟨expectant, [], .error (.framing .missingMarker)⟩ ∧
      expectant.isAssembling = true ∧
      (expectant.decode [1, 0, 1, 170]).outcome = .error (.framing .interleavedFrame) ∧
      ((create 16 64).decode [1, 0, 1, 170]).outcome =
        .ok (some ⟨plainHeader false, [170]⟩) := by
  have refuses : (create 16 64).Refuses (unfinished ++ [5, 0, 0, 0, 0]) expectant
      ⟨plainHeader true, [], []⟩ (.framing .missingMarker) :=
    refuses_behind_unfinished rfl rfl
  have wire : Frame.toBytes (plainHeader false) [170] ++ [] = [1, 0, 1, 170] := rfl
  have takes (d : FrameDecoder) (room : 1 ≤ d.frameLimit) : d.takeFrame [1, 0, 1, 170] =
      .ok (some ⟨plainHeader false, [170], []⟩) := by
    rw [← wire]
    refine takeFrame_toBytes (Frame.fits_of_regular rfl (by decide)) ?_ []
    exact room
  refine ⟨refuses, refuses.decode, rfl, ?_, ?_⟩
  · rw [decode_of_answered (takes expectant (by decide)) rfl (by simp)]
  · rw [decode_of_answered (takes (create 16 64) (by decide)) rfl (by simp)]

end FrameDecoder

end SessionNet
