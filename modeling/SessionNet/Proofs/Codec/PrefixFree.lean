import SessionNet.Proofs.Codec.RoundTrip

/-!
# No more and no fewer bytes than a message has

A receiver that is given a whole message at once wants exactly the bytes that were written. If any
of them is missing it says that the input ended inside a frame, and if others follow it says how
many were the message's, whatever these bytes are and wherever the cut falls. So no encoding of a
message is the beginning of another's.
-/

namespace SessionNet

namespace FrameDecoder

variable {d : FrameDecoder} {front back : Bytes}

/-- Nothing comes of a buffer as long as bytes are missing that the answer is made of. -/
theorem nothing_of_missing (needed : (d.decode (front ++ back)).rest.length < back.length) :
    (d.decode front).outcome = .ok none := by
  apply Classical.byContradiction
  intro answered
  -- an answer is not taken back, so it would have left all the bytes that arrived after it
  have left := congrArg Decoded.rest (decode_append_of_answered answered back)
  have length := congrArg List.length left
  simp only [List.length_append] at length
  omega

end FrameDecoder

namespace CodecConfig

variable {c : CodecConfig} {message : WireMessage} {bytes front more : Bytes}

/-- All bytes of a message are needed before any answer, those between two of its frames too. -/
theorem decode_of_missing
    (read : ∀ rest, c.frameDecoder.decode (bytes ++ rest) =
      ⟨c.frameDecoder, rest, .ok (some message)⟩)
    (cut : front <+: bytes) (proper : front ≠ bytes) :
    c.decode front = .error (.framing .incompleteFrame) := by
  obtain ⟨back, rfl⟩ := cut
  have missing : back ≠ [] := by
    rintro rfl
    exact proper (List.append_nil front).symm
  have whole := read []
  rw [List.append_nil] at whole
  have needed : (c.frameDecoder.decode (front ++ back)).rest.length < back.length := by
    rw [whole]
    exact List.length_pos_iff.2 missing
  have nothing := FrameDecoder.nothing_of_missing needed
  simp only [decode, nothing]

/-- Bytes behind a message are not looked at, only counted. -/
theorem decode_of_more
    (read : ∀ rest, c.frameDecoder.decode (bytes ++ rest) =
      ⟨c.frameDecoder, rest, .ok (some message)⟩) (extended : more ≠ []) :
    c.decode (bytes ++ more) =
      .error (.lengthMismatch bytes.length (bytes.length + more.length)) := by
  have left : more.isEmpty = false := List.isEmpty_eq_false_iff.2 extended
  simp only [decode, read more, left, Bool.false_eq_true, if_false, List.length_append,
    Nat.add_sub_cancel]

/--
Of a message that was encoded, and that is no larger than the settings admit once it is sealed, a
receiver wants exactly the bytes that were written. Every shorter beginning, also the empty one,
ends inside a frame; and if anything follows, the error tells the length of the message and that of
the input.
-/
theorem encode_prefix_free (c : CodecConfig) (nonce : Nonce) (m : Message) {sealed : WireMessage}
    {header : Header} {bytes : Bytes}
    (hseal : c.sealPayload nonce (m.serialize c.format) true = .ok sealed)
    (hsize : sealed.payload.length ≤ c.maxMessageSize)
    (hencode : c.encode nonce m = .ok (header, bytes)) :
    (∀ front, front <+: bytes → front ≠ bytes →
      c.decode front = .error (.framing .incompleteFrame)) ∧
    (∀ more, more ≠ [] →
      c.decode (bytes ++ more) =
        .error (.lengthMismatch bytes.length (bytes.length + more.length))) ∧
    FramingFault.incompleteFrame.message = "Input ended inside a frame" := by
  obtain ⟨sealed', hseal', hframes, -⟩ := encode_eq_ok_iff.1 hencode
  obtain rfl : sealed = sealed' := Except.ok.inj (hseal.symm.trans hseal')
  have read (rest : Bytes) : c.frameDecoder.decode (bytes ++ rest) =
      ⟨c.frameDecoder, rest, .ok (some (sealed.written c.frameLimit))⟩ :=
    FrameDecoder.decode_frames hframes rfl (Nat.le_refl _) (effectiveLimit_le _)
      (fun _ => hsize) rest
  refine ⟨?_, ?_, rfl⟩
  · intro front cut proper
    exact decode_of_missing read cut proper
  · intro more extended
    exact decode_of_more read extended

/-- Settings that cut even a short message into fragments. -/
def fourByteFrames : CodecConfig where
  frameLimit := 4

/-- A message of three fragments behind its head, cut off exactly between the first two, and the
same message with a byte behind it that is no flag byte. -/
theorem encode_prefix_free_fragments :
    ∃ header bytes,
      fourByteFrames.encode (Nonce.ofNat 7) (Message.ofList [("a", .bool true)]) =
          .ok (header, bytes) ∧
        fourByteFrames.decode (bytes.take 20) = .error (.framing .incompleteFrame) ∧
        fourByteFrames.decode (bytes ++ [255]) = .error (.lengthMismatch 39 40) := by
  have hlength : (fourByteFrames.encode (Nonce.ofNat 7)
      (Message.ofList [("a", .bool true)])).toOption.map (·.2.length) = some 39 := by
    decide +kernel
  rcases hencode : fourByteFrames.encode (Nonce.ofNat 7) (Message.ofList [("a", .bool true)]) with
    e | ⟨header, bytes⟩
  · rw [hencode] at hlength
    cases hlength
  · rw [hencode] at hlength
    have long : bytes.length = 39 := Option.some.inj hlength
    obtain ⟨cut, extended, -⟩ := encode_prefix_free fourByteFrames (Nonce.ofNat 7)
      (Message.ofList [("a", .bool true)]) rfl (by decide) hencode
    refine ⟨header, bytes, rfl, cut _ (List.take_prefix 20 bytes) ?_, ?_⟩
    · intro whole
      have length := congrArg List.length whole
      simp [long] at length
    · have mismatch := extended [255] (by simp)
      rwa [long] at mismatch

end CodecConfig

end SessionNet
