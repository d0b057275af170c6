import SessionNet.Proofs.Frame.Layout

/-!
# What is written for a message

Every byte that is written behind a destination is known: a regular frame adds three bytes to the
payload, and a sequence adds ten for its head and six for each of its chunks. The field of no length
is too narrow for it, because the frame limit bounds the chunks and the largest message the total.
-/

namespace SessionNet

namespace Frame

/-! ## Lengths -/

theorem length_bigSized (header : Header) (marker : UInt8) (data : Bytes) :
    (bigSized header marker data).length = 6 + data.length := by
  rw [bigSized, List.length_cons, List.length_append, Bytes.length_bigEndian, List.length_cons]
  omega

theorem length_head (header : Header) (total : Nat) : (head header total).length = 10 := by
  rw [head, length_bigSized, Bytes.length_bigEndian]

theorem length_flatMap_bigSized (header : Header) (marker : UInt8) (chunks : List Bytes) :
    (chunks.flatMap (bigSized header marker)).length =
      6 * chunks.length + chunks.flatten.length := by
  induction chunks with
  | nil => rfl
  | cons chunk chunks ih =>
      rw [List.flatMap_cons, List.length_append, ih, length_bigSized, List.length_cons,
        List.flatten_cons, List.length_append]
      omega

/-- Ten bytes for the head, six for each chunk, and those that were cut. -/
theorem Cut.length_frames {size : Nat} {bytes : Bytes} {full : List Bytes} {last : Bytes}
    (cut : Cut size bytes full last) (header : Header) (total : Nat) :
    (head header total ++ (full.flatMap (bigSized header continuationMarker)
      ++ bigSized header lastMarker last)).length =
      10 + 6 * ((bytes.length + size - 1) / size) + bytes.length := by
  have hwhole : bytes.length = full.flatten.length + last.length := by
    rw [← cut.whole, List.length_append]
  rw [List.length_append, List.length_append, length_head, length_flatMap_bigSized,
    length_bigSized, ← cut.count, hwhole]
  omega

end Frame

namespace WireMessage

variable {message : WireMessage} {limit : Nat}

theorem writeFrames_eq_error_iff {destination : Bytes} {e : NetError} :
    (message.writeFrames limit destination).2 = .error e ↔ message.frames limit = .error e := by
  rw [writeFrames_eq]
  rcases message.frames limit with e' | bytes
  · simp
  · simp

/-- A failure does not touch what is there. -/
theorem destination_of_error {destination : Bytes} {e : NetError}
    (h : (message.writeFrames limit destination).2 = .error e) :
    (message.writeFrames limit destination).1 = destination := by
  rw [writeFrames_eq, writeFrames_eq_error_iff.1 h]

/--
Writing fails exactly if the payload exceeds both the limit and the largest message, and then leaves
the destination as it was. A payload within the limit is written as one regular frame. Any other is
written as a head that declares its length and as many chunks as the limit goes into it, rounded up:
all of them full and marked as continuations but the last one, and with the same flags. No length
loses a bit when it is narrowed to its field.
-/
theorem writeFrames_exact (message : WireMessage) (limit : Nat) (destination : Bytes) :
    let size := message.payload.length
    let bound := effectiveLimit limit
    let written := message.writeFrames limit destination
    (∀ e, written.2 = .error e → written.1 = destination) ∧
      ((∃ e, written.2 = .error e) ↔ bound < size ∧ maxMessageSize < size) ∧
      (size ≤ bound →
        let header := message.header.shaped false
        written =
          (destination ++ header.toByte :: (Bytes.bigEndian 2 size ++ message.payload),
            .ok header) ∧
          written.1.length = destination.length + (size + 3) ∧
          size.toUInt16.toNat = size) ∧
      (bound < size → size ≤ maxMessageSize →
        let header := message.header.shaped true
        ∃ full last, Frame.Cut bound message.payload full last ∧
          full.length + 1 = (size + bound - 1) / bound ∧
          written =
            (destination ++ (Frame.head header size
              ++ (full.flatMap (Frame.bigSized header Frame.continuationMarker)
                ++ Frame.bigSized header Frame.lastMarker last)), .ok header) ∧
          written.1.length =
            destination.length + (10 + 6 * ((size + bound - 1) / bound) + size) ∧
          size.toUInt32.toNat = size ∧
          ∀ chunk ∈ full ++ [last], (chunk.length + 1).toUInt32.toNat = chunk.length + 1) := by
  intro size bound written
  refine ⟨?_, ?_, ?_, ?_⟩
  · exact fun e herror => destination_of_error herror
  · constructor
    · rintro ⟨e, herror⟩
      obtain ⟨hbig, hlarge, -⟩ := frames_eq_error_iff.1 (writeFrames_eq_error_iff.1 herror)
      exact ⟨hbig, hlarge⟩
    · rintro ⟨hbig, hlarge⟩
      exact ⟨_, writeFrames_eq_error_iff.2 (frames_of_large hbig hlarge)⟩
  · intro hregular header
    have hwritten : written = _ := writeFrames_of_regular hregular destination
    refine ⟨hwritten, ?_, size_toUInt16 hregular⟩
    rw [hwritten, List.length_append, Frame.regular, List.length_cons, List.length_append,
      Bytes.length_bigEndian]
    omega
  · intro hbig hmax header
    obtain ⟨full, last, hchunks, hcut⟩ := exists_cut hbig
    have hwritten : written = _ := writeFrames_of_cut hbig hmax hchunks hcut destination
    rw [Frame.chunkFrames_append_singleton] at hwritten
    refine ⟨full, last, hcut, hcut.count, hwritten, ?_, size_toUInt32 hmax, ?_⟩
    · rw [hwritten, List.length_append, hcut.length_frames]
    · exact fun chunk hmem => UInt32.toNat_ofNat_of_lt' (chunk_lt hcut chunk hmem)

/-- A limit that goes into the payload twice, and a payload that is refused. -/
theorem writeFrames_exact_even :
    let message : WireMessage := ⟨{ binary := true }, [1, 2, 3, 4]⟩
    let huge : WireMessage := ⟨{}, List.replicate (maxMessageSize + 1) 0⟩
    (∃ full last, Frame.Cut 2 message.payload full last ∧ full.length + 1 = 2 ∧
      (message.writeFrames 2 [9]).1 =
        [9] ++ (Frame.head { binary := true, bigSized := true } 4
          ++ (full.flatMap
              (Frame.bigSized { binary := true, bigSized := true } Frame.continuationMarker)
            ++ Frame.bigSized { binary := true, bigSized := true } Frame.lastMarker last)) ∧
      (message.writeFrames 2 [9]).1.length = 27) ∧
      (∃ e, (huge.writeFrames 1024 [9]).2 = .error e) ∧ (huge.writeFrames 1024 [9]).1 = [9] := by
  intro message huge
  obtain ⟨-, -, -, fragmented⟩ := writeFrames_exact message 2 [9]
  obtain ⟨full, last, hcut, hcount, hwritten, hlength, -⟩ := fragmented (by decide) (by decide)
  obtain ⟨kept, fails, -⟩ := writeFrames_exact huge 1024 [9]
  have hsize : huge.payload.length = maxMessageSize + 1 := List.length_replicate
  obtain ⟨e, herror⟩ := fails.2 (by rw [hsize]; decide)
  have hchunks : full.length + 1 = (4 + 2 - 1) / 2 := hcount
  have hadded : (message.writeFrames 2 [9]).1.length = 1 + (10 + 6 * ((4 + 2 - 1) / 2) + 4) := hlength
  refine ⟨⟨full, last, hcut, hchunks, congrArg Prod.fst hwritten, hadded⟩, ?_⟩
  exact ⟨⟨e, herror⟩, kept e herror⟩

end WireMessage

end SessionNet
