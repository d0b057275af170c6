import SessionNet.Proofs.Codec.RoundTrip
import SessionNet.Proofs.Frame.Grammar

/-!
# Datagrams and the wire

A datagram is taken apart by a reader of its own, which knows nothing of streams. This module shows
that the byte strings it accepts are exactly those that are written, each for one datagram
(`ofBytes_eq_ok_iff`), and that behind the conveyance id it accepts what a stream decoder with the
widest limit reads as one message of a single frame, and nothing else (`ofBytes_eq_ok_iff_decode`).
What is sealed for a datagram is accepted whenever it is written.
-/

namespace SessionNet

namespace Datagram

variable {bytes : Bytes} {d : Datagram}

/-! ## The layout -/

/-- The bytes of a conveyance id are read back as that id. -/
theorem ofNat_toNatBig (id : UInt32) :
    UInt32.ofNat (Bytes.toNatBig (Bytes.bigEndian 4 id.toNat)) = id := by
  have room : id.toNat < Nat.pow 256 4 := id.toNat_lt
  rw [Bytes.toNatBig_bigEndian room, UInt32.ofNat_toNat]

/-- Four bytes are what the id is written as that they are read as. -/
theorem bigEndian_ofNat {prefixed : Bytes} (four : prefixed.length = 4) :
    Bytes.bigEndian 4 (UInt32.ofNat (Bytes.toNatBig prefixed)).toNat = prefixed := by
  have room : Bytes.toNatBig prefixed < UInt32.size := by
    have below := Bytes.toNatBig_lt prefixed
    rwa [four] at below
  rw [UInt32.toNat_ofNat_of_lt' room, ← four]
  exact Bytes.bigEndian_toNatBig prefixed

/-- What is accepted is what is written of a datagram whose message is a single frame. -/
theorem ofBytes_eq_ok_iff : ofBytes bytes = .ok d ↔
    bytes = d.toBytes ∧ d.message.header.bigSized = false ∧
      d.message.payload.length ≤ maxFrameLimit := by
  constructor
  · intro read
    unfold ofBytes at read
    split at read
    · rename_i c0 c1 c2 c3 flags l0 l1 body
      split at read
      · cases read
      · rename_i header hflags
        split at read
        · cases read
        · rename_i small
          dsimp only at read
          split at read
          · cases read
          · rename_i exact
            cases read
            -- two bytes tell a length that fits the length field, so they are how it is written
            have declared : Bytes.toNatBig [l0, l1] = body.length := Decidable.not_not.mp exact
            have field : Bytes.bigEndian 2 body.length = [l0, l1] := by
              rw [← declared]
              exact Bytes.bigEndian_toNatBig [l0, l1]
            have below : Bytes.toNatBig [l0, l1] < Nat.pow 256 2 := Bytes.toNatBig_lt [l0, l1]
            refine ⟨?_, by simpa using small, ?_⟩
            · have front : [c0, c1, c2, c3].length = 4 := rfl
              rw [toBytes, Frame.regular, bigEndian_ofNat front, field,
                Header.ofByte_eq_ok_iff.1 hflags]
              rfl
            · rw [declared] at below
              exact Nat.le_of_lt_succ below
    · cases read
  · rintro ⟨rfl, small, fits⟩
    obtain ⟨id, header, payload⟩ := d
    -- each field is read back from where it was written
    have room : payload.length < Nat.pow 256 2 := Nat.lt_succ_of_le fits
    have declared := Bytes.toNatBig_bigEndian room
    have named := ofNat_toNatBig id
    have unmarked : header.bigSized = false := small
    simp only [Bytes.bigEndian] at declared named
    simp only [ofBytes, toBytes, Frame.regular, Bytes.bigEndian, List.cons_append, List.nil_append,
      Header.ofByte_toByte, unmarked, declared, named]
    simp

/-- Seven bytes hold an id, flags and a length. -/
theorem exists_fields (long : 7 ≤ bytes.length) : ∃ c0 c1 c2 c3 flags l0 l1 body,
    bytes = c0 :: c1 :: c2 :: c3 :: flags :: l0 :: l1 :: body := by
  rcases bytes with _ | ⟨c0, _ | ⟨c1, _ | ⟨c2, _ | ⟨c3, _ | ⟨flags, _ | ⟨l0, _ | ⟨l1, body⟩⟩⟩⟩⟩⟩⟩
  case cons.cons.cons.cons.cons.cons.cons => exact ⟨c0, c1, c2, c3, flags, l0, l1, body, rfl⟩
  all_goals simp at long

/-- The length of the body is told right before it, and the flags are those of a single frame. -/
theorem exists_ofBytes_iff : (∃ d, ofBytes bytes = .ok d) ↔
    7 ≤ bytes.length ∧
    (∃ flags, bytes[4]? = some flags ∧ flags.toNat < 16 ∧ flags.toNat.testBit 2 = false) ∧
    Bytes.toNatBig ((bytes.drop 5).take 2) = bytes.length - 7 := by
  have flagged : ∀ {flags : UInt8}, flags.toNat < 16 →
      Header.ofByte flags = .ok (Wire.header flags) := fun below =>
    Header.ofByte_eq_ok_iff.2 (Wire.header_eq_iff.1 ⟨below, rfl⟩)
  constructor
  · rintro ⟨d, read⟩
    obtain ⟨rfl, small, fits⟩ := ofBytes_eq_ok_iff.1 read
    have room : d.message.payload.length < Nat.pow 256 2 := Nat.lt_succ_of_le fits
    have named : d.message.header.toByte.toNat < 16 ∧
        Wire.header d.message.header.toByte = d.message.header := Wire.header_eq_iff.2 rfl
    have unmarked : d.message.header.toByte.toNat.testBit 2 = false :=
      (congrArg Header.bigSized named.2).trans small
    have declared := Bytes.toNatBig_bigEndian room
    refine ⟨?_, ⟨d.message.header.toByte, ?_, named.1, unmarked⟩, ?_⟩
    · simp [toBytes, Frame.regular]
      omega
    · simp [toBytes, Frame.regular, Bytes.bigEndian]
    · simpa [toBytes, Frame.regular, Bytes.bigEndian] using declared
  · rintro ⟨long, ⟨flags, shown, below, unmarked⟩, declared⟩
    obtain ⟨c0, c1, c2, c3, flags', l0, l1, body, rfl⟩ := exists_fields long
    obtain rfl : flags' = flags := Option.some.inj shown
    have small : (Wire.header flags').bigSized = false := unmarked
    have exact : Bytes.toNatBig [l0, l1] = body.length := by simpa using declared
    refine ⟨⟨UInt32.ofNat (Bytes.toNatBig [c0, c1, c2, c3]), ⟨Wire.header flags', body⟩⟩, ?_⟩
    simp [ofBytes, flagged below, small, exact]

/-! ## The stream decoder -/

/-- A wire message without the flag of a sequence has one encoding, which is a single frame. -/
theorem encodes_iff_of_single {limit : Nat} {message : WireMessage} (maxMessage : Nat)
    (small : message.header.bigSized = false) :
    Wire.Encodes limit maxMessage message bytes ↔
      bytes = Frame.toBytes message.header message.payload ∧ message.payload.length ≤ limit := by
  constructor
  · intro encodes
    cases encodes with
    | regular frame => exact (Wire.isRegular_iff.1 frame).2
    | sequence frame _ _ _ _ =>
      -- the head of a sequence says that it is one
      have big := frame.1
      rw [show _ = false from small] at big
      cases big
  · rintro ⟨written, fits⟩
    exact .regular (Wire.isRegular_iff.2 ⟨small, written, fits⟩)

/-- Behind the id a datagram is what a stream decoder reads as one message of a single frame. -/
theorem ofBytes_eq_ok_iff_decode {id : UInt32} {message : WireMessage} (long : 4 ≤ bytes.length)
    (maxMessage : Nat) :
    let step := (FrameDecoder.create maxFrameLimit maxMessage).decode (bytes.drop 4)
    ofBytes bytes = .ok ⟨id, message⟩ ↔
      id = UInt32.ofNat (Bytes.toNatBig (bytes.take 4)) ∧ step.outcome = .ok (some message) ∧
        step.rest = [] ∧ message.header.bigSized = false := by
  intro step
  have read : message.header.bigSized = false →
      ((step.outcome = .ok (some message) ∧ step.rest = []) ↔
        bytes.drop 4 = Frame.toBytes message.header message.payload ∧
          message.payload.length ≤ maxFrameLimit) := by
    intro small
    have decoded : ∀ after, step = ⟨after, [], .ok (some message)⟩ ↔ _ :=
      fun _ => FrameDecoder.decode_eq_some_iff (effectiveLimit_le _) rfl
    rw [← encodes_iff_of_single maxMessage small]
    constructor
    · rintro ⟨outcome, rest⟩
      obtain ⟨-, encoding, encodes, shown⟩ := (decoded step.decoder).1 (by rw [← outcome, ← rest])
      rw [List.append_nil] at shown
      exact shown ▸ encodes
    · intro encodes
      have whole := (decoded _).2 ⟨rfl, _, encodes, (List.append_nil _).symm⟩
      rw [whole]
      exact ⟨rfl, rfl⟩
  have front : (bytes.take 4).length = 4 := List.length_take_of_le long
  rw [ofBytes_eq_ok_iff]
  constructor
  · rintro ⟨written, small, fits⟩
    have four := Bytes.length_bigEndian 4 id.toNat
    have frame : bytes.drop 4 = Frame.toBytes message.header message.payload := by
      rw [written, toBytes, Frame.regular_eq_toBytes small, List.drop_left' four]
    obtain ⟨outcome, rest⟩ := (read small).2 ⟨frame, fits⟩
    refine ⟨?_, outcome, rest, small⟩
    rw [written, toBytes, List.take_left' four]
    exact (ofNat_toNatBig id).symm
  · rintro ⟨rfl, outcome, rest, small⟩
    obtain ⟨frame, fits⟩ := (read small).1 ⟨outcome, rest⟩
    refine ⟨?_, small, fits⟩
    rw [toBytes, bigEndian_ofNat front, Frame.regular_eq_toBytes small, ← frame,
      List.take_append_drop]

end Datagram

namespace CodecConfig

variable {c : CodecConfig} {nonce : Nonce} {conveyance : UInt32} {payload : Bytes} {encrypt : Bool}

/-- Whatever is sealed fits a single frame by its flags. -/
theorem bigSized_sealPayload {sealed : WireMessage}
    (hseal : c.sealPayload nonce payload encrypt = .ok sealed) :
    sealed.header.bigSized = false := by
  rw [header_sealPayload hseal]

theorem encodeDatagram_of_sealed {sealed : WireMessage}
    (hseal : c.sealPayload nonce payload encrypt = .ok sealed) :
    c.encodeDatagram nonce conveyance payload encrypt =
      if effectiveLimit c.frameLimit < sealed.payload.length then
        .error (.oversizedPacket sealed.payload.length)
      else .ok (Datagram.toBytes ⟨conveyance, sealed⟩) := by
  rw [encodeDatagram, hseal]

/--
The layout of datagrams. A byte string is accepted exactly if it is long enough, its flags are those
of a single frame, and the length in it is that of the rest; and it is then what is written of the
datagram it was read as, which is read back. A sealed payload is refused as oversized if it exceeds
the frame limit, and is otherwise written as a datagram that reads back. Behind the id the reader of
datagrams accepts the same bytes as a stream decoder does for one message of a single frame.
-/
theorem datagram_exact (bytes : Bytes) (d : Datagram) (c : CodecConfig) (nonce : Nonce)
    (payload : Bytes) (encrypt : Bool) (maxMessage : Nat) :
    ((∃ d, Datagram.ofBytes bytes = .ok d) ↔
      7 ≤ bytes.length ∧
      (∃ flags, bytes[4]? = some flags ∧ flags.toNat < 16 ∧ flags.toNat.testBit 2 = false) ∧
      Bytes.toNatBig ((bytes.drop 5).take 2) = bytes.length - 7) ∧
    (Datagram.ofBytes bytes = .ok d →
      Bytes.bigEndian 4 d.conveyance.toNat ++ d.message.header.toByte ::
        (Bytes.bigEndian 2 d.message.payload.length ++ d.message.payload) = bytes) ∧
    (Datagram.ofBytes d.toBytes = .ok d ↔
      d.message.header.bigSized = false ∧ d.message.payload.length ≤ maxFrameLimit) ∧
    (∀ sealed, c.sealPayload nonce payload encrypt = .ok sealed →
      ((∃ e, c.encodeDatagram nonce d.conveyance payload encrypt = .error e) ↔
        effectiveLimit c.frameLimit < sealed.payload.length) ∧
      (∀ e, c.encodeDatagram nonce d.conveyance payload encrypt = .error e →
        e = .oversizedPacket sealed.payload.length) ∧
      ∀ written, c.encodeDatagram nonce d.conveyance payload encrypt = .ok written →
        Datagram.ofBytes written = .ok ⟨d.conveyance, sealed⟩) ∧
    (7 ≤ bytes.length →
      let step := (FrameDecoder.create maxFrameLimit maxMessage).decode (bytes.drop 4)
      (Datagram.ofBytes bytes = .ok d ↔
        d.conveyance = UInt32.ofNat (Bytes.toNatBig (bytes.take 4)) ∧
          step.outcome = .ok (some d.message) ∧ step.rest = [] ∧
          d.message.header.bigSized = false)) := by
  refine ⟨Datagram.exists_ofBytes_iff, ?_, ?_, ?_, ?_⟩
  · intro read
    exact (Datagram.ofBytes_eq_ok_iff.1 read).1.symm
  · rw [Datagram.ofBytes_eq_ok_iff]
    exact and_iff_right rfl
  · intro sealed hseal
    rw [encodeDatagram_of_sealed hseal]
    by_cases large : effectiveLimit c.frameLimit < sealed.payload.length
    · simp [large]
    · -- what is within the frame limit is within what the length field can tell
      have fits : sealed.payload.length ≤ maxFrameLimit :=
        Nat.le_trans (Nat.le_of_not_lt large) (effectiveLimit_le _)
      have read : Datagram.ofBytes (Datagram.toBytes ⟨d.conveyance, sealed⟩) =
          .ok ⟨d.conveyance, sealed⟩ :=
        Datagram.ofBytes_eq_ok_iff.2 ⟨rfl, bigSized_sealPayload hseal, fits⟩
      simp [large, read]
  · intro long
    exact Datagram.ofBytes_eq_ok_iff_decode (Nat.le_trans (by decide) long) maxMessage

theorem datagram_exact_of_byte :
    (∃ d, Datagram.ofBytes [0, 0, 0, 9, 1, 0, 1, 7] = .ok d) ∧
      ∃ written, encodeDatagram {} (Nonce.ofNat 0) 9 [7] true = .ok written ∧
        Datagram.ofBytes written = .ok ⟨9, ⟨{ binary := true }, [7]⟩⟩ := by
  obtain ⟨accepted, -, -, sent, -⟩ :=
    datagram_exact [0, 0, 0, 9, 1, 0, 1, 7] ⟨9, ⟨{ binary := true }, [7]⟩⟩ {} (Nonce.ofNat 0) [7]
      true 0
  have sealed : sealPayload {} (Nonce.ofNat 0) [7] true = .ok ⟨{ binary := true }, [7]⟩ := rfl
  have written : encodeDatagram {} (Nonce.ofNat 0) 9 [7] true = .ok [0, 0, 0, 9, 1, 0, 1, 7] := rfl
  exact ⟨accepted.2 ⟨by decide, ⟨1, rfl, by decide, rfl⟩, by decide⟩, _, written,
    (sent _ sealed).2.2 _ written⟩

end CodecConfig

end SessionNet
