import Mathlib.Data.List.Forall2
import SessionNet.Proofs.Frame.Grammar
import SessionNet.Server.Basic

/-!
# What is read from a stream

The messages in the bytes of a stream end with the first one that fails: one that cannot be framed,
or one that cannot be opened. This module says which they are without reference to any reader
(`ValidPrefix`), and shows that a reader finds exactly them, however the bytes are cut into reads
(`reading_append`, `validPrefix_iff`).
-/

namespace SessionNet

/-- What comes of the bytes that a reader holds: messages, the fault that ended the reading, if one
did, and the reader afterwards. -/
structure Yield where
  messages : List Message
  fault : Option NetError
  reader : StreamReader

namespace StreamReader

/-- Take in more bytes. -/
def take (reader : StreamReader) (data : Bytes) : StreamReader :=
  { reader with unread := reader.unread ++ data }

/-- Open every complete message that a reader holds, up to the first fault. -/
def yield (c : CodecConfig) (reader : StreamReader) : Yield :=
  match _h : reader.decoder.decode reader.unread with
  | ⟨decoder, unread, .error e⟩ => ⟨[], some e, ⟨decoder, unread⟩⟩
  | ⟨decoder, unread, .ok none⟩ => ⟨[], none, ⟨decoder, unread⟩⟩
  | ⟨decoder, unread, .ok (some wire)⟩ =>
    match c.openMessage wire with
    | .error e => ⟨[], some e, ⟨decoder, unread⟩⟩
    | .ok message =>
      let more := yield c ⟨decoder, unread⟩
      { more with messages := message :: more.messages }
termination_by reader.unread.length
decreasing_by
  have hlt : (reader.decoder.decode reader.unread).rest.length < reader.unread.length :=
    FrameDecoder.decode_rest_lt (by rw [_h])
  rw [_h] at hlt
  exact hlt

variable {c : CodecConfig} {reader : StreamReader} {decoder : FrameDecoder} {unread : Bytes}

theorem yield_of_misframed {e : NetError}
    (decoded : reader.decoder.decode reader.unread = ⟨decoder, unread, .error e⟩) :
    reader.yield c = ⟨[], some e, ⟨decoder, unread⟩⟩ := by
  rw [yield]
  split <;> simp_all

theorem yield_of_waiting
    (decoded : reader.decoder.decode reader.unread = ⟨decoder, unread, .ok none⟩) :
    reader.yield c = ⟨[], none, ⟨decoder, unread⟩⟩ := by
  rw [yield]
  split <;> simp_all

theorem yield_of_unopened {wire : WireMessage} {e : NetError}
    (decoded : reader.decoder.decode reader.unread = ⟨decoder, unread, .ok (some wire)⟩)
    (opened : c.openMessage wire = .error e) :
    reader.yield c = ⟨[], some e, ⟨decoder, unread⟩⟩ := by
  rw [yield]
  split <;> simp_all

theorem yield_of_message {wire : WireMessage} {message : Message}
    (decoded : reader.decoder.decode reader.unread = ⟨decoder, unread, .ok (some wire)⟩)
    (opened : c.openMessage wire = .ok message) :
    reader.yield c = { yield c ⟨decoder, unread⟩ with
      messages := message :: (yield c ⟨decoder, unread⟩).messages } := by
  rw [yield]
  split <;> simp_all

/-- The messages depend on the decoder and the bytes through decoding alone. -/
theorem yield_congr {reader' : StreamReader}
    (same : reader.decoder.decode reader.unread = reader'.decoder.decode reader'.unread) :
    reader.yield c = reader'.yield c := by
  rcases hdecode : reader'.decoder.decode reader'.unread with ⟨decoder, unread, e | _ | wire⟩
  · rw [yield_of_misframed (same.trans hdecode), yield_of_misframed hdecode]
  · rw [yield_of_waiting (same.trans hdecode), yield_of_waiting hdecode]
  · cases hopen : c.openMessage wire with
    | error e =>
      rw [yield_of_unopened (same.trans hdecode) hopen, yield_of_unopened hdecode hopen]
    | ok message =>
      rw [yield_of_message (same.trans hdecode) hopen, yield_of_message hdecode hopen]

end StreamReader

/-- Go on from what was read with the bytes that arrive next; a fault is final. -/
def Yield.resume (c : CodecConfig) (y : Yield) (data : Bytes) : Yield :=
  match y.fault with
  | some _ => { y with reader := y.reader.take data }
  | none =>
    let next := (y.reader.take data).yield c
    { next with messages := y.messages ++ next.messages }

namespace StreamReader

variable {c : CodecConfig} {reader : StreamReader}

/-- Bytes that arrive later are read on from where the reading stopped. -/
theorem yield_take (c : CodecConfig) (reader : StreamReader) (data : Bytes) :
    (reader.take data).yield c = (reader.yield c).resume c data := by
  fun_induction yield c reader with
  | case1 reader decoder unread e hdecode =>
    have grown := FrameDecoder.decode_append_of_answered (by rw [hdecode]; simp) data
    rw [hdecode] at grown
    exact yield_of_misframed grown
  | case2 reader decoder unread hdecode =>
    -- frames that were absorbed are not read again
    have grown := FrameDecoder.decode_append_of_nothing (by rw [hdecode]) data
    rw [hdecode] at grown
    exact yield_congr grown
  | case3 reader decoder unread wire hdecode e hopen =>
    have grown := FrameDecoder.decode_append_of_answered (by rw [hdecode]; simp) data
    rw [hdecode] at grown
    exact yield_of_unopened grown hopen
  | case4 reader decoder unread wire hdecode message hopen more ih =>
    have grown := FrameDecoder.decode_append_of_answered (by rw [hdecode]; simp) data
    rw [hdecode] at grown
    have rest : (yield c ⟨decoder, unread ++ data⟩) = more.resume c data := ih
    have first : (reader.take data).yield c = _ := yield_of_message grown hopen
    rw [first, rest]
    -- one message in front changes nothing about how the rest is resumed
    unfold Yield.resume
    cases more.fault <;> rfl

end StreamReader

/-! ## The valid prefix -/

namespace CodecConfig

variable {c : CodecConfig} {input rest bytes : Bytes} {message : Message} {messages : List Message}
variable {fault : Option NetError}

/-- Bytes that encode one wire message, in which there is this message. -/
def Transmits (c : CodecConfig) (message : Message) (bytes : Bytes) : Prop :=
  ∃ wire, Wire.Encodes (effectiveLimit c.frameLimit) c.maxMessageSize wire bytes ∧
    c.openMessage wire = .ok message

/-- What follows the last message that can be read: a wire message that is not complete yet, bytes
that cannot be framed, or a wire message that cannot be opened. -/
inductive Ends (c : CodecConfig) : Bytes → Option NetError → Prop
  | waiting {rest : Bytes} (waits : (c.frameDecoder.decode rest).outcome = .ok none) :
      Ends c rest none
  | misframed {rest : Bytes} {e : NetError}
      (fails : (c.frameDecoder.decode rest).outcome = .error e) : Ends c rest (some e)
  | unopened {wire : WireMessage} {bytes more : Bytes} {e : NetError}
      (complete : Wire.Encodes (effectiveLimit c.frameLimit) c.maxMessageSize wire bytes)
      (fails : c.openMessage wire = .error e) : Ends c (bytes ++ more) (some e)

/-- The messages of an input up to the first wire message that cannot be framed or opened, and the
fault of that one. -/
def ValidPrefix (c : CodecConfig) (input : Bytes) (messages : List Message)
    (fault : Option NetError) : Prop :=
  ∃ encodings rest, input = List.flatten encodings ++ rest ∧
    List.Forall₂ c.Transmits messages encodings ∧ c.Ends rest fault

/-- A reader at the start of a stream that has received these bytes. -/
def readerOn (c : CodecConfig) (input : Bytes) : StreamReader := ⟨c.frameDecoder, input⟩

/-- What comes of all the bytes of a stream. -/
def reading (c : CodecConfig) (input : Bytes) : Yield := (c.readerOn input).yield c

/-- It does not matter when the bytes arrive. -/
theorem reading_append (c : CodecConfig) (input data : Bytes) :
    c.reading (input ++ data) = (c.reading input).resume c data :=
  StreamReader.yield_take c (c.readerOn input) data

/-- Nothing comes of no bytes. -/
theorem reading_nil (c : CodecConfig) : c.reading [] = ⟨[], none, c.readerOn []⟩ :=
  StreamReader.yield_of_waiting (FrameDecoder.decode_of_none rfl)

theorem decode_frameDecoder_iff {wire : WireMessage} {decoder : FrameDecoder} :
    c.frameDecoder.decode input = ⟨decoder, rest, .ok (some wire)⟩ ↔
      decoder = c.frameDecoder ∧ ∃ bytes,
        Wire.Encodes (effectiveLimit c.frameLimit) c.maxMessageSize wire bytes ∧
          input = bytes ++ rest :=
  FrameDecoder.decode_eq_some_iff (effectiveLimit_le _) rfl

/-- What is decoded on its own is what is transmitted on a stream. -/
theorem decode_eq_ok_iff : c.decode bytes = .ok message ↔ c.Transmits message bytes := by
  constructor
  · intro decoded
    unfold decode at decoded
    rcases hdecode : c.frameDecoder.decode bytes with ⟨decoder, rest, e | _ | wire⟩
    · simp [hdecode] at decoded
    · simp [hdecode] at decoded
    · obtain ⟨-, exact_, encodes, rfl⟩ := decode_frameDecoder_iff.1 hdecode
      simp only [hdecode] at decoded
      split at decoded
      · rename_i whole
        rw [List.isEmpty_iff.mp whole, List.append_nil]
        exact ⟨wire, encodes, decoded⟩
      · cases decoded
  · rintro ⟨wire, encodes, opened⟩
    have decoded : c.frameDecoder.decode bytes = ⟨c.frameDecoder, [], .ok (some wire)⟩ :=
      decode_frameDecoder_iff.2 ⟨rfl, bytes, encodes, (List.append_nil _).symm⟩
    simp [decode, decoded, opened]

theorem reading_of_transmits (transmits : c.Transmits message bytes) (rest : Bytes) :
    c.reading (bytes ++ rest) =
      { c.reading rest with messages := message :: (c.reading rest).messages } := by
  obtain ⟨wire, encodes, opened⟩ := transmits
  have decoded : c.frameDecoder.decode (bytes ++ rest) = ⟨c.frameDecoder, rest, .ok (some wire)⟩ :=
    decode_frameDecoder_iff.2 ⟨rfl, bytes, encodes, rfl⟩
  exact StreamReader.yield_of_message decoded opened

theorem reading_of_ends (ends : c.Ends rest fault) :
    (c.reading rest).messages = [] ∧ (c.reading rest).fault = fault := by
  cases ends with
  | waiting waits =>
    rcases hdecode : c.frameDecoder.decode rest with ⟨decoder, unread, outcome⟩
    obtain rfl : outcome = .ok none := by rw [hdecode] at waits; exact waits
    have quiet : c.reading rest = _ := StreamReader.yield_of_waiting hdecode
    rw [quiet]
    exact ⟨rfl, rfl⟩
  | @misframed _ e fails =>
    rcases hdecode : c.frameDecoder.decode rest with ⟨decoder, unread, outcome⟩
    obtain rfl : outcome = .error e := by rw [hdecode] at fails; exact fails
    have failed : c.reading rest = _ := StreamReader.yield_of_misframed hdecode
    rw [failed]
    exact ⟨rfl, rfl⟩
  | @unopened wire bytes more e complete fails =>
    have decoded :
        c.frameDecoder.decode (bytes ++ more) = ⟨c.frameDecoder, more, .ok (some wire)⟩ :=
      decode_frameDecoder_iff.2 ⟨rfl, bytes, complete, rfl⟩
    have failed : c.reading (bytes ++ more) = _ := StreamReader.yield_of_unopened decoded fails
    rw [failed]
    exact ⟨rfl, rfl⟩

/-- What is read of an input is its valid prefix, and the fault that ends it. -/
theorem validPrefix_reading (c : CodecConfig) (input : Bytes) :
    c.ValidPrefix input (c.reading input).messages (c.reading input).fault := by
  -- by induction on the length: after a message the reader is at the start again
  induction hlength : input.length using Nat.strongRecOn generalizing input with
  | _ length ih =>
    have ended : ∀ {fault : Option NetError}, c.Ends input fault →
        c.ValidPrefix input (c.reading input).messages (c.reading input).fault := by
      intro fault ends
      obtain ⟨nothing, fails⟩ := reading_of_ends ends
      rw [nothing, fails]
      exact ⟨[], input, rfl, .nil, ends⟩
    rcases hdecode : c.frameDecoder.decode input with ⟨decoder, rest, e | _ | wire⟩
    · exact ended (.misframed (by rw [hdecode]))
    · exact ended (.waiting (by rw [hdecode]))
    · have shorter : rest.length < input.length := by
        have less := FrameDecoder.decode_rest_lt
          (show (c.frameDecoder.decode input).outcome = .ok (some wire) by rw [hdecode])
        rwa [hdecode] at less
      obtain ⟨rfl, bytes, encodes, rfl⟩ := decode_frameDecoder_iff.1 hdecode
      cases hopen : c.openMessage wire with
      | error e => exact ended (.unopened encodes hopen)
      | ok message =>
        have transmits : c.Transmits message bytes := ⟨wire, encodes, hopen⟩
        obtain ⟨encodings, last, rfl, others, ends⟩ := ih rest.length (hlength ▸ shorter) rest rfl
        rw [reading_of_transmits transmits]
        exact ⟨bytes :: encodings, last, by simp, .cons transmits others, ends⟩

/-- There is one valid prefix only. -/
theorem validPrefix_iff : c.ValidPrefix input messages fault ↔
    (c.reading input).messages = messages ∧ (c.reading input).fault = fault := by
  constructor
  · rintro ⟨encodings, rest, rfl, transmits, ends⟩
    induction transmits with
    | nil => exact reading_of_ends ends
    | @cons message bytes messages encodings first _ ih =>
      rw [List.flatten_cons, List.append_assoc, reading_of_transmits first]
      exact ⟨congrArg (message :: ·) ih.1, ih.2⟩
  · rintro ⟨rfl, rfl⟩
    exact c.validPrefix_reading input

end CodecConfig

end SessionNet
