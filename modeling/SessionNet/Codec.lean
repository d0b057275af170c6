import SessionNet.Cipher.XChaCha
import SessionNet.Compression
import SessionNet.Format
import SessionNet.Frame.Datagram
import SessionNet.Frame.Decoder
import SessionNet.Packet

/-!
# The message codec

From messages to wire bytes and back. Sending serializes a message, compresses it from a threshold
on, encrypts it, and lays it out in frames or in one datagram; receiving undoes these steps in the
opposite order, each only if the flags say so. The nonce of a sealed payload is an argument.
-/

namespace SessionNet

/-- Settings shared by both directions. -/
structure CodecConfig where
  format : Format := .messagePack
  /-- Least number of serialized bytes that are compressed. -/
  compressionThreshold : Nat := 512
  frameLimit : Nat := defaultFrameLimit
  maxMessageSize : Nat := SessionNet.maxMessageSize
  compressor? : Option Compressor := none
  encryptor? : Option Encryptor := none

namespace CodecConfig

/-! ## Sending -/

/-- Compress serialized bytes from the threshold on. -/
def pack (c : CodecConfig) (payload : Bytes) : Except NetError WireMessage :=
  match c.compressor? with
  | none => .ok ⟨{ binary := true }, payload⟩
  | some compressor =>
    if c.compressionThreshold ≤ payload.length then
      match compressor.compress payload with
      | .error e => .error e
      | .ok packed => .ok ⟨{ binary := true, compressed := true }, packed⟩
    else .ok ⟨{ binary := true }, payload⟩

/-- Encrypt packed bytes if that is asked for and there is a key. -/
def protect (c : CodecConfig) (nonce : Nonce) (encrypt : Bool) (message : WireMessage) :
    Except NetError WireMessage :=
  match encrypt, c.encryptor? with
  | true, some encryptor =>
    match encryptor.encrypt nonce message.payload with
    | .error e => .error e
    | .ok sealed => .ok ⟨{ message.header with encrypted := true }, sealed⟩
  | _, _ => .ok message

/-- Compress and encrypt serialized bytes, and say so in the flags. -/
def sealPayload (c : CodecConfig) (nonce : Nonce) (payload : Bytes) (encrypt : Bool) :
    Except NetError WireMessage :=
  match c.pack payload with
  | .error e => .error e
  | .ok packed => c.protect nonce encrypt packed

/-- The frames of sealed bytes, with the header of the first of them. -/
def frame (c : CodecConfig) (message : WireMessage) : Except NetError (Header × Bytes) :=
  message.appendFrames c.frameLimit []

/-- The wire bytes of a message, encrypted whenever there is a key. -/
def encode (c : CodecConfig) (nonce : Nonce) (m : Message) : Except NetError (Header × Bytes) :=
  match c.sealPayload nonce (m.serialize c.format) true with
  | .error e => .error e
  | .ok sealed => c.frame sealed

/-- The wire bytes of serialized bytes on a stream. -/
def encodePayload (c : CodecConfig) (nonce : Nonce) (payload : Bytes) (encrypt : Bool) :
    Except NetError Bytes :=
  match c.sealPayload nonce payload encrypt with
  | .error e => .error e
  | .ok sealed => (c.frame sealed).map Prod.snd

/-- The wire bytes of a packet on a stream. -/
def encodePacket (c : CodecConfig) (nonce : Nonce) (packet : Packet) : Except NetError Bytes :=
  c.encodePayload nonce packet.payload packet.encrypted

/-- The datagram of serialized bytes, which must fit into one regular frame once sealed. -/
def encodeDatagram (c : CodecConfig) (nonce : Nonce) (conveyance : UInt32) (payload : Bytes)
    (encrypt : Bool) : Except NetError Bytes :=
  match c.sealPayload nonce payload encrypt with
  | .error e => .error e
  | .ok sealed =>
    if effectiveLimit c.frameLimit < sealed.payload.length then
      .error (.oversizedPacket sealed.payload.length)
    else .ok (Datagram.toBytes ⟨conveyance, sealed⟩)

/-- The datagram of a message, encrypted whenever there is a key. -/
def encodeAsDatagram (c : CodecConfig) (nonce : Nonce) (conveyance : UInt32) (m : Message) :
    Except NetError Bytes :=
  c.encodeDatagram nonce conveyance (m.serialize c.format) true

/-! ## Receiving -/

/-- Undo encryption if the flags call for it. -/
def unprotect (c : CodecConfig) (message : WireMessage) : Except NetError Bytes :=
  if message.header.encrypted then
    match c.encryptor? with
    | none => .error .decryption
    | some encryptor => encryptor.decrypt message.payload
  else .ok message.payload

/-- Undo compression if the flags call for it; the result may not exceed the largest message. -/
def unpack (c : CodecConfig) (header : Header) (bytes : Bytes) : Except NetError Bytes :=
  if header.compressed then
    match c.compressor? with
    | none => .error .decompression
    | some compressor =>
      match compressor.decompress bytes with
      | .error e => .error e
      | .ok payload =>
        if c.maxMessageSize < payload.length then .error (.oversizedPacket payload.length)
        else .ok payload
  else .ok bytes

def openMessage (c : CodecConfig) (message : WireMessage) : Except NetError Message :=
  match c.unprotect message with
  | .error e => .error e
  | .ok bytes =>
    match c.unpack message.header bytes with
    | .error e => .error e
    | .ok payload => Message.deserialize c.format payload

def frameDecoder (c : CodecConfig) : FrameDecoder :=
  FrameDecoder.create c.frameLimit c.maxMessageSize

/-- The message in wire bytes that hold exactly one. -/
def decode (c : CodecConfig) (wire : Bytes) : Except NetError Message :=
  let step := c.frameDecoder.decode wire
  match step.outcome with
  | .error e => .error e
  | .ok none => .error (.framing .incompleteFrame)
  | .ok (some message) =>
    if step.rest.isEmpty then c.openMessage message
    else .error (.lengthMismatch (wire.length - step.rest.length) wire.length)

/-- The conveyance id of a datagram and the message in it. -/
def decodeDatagram (c : CodecConfig) (bytes : Bytes) : Except NetError (UInt32 × Message) :=
  match Datagram.ofBytes bytes with
  | .error e => .error e
  | .ok datagram => (c.openMessage datagram.message).map fun m => (datagram.conveyance, m)

/-! ## Description -/

def formatName : Format → String
  | .messagePack => "MessagePack"
  | .bincode => "Bincode"
  | .json => "Json"

def describe (c : CodecConfig) : String :=
  "CodecConfig \x7b format: " ++ formatName c.format
    ++ ", compression_threshold: " ++ Number.natText c.compressionThreshold
    ++ ", frame_limit: " ++ Number.natText c.frameLimit
    ++ ", max_message_size: " ++ Number.natText c.maxMessageSize
    ++ ", compressor: " ++ truth c.compressor?.isSome
    ++ ", encryptor: " ++ truth c.encryptor?.isSome ++ " \x7d"
where
  /-- A truth value as text. -/
  truth (b : Bool) : String := if b then "true" else "false"

end CodecConfig

end SessionNet
