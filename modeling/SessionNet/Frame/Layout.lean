import SessionNet.Bytes
import SessionNet.Frame.Header

/-!
# Frames

A wire message is a flag byte's worth of header and a payload. A payload within the frame limit is
one regular frame: flags, a two-byte length, the payload. A longer one is a sequence of big-sized
frames, each with flags, a four-byte length and a marker: a head that declares the total, then the
chunks, the last of them marked as such. All lengths are big-endian.
-/

namespace SessionNet

/-- A complete payload as it travels, after any compression and encryption. -/
structure WireMessage where
  header : Header
  payload : Bytes
  deriving DecidableEq, Repr

/-- Largest payload of a single regular frame, unless set otherwise. -/
def defaultFrameLimit : Nat := 16 * 1024

/-- The two-byte length field bounds every frame limit. -/
def maxFrameLimit : Nat := 65535

/-- Largest reassembled or decompressed message. -/
def maxMessageSize : Nat := 16 * 1024 * 1024

/-- A frame limit brought into the range of the two-byte length field. -/
def effectiveLimit (limit : Nat) : Nat := max 1 (min limit maxFrameLimit)

namespace Frame

/-- The marker of the frame that declares the total. -/
def headMarker : UInt8 := 0

/-- The marker of a chunk that others follow. -/
def continuationMarker : UInt8 := 1

/-- The marker of the last chunk. -/
def lastMarker : UInt8 := 2

/-- Length of a head frame's body: the marker and the declared total. -/
def headBodyLength : Nat := 5

def regular (header : Header) (payload : Bytes) : Bytes :=
  header.toByte :: (Bytes.bigEndian 2 payload.length ++ payload)

def bigSized (header : Header) (marker : UInt8) (data : Bytes) : Bytes :=
  header.toByte :: (Bytes.bigEndian 4 (data.length + 1) ++ marker :: data)

/-- The head frame of a sequence whose chunks add up to `total` bytes. -/
def head (header : Header) (total : Nat) : Bytes :=
  bigSized header headMarker (Bytes.bigEndian 4 total)

/-- Cut `bytes` into pieces of `size`, the last one possibly shorter, behind those already `cut`. -/
def chunksAfter (size : Nat) (cut : List Bytes) (bytes : Bytes) : List Bytes :=
  if _h : size = 0 ∨ bytes = [] then cut.reverse
  else chunksAfter size (bytes.take size :: cut) (bytes.drop size)
termination_by bytes.length
decreasing_by
  have : bytes.length ≠ 0 := fun hlen => _h (Or.inr (List.length_eq_zero_iff.1 hlen))
  simp only [List.length_drop]
  omega

/-- Cut `bytes` into pieces of `size`, the last one possibly shorter. -/
def chunks (size : Nat) (bytes : Bytes) : List Bytes := chunksAfter size [] bytes

/-- The chunk frames of a sequence: all but the last are continuations. -/
def chunkFrames (header : Header) (chunks : List Bytes) : Bytes :=
  chunks.dropLast.flatMap (bigSized header continuationMarker)
    ++ (chunks.getLast?.toList).flatMap (bigSized header lastMarker)

/-! ## Writing -/

/-- A big-sized frame as it is written, its length narrowed to four bytes. -/
def writeBigSized (header : Header) (marker : UInt8) (data : Bytes) : Bytes :=
  header.toByte :: (Bytes.bigEndian 4 (data.length + 1).toUInt32.toNat ++ marker :: data)

/-- The head frame as it is written, the total narrowed to four bytes. -/
def writeHead (header : Header) (total : Nat) : Bytes :=
  header.toByte :: (Bytes.bigEndian 4 headBodyLength.toUInt32.toNat
    ++ headMarker :: Bytes.bigEndian 4 total.toUInt32.toNat)

/-- The marker of the chunk at a position, if there are to be `count` of them. -/
def chunkMarker (count index : Nat) : UInt8 :=
  if index + 1 = count then lastMarker else continuationMarker

/-- Chunk frames as they are written, marked by their positions. -/
def writeChunks (header : Header) (count : Nat) (chunks : List Bytes) : Bytes :=
  chunks.zipIdx.flatMap fun (chunk, index) =>
    writeBigSized header (chunkMarker count index) chunk

end Frame

/--
Write the frames of a message behind what a destination holds; tells what the destination holds then
and the header of the first frame. A payload that exceeds both the limit and the largest message is
refused.
-/
def WireMessage.writeFrames (message : WireMessage) (limit : Nat) (destination : Bytes) :
    Bytes × Except NetError Header :=
  let limit := effectiveLimit limit
  let size := message.payload.length
  if size ≤ limit then
    let header := message.header.shaped false
    (destination ++ header.toByte :: (Bytes.bigEndian 2 size.toUInt16.toNat ++ message.payload),
      .ok header)
  else if maxMessageSize < size then (destination, .error (.oversizedPacket size))
  else
    let header := message.header.shaped true
    -- the chunks are counted before they are cut
    let count := (size + limit - 1) / limit
    (destination ++ (Frame.writeHead header size
      ++ Frame.writeChunks header count (Frame.chunks limit message.payload)), .ok header)

/-- The header of the first frame written for a message. -/
def WireMessage.writtenHeader (message : WireMessage) (limit : Nat) : Header :=
  message.header.shaped (effectiveLimit limit < message.payload.length)

/-- Frames written behind what a destination already holds. -/
def WireMessage.appendFrames (message : WireMessage) (limit : Nat) (destination : Bytes) :
    Except NetError (Header × Bytes) :=
  match message.writeFrames limit destination with
  | (written, .ok header) => .ok (header, written)
  | (_, .error e) => .error e

/-- The frames of a message. -/
def WireMessage.frames (message : WireMessage) (limit : Nat) : Except NetError Bytes :=
  (message.appendFrames limit []).map Prod.snd

end SessionNet
