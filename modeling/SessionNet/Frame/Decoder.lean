import SessionNet.Frame.Layout

/-!
# Reading frames from a stream

A decoder takes wire messages off the front of a buffer that grows as bytes arrive. Its only state
besides the limits is the big-sized sequence in progress. A frame is taken off the buffer when all
of it is there; a bad flag byte or an excessive length is reported with the buffer untouched, a
frame that does not fit the sequence in progress is reported after it was taken off.
-/

namespace SessionNet

/-- A big-sized sequence in progress; the pieces received so far, newest first. -/
structure Assembly where
  header : Header
  declared : Nat
  pieces : List Bytes
  deriving DecidableEq, Repr

namespace Assembly

/-- Bytes received so far. -/
def size (a : Assembly) : Nat := (a.pieces.map List.length).foldr (· + ·) 0

/-- What has been received, in order. -/
def received (a : Assembly) : Bytes := a.pieces.reverse.flatten

/-- The assembly with one more piece. -/
def push (a : Assembly) (piece : Bytes) : Assembly := { a with pieces := piece :: a.pieces }

end Assembly

/-- The state of one connection's decoder. -/
structure FrameDecoder where
  frameLimit : Nat
  maxMessage : Nat
  assembly : Option Assembly
  deriving DecidableEq, Repr

namespace FrameDecoder

/-- A decoder between messages, with the frame limit brought into range. -/
def create (frameLimit maxMessage : Nat) : FrameDecoder :=
  ⟨effectiveLimit frameLimit, maxMessage, none⟩

/-- A decoder with the default limits. -/
def default : FrameDecoder := create defaultFrameLimit maxMessageSize

/-- Whether a big-sized sequence is in progress. -/
def isAssembling (d : FrameDecoder) : Bool := d.assembly.isSome

/-- The longest body accepted behind a header. -/
def maxBody (d : FrameDecoder) (header : Header) : Nat :=
  if header.bigSized then max (d.frameLimit + 1) Frame.headBodyLength else d.frameLimit

/-- A frame taken off a buffer. -/
structure Taken where
  header : Header
  body : Bytes
  rest : Bytes
  deriving DecidableEq, Repr

/-- The first frame of a buffer; nothing while it is incomplete. -/
def takeFrame (d : FrameDecoder) (buffer : Bytes) : Except NetError (Option Taken) :=
  match buffer with
  | [] => .ok none
  | flags :: rest =>
    match Header.ofByte flags with
    | .error e => .error e
    | .ok header =>
      match Bytes.readBig? header.lengthWidth rest with
      | none => .ok none
      | some (length, rest) =>
        if d.maxBody header < length then .error (.oversizedPacket length)
        else
          match Bytes.takeExactly? length rest with
          | none => .ok none
          | some (body, rest) => .ok (some ⟨header, body, rest⟩)

/-- The decoder after a step, with a message, nothing yet, or the fault of the frame. -/
abbrev Step := FrameDecoder × Except NetError (Option WireMessage)

def pushHead (d : FrameDecoder) (header : Header) (data : Bytes) : Step :=
  if d.isAssembling then ({ d with assembly := none }, .error (.framing .nestedHead))
  else if data.length ≠ 4 then (d, .error (.lengthMismatch 4 data.length))
  else
    let declared := Bytes.toNatBig data
    if d.maxMessage < declared then (d, .error (.oversizedPacket declared))
    else ({ d with assembly := some ⟨header, declared, []⟩ }, .ok none)

/-- Add a chunk to the sequence in progress, and end it when the chunk is the last. -/
def pushChunk (d : FrameDecoder) (isLast : Bool) (data : Bytes) : Step :=
  match d.assembly with
  | none => (d, .error (.framing .unexpectedContinuation))
  | some assembly =>
    if assembly.declared < assembly.size + data.length then
      ({ d with assembly := none }, .error (.framing .assemblyOverflow))
    else
      let assembly := assembly.push data
      if !isLast then ({ d with assembly := some assembly }, .ok none)
      else
        let d := { d with assembly := none }
        if assembly.size ≠ assembly.declared then
          (d, .error (.lengthMismatch assembly.declared assembly.size))
        else (d, .ok (some ⟨assembly.header, assembly.received⟩))

/-- Take in the body of a big-sized frame. -/
def pushBigSized (d : FrameDecoder) (header : Header) : (body : Bytes) → Step
  | [] => (d, .error (.framing .missingMarker))
  | marker :: data =>
    if marker = Frame.headMarker then d.pushHead header data
    else if marker = Frame.continuationMarker then d.pushChunk false data
    else if marker = Frame.lastMarker then d.pushChunk true data
    else (d, .error (.framing (.unknownMarker marker)))

def pushFrame (d : FrameDecoder) (header : Header) (body : Bytes) : Step :=
  if header.bigSized then d.pushBigSized header body
  else if d.isAssembling then ({ d with assembly := none }, .error (.framing .interleavedFrame))
  else (d, .ok (some ⟨header, body⟩))

/-- What a frame taken off leaves is shorter than the buffer. -/
theorem takeFrame_rest_lt {d : FrameDecoder} {buffer : Bytes} {taken : Taken}
    (h : d.takeFrame buffer = .ok (some taken)) : taken.rest.length < buffer.length := by
  unfold takeFrame at h
  split at h
  · cases h
  · rename_i flags rest
    split at h
    · cases h
    · rename_i header _
      split at h
      · cases h
      · rename_i length rest' hread
        split at h
        · cases h
        · split at h
          · cases h
          · rename_i body rest'' htake
            simp only [Except.ok.injEq, Option.some.injEq] at h
            subst h
            simp only [Bytes.readBig?, Option.map_eq_some_iff, Prod.exists, Prod.mk.injEq] at hread
            obtain ⟨field, after, hfield, -, rfl⟩ := hread
            have h1 := (Bytes.takeExactly?_eq_some_iff.1 hfield).1
            have h2 := (Bytes.takeExactly?_eq_some_iff.1 htake).1
            subst h2
            subst h1
            simp only [List.length_cons, List.length_append]
            omega

/-- The decoder and buffer after a step, with a message, nothing yet, or a fault. -/
structure Decoded where
  decoder : FrameDecoder
  rest : Bytes
  outcome : Except NetError (Option WireMessage)

/-- Take the next message off the buffer. -/
def decode (d : FrameDecoder) (buffer : Bytes) : Decoded :=
  match _h : d.takeFrame buffer with
  | .error e => ⟨d, buffer, .error e⟩
  | .ok none => ⟨d, buffer, .ok none⟩
  | .ok (some taken) =>
    match d.pushFrame taken.header taken.body with
    | (d, .ok none) => decode d taken.rest
    | (d, outcome) => ⟨d, taken.rest, outcome⟩
termination_by buffer.length
decreasing_by exact takeFrame_rest_lt _h

/-- A step that yields a message leaves a shorter buffer. -/
theorem decode_rest_lt {d : FrameDecoder} {buffer : Bytes} {message : WireMessage}
    (h : (d.decode buffer).outcome = .ok (some message)) :
    (d.decode buffer).rest.length < buffer.length := by
  fun_induction decode d buffer with
  | case1 => cases h
  | case2 => cases h
  | case3 d buffer taken htake d' _ ih => exact Nat.lt_trans (ih h) (takeFrame_rest_lt htake)
  | case4 d buffer taken htake => exact takeFrame_rest_lt htake

/-- The messages taken off a buffer, what is left, and the fault that ended the reading. -/
structure Drained where
  decoder : FrameDecoder
  rest : Bytes
  messages : List WireMessage
  fault : Option NetError

/-- Take messages off the buffer until none is complete or a frame is at fault. -/
def drain (d : FrameDecoder) (buffer : Bytes) : Drained :=
  match _h : d.decode buffer with
  | ⟨d, rest, .error e⟩ => ⟨d, rest, [], some e⟩
  | ⟨d, rest, .ok none⟩ => ⟨d, rest, [], none⟩
  | ⟨d', rest, .ok (some message)⟩ =>
    let more := drain d' rest
    { more with messages := message :: more.messages }
termination_by buffer.length
decreasing_by
  have hlt : (d.decode buffer).rest.length < buffer.length :=
    decode_rest_lt (by rw [_h])
  rw [_h] at hlt
  exact hlt

/-- Append `pieces` to the buffer one after the other, draining after each, up to the first fault.
-/
def feed (d : FrameDecoder) (buffer : Bytes) : (pieces : List Bytes) → Drained
  | [] => ⟨d, buffer, [], none⟩
  | piece :: pieces =>
    let first := d.drain (buffer ++ piece)
    match first.fault with
    | some _ => first
    | none =>
      let more := feed first.decoder first.rest pieces
      { more with messages := first.messages ++ more.messages }

end FrameDecoder

end SessionNet
