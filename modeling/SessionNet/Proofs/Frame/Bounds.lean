import Mathlib.Logic.Relation
import SessionNet.Proofs.Frame.Grammar

/-!
# Bounds on hostile streams

Whatever arrives, and however often a decoder is asked for a message, also after faults: it gathers
no more than was declared and admitted, it yields no message beyond its limits, it leaves little in
the buffer while it waits, and its loop comes to an end because each round takes bytes off the
buffer.

The loop is given here a second time in the operations of a machine (`Receiver.round?`), which have
no result where an index, a cut or a sum is out of range. They always have one, and the rounds come
to the same as `FrameDecoder.decode` (`Receiver.rounds_eq`).
-/

namespace SessionNet

/-! ## Operations of a machine -/

namespace Machine

/-- Lengths are words of 64 bits. -/
def lengthBound : Nat := 18446744073709551616

/-- A sum of lengths. -/
def add? (a b : Nat) : Option Nat := if a + b < lengthBound then some (a + b) else none

/-- A difference of lengths. -/
def sub? (a b : Nat) : Option Nat := if b ≤ a then some (a - b) else none

/-- Drop bytes that have to be there. -/
def advance? (n : Nat) (bs : Bytes) : Option Bytes :=
  if n ≤ bs.length then some (bs.drop n) else none

/-- Cut off bytes that have to be there. -/
def split? (n : Nat) (bs : Bytes) : Option (Bytes × Bytes) :=
  if n ≤ bs.length then some (bs.take n, bs.drop n) else none

/-- The bytes from an index on, each of them read by its own index. -/
def bytesAt? (bs : Bytes) (start : Nat) : (width : Nat) → Option Bytes
  | 0 => some []
  | width + 1 => do
    let b ← bs[start]?
    let more ← bytesAt? bs (start + 1) width
    some (b :: more)

theorem add?_eq_some {a b : Nat} (h : a + b < lengthBound) : add? a b = some (a + b) := if_pos h

theorem sub?_eq_some {a b : Nat} (h : b ≤ a) : sub? a b = some (a - b) := if_pos h

theorem advance?_append (front back : Bytes) :
    advance? front.length (front ++ back) = some back := by
  simp [advance?]

theorem bytesAt?_append (front field back : Bytes) :
    bytesAt? (front ++ (field ++ back)) front.length field.length = some field := by
  induction field generalizing front with
  | nil => rfl
  | cons b field ih =>
    have more := ih (front ++ [b])
    simp only [List.append_assoc, List.singleton_append, List.length_append,
      List.length_singleton] at more
    simp [bytesAt?, more]

end Machine

open Machine

/-! ## The loop of a decoder in these operations -/

namespace FrameDecoder

/-- The longest body accepted behind a header. -/
def maxBody? (d : FrameDecoder) (header : Header) : Option Nat :=
  if header.bigSized then (add? d.frameLimit 1).map (max · Frame.headBodyLength)
  else some d.frameLimit

/-- Take off a body of a known length, with the header in front of it. -/
def takeBody? (d : FrameDecoder) (header : Header) (start length : Nat) (buffer : Bytes) :
    Option (Except NetError (Option Taken)) := do
  let longest ← d.maxBody? header
  if longest < length then some (.error (.oversizedPacket length))
  else do
    let whole ← add? start length
    if buffer.length < whole then do
      -- room is made for the bytes that are missing
      let _missing ← sub? whole buffer.length
      some (.ok none)
    else do
      let behind ← advance? start buffer
      let (body, rest) ← split? length behind
      some (.ok (some ⟨header, body, rest⟩))

/-- Take the first frame off a buffer. -/
def takeFrame? (d : FrameDecoder) (buffer : Bytes) : Option (Except NetError (Option Taken)) :=
  if buffer.isEmpty then some (.ok none)
  else do
    let flags ← buffer[0]?
    match Header.ofByte flags with
    | .error e => some (.error e)
    | .ok header =>
      let start ← add? 1 header.lengthWidth
      if buffer.length < start then some (.ok none)
      else do
        let field ← bytesAt? buffer 1 header.lengthWidth
        d.takeBody? header start (Bytes.toNatBig field) buffer

def pushHead? (d : FrameDecoder) (header : Header) (data : Bytes) : Option Step :=
  if d.isAssembling then some ({ d with assembly := none }, .error (.framing .nestedHead))
  else if data.length ≠ 4 then some (d, .error (.lengthMismatch 4 data.length))
  else do
    let total ← bytesAt? data 0 4
    let declared := Bytes.toNatBig total
    if d.maxMessage < declared then some (d, .error (.oversizedPacket declared))
    else some ({ d with assembly := some ⟨header, declared, []⟩ }, .ok none)

def pushChunk? (d : FrameDecoder) (isLast : Bool) (data : Bytes) : Option Step :=
  match d.assembly with
  | none => some (d, .error (.framing .unexpectedContinuation))
  | some assembly => do
    let size ← add? assembly.received.length data.length
    if assembly.declared < size then
      some ({ d with assembly := none }, .error (.framing .assemblyOverflow))
    else
      let assembly := assembly.push data
      if !isLast then some ({ d with assembly := some assembly }, .ok none)
      else
        let d := { d with assembly := none }
        if assembly.received.length ≠ assembly.declared then
          some (d, .error (.lengthMismatch assembly.declared assembly.received.length))
        else some (d, .ok (some ⟨assembly.header, assembly.received⟩))

/-- Take in a frame. -/
def pushFrame? (d : FrameDecoder) (header : Header) (body : Bytes) : Option Step :=
  if header.bigSized then
    match body with
    | [] => some (d, .error (.framing .missingMarker))
    | marker :: data =>
      if marker = Frame.headMarker then d.pushHead? header data
      else if marker = Frame.continuationMarker then d.pushChunk? false data
      else if marker = Frame.lastMarker then d.pushChunk? true data
      else some (d, .error (.framing (.unknownMarker marker)))
  else if d.isAssembling then
    some ({ d with assembly := none }, .error (.framing .interleavedFrame))
  else some (d, .ok (some ⟨header, body⟩))

end FrameDecoder

/-- A decoder with the bytes that wait for it. -/
structure Receiver where
  decoder : FrameDecoder
  buffer : Bytes

namespace Receiver

/-- How a round of the loop ends. -/
inductive Round where
  | returned (step : FrameDecoder.Decoded)
  | continued (next : Receiver)

/-- A round of the loop; nothing is the result where an operation is out of range. -/
def round? (r : Receiver) : Option Round := do
  match ← r.decoder.takeFrame? r.buffer with
  | .error e => some (.returned ⟨r.decoder, r.buffer, .error e⟩)
  | .ok none => some (.returned ⟨r.decoder, r.buffer, .ok none⟩)
  | .ok (some taken) =>
    match ← r.decoder.pushFrame? taken.header taken.body with
    | (d, .ok none) => some (.continued ⟨d, taken.rest⟩)
    | (d, outcome) => some (.returned ⟨d, taken.rest, outcome⟩)

/-- What comes of the loop within a number of rounds. -/
inductive Ending where
  | outOfRange
  | unfinished
  | returned (step : FrameDecoder.Decoded)

def rounds (r : Receiver) : Nat → Ending
  | 0 => .unfinished
  | n + 1 =>
    match r.round? with
    | none => .outOfRange
    | some (.returned step) => .returned step
    | some (.continued next) => next.rounds n

/-- A round from which the loop goes on. -/
def Continues (r next : Receiver) : Prop := r.round? = some (.continued next)

end Receiver

/-! ## Lengths of frames -/

theorem Header.lengthWidth_le (h : Header) : h.lengthWidth ≤ 4 := by
  rw [lengthWidth]
  split <;> decide

theorem Assembly.length_received (a : Assembly) : a.received.length = a.size := by
  obtain ⟨header, declared, pieces⟩ := a
  induction pieces with
  | nil => rfl
  | cons piece pieces ih =>
    have grown := (Assembly.size_push ⟨header, declared, pieces⟩ piece).symm
    have gathered := congrArg List.length
      (Assembly.received_push ⟨header, declared, pieces⟩ piece)
    rw [List.length_append, ih] at gathered
    exact gathered.trans grown

namespace FrameDecoder

variable {d d' : FrameDecoder} {h : Header} {buffer body : Bytes} {taken : Taken}
variable {outcome : Except NetError (Option WireMessage)}

theorem maxBody_le (hrange : d.frameLimit ≤ maxFrameLimit) (header : Header) :
    d.maxBody header ≤ max (d.frameLimit + 1) Frame.headBodyLength ∧
      d.maxBody header ≤ maxFrameLimit + 1 := by
  have hhead : Frame.headBodyLength ≤ maxFrameLimit := by decide
  rw [maxBody]
  split <;> omega

/-- An incomplete frame takes up no more than a header and the longest body. -/
theorem length_lt_of_takeFrame_eq_none (hrange : d.frameLimit ≤ maxFrameLimit)
    (htake : d.takeFrame buffer = .ok none) :
    buffer.length < 5 + max (d.frameLimit + 1) Frame.headBodyLength := by
  unfold takeFrame at htake
  split at htake
  · exact Nat.zero_lt_of_lt (Nat.lt_add_of_pos_right (by omega))
  · rename_i flags rest
    split at htake
    · cases htake
    · rename_i header _
      have width := header.lengthWidth_le
      have longest := (maxBody_le hrange header).1
      split at htake
      · -- the length has not arrived
        rename_i unread
        have short := Bytes.takeExactly?_eq_none_iff.1 (Option.map_eq_none_iff.1 unread)
        rw [List.length_cons]
        omega
      · rename_i length rest' read
        obtain ⟨rfl, -⟩ := Bytes.readBig?_eq_some_iff.1 read
        split at htake
        · cases htake
        · split at htake
          · rename_i admitted missing
            have short := Bytes.takeExactly?_eq_none_iff.1 missing
            rw [List.length_cons, List.length_append, Bytes.length_bigEndian]
            omega
          · cases htake

/-! ## What a frame does to the decoder -/

/-- A frame at fault leaves the decoder as it is, or without an assembly. -/
theorem pushFrame_of_error {e : NetError} (hpush : d.pushFrame h body = (d', .error e)) :
    d' = d ∨ d' = { d with assembly := none } := by
  unfold pushFrame pushBigSized pushHead pushChunk isAssembling at hpush
  cases hbig : h.bigSized with
  | false => grind
  | true =>
    cases body with
    | nil => grind
    | cons marker data => cases hopen : d.assembly <;> grind

/-- The decoder's limits are in range, and the assembly is within what was declared and admitted. -/
structure Bounded (d : FrameDecoder) : Prop where
  range : d.frameLimit ≤ maxFrameLimit
  received : ∀ a ∈ d.assembly, a.size ≤ a.declared
  admitted : ∀ a ∈ d.assembly, a.declared ≤ d.maxMessage
  field : ∀ a ∈ d.assembly, a.declared < Nat.pow 256 4

/-- The same limits. -/
def SameLimits (d d' : FrameDecoder) : Prop :=
  d'.frameLimit = d.frameLimit ∧ d'.maxMessage = d.maxMessage

theorem SameLimits.refl (d : FrameDecoder) : d.SameLimits d := ⟨rfl, rfl⟩

theorem SameLimits.trans {d'' : FrameDecoder} (first : d.SameLimits d') (second : d'.SameLimits d'') :
    d.SameLimits d'' :=
  ⟨second.1.trans first.1, second.2.trans first.2⟩

theorem Bounded.reset (bounded : d.Bounded) : Bounded { d with assembly := none } where
  range := bounded.range
  received := nofun
  admitted := nofun
  field := nofun

theorem Bounded.push (bounded : d.Bounded) (hpush : d.pushFrame h body = (d', outcome)) :
    d'.Bounded ∧ d.SameLimits d' := by
  rcases outcome with e | _ | message
  · obtain rfl | rfl := pushFrame_of_error hpush
    · exact ⟨bounded, rfl, rfl⟩
    · exact ⟨bounded.reset, rfl, rfl⟩
  · obtain ⟨-, ⟨total, -, width, -, admitted, rfl⟩ | ⟨a, data, -, opened, room, rfl⟩⟩ :=
      pushFrame_eq_none_iff.1 hpush
    · -- a head opens an assembly that holds nothing yet
      have field := Bytes.toNatBig_lt total
      rw [width] at field
      refine ⟨⟨bounded.range, ?_, ?_, ?_⟩, rfl, rfl⟩
      · rintro _ ⟨⟩
        exact Nat.zero_le _
      · rintro _ ⟨⟩
        exact admitted
      · rintro _ ⟨⟩
        exact field
    · refine ⟨⟨bounded.range, ?_, ?_, ?_⟩, rfl, rfl⟩
      · rintro _ ⟨⟩
        rw [Assembly.size_push]
        exact room
      · rintro _ ⟨⟩
        exact bounded.admitted a opened
      · rintro _ ⟨⟩
        exact bounded.field a opened
  · obtain ⟨-, -, rfl, -⟩ | ⟨-, a, data, -, -, -, rfl, -⟩ := pushFrame_eq_some_iff.1 hpush
    · exact ⟨bounded, rfl, rfl⟩
    · exact ⟨bounded.reset, rfl, rfl⟩

/-! ## Nothing is out of range -/

theorem maxBody?_eq (hrange : d.frameLimit ≤ maxFrameLimit) (header : Header) :
    d.maxBody? header = some (d.maxBody header) := by
  have room : d.frameLimit + 1 < lengthBound :=
    Nat.lt_of_le_of_lt (Nat.succ_le_succ hrange) (by decide)
  rw [maxBody?, maxBody, add?_eq_some room]
  split <;> rfl

theorem takeBody?_eq (hrange : d.frameLimit ≤ maxFrameLimit) (header : Header) (front : Bytes)
    (hfront : front.length ≤ 5) (length : Nat) (behind : Bytes) :
    d.takeBody? header front.length length (front ++ behind) =
      some (if d.maxBody header < length then .error (.oversizedPacket length)
        else .ok ((Bytes.takeExactly? length behind).map fun cut => ⟨header, cut.1, cut.2⟩)) := by
  rw [takeBody?, maxBody?_eq hrange, Option.bind_eq_bind, Option.bind_some]
  by_cases long : d.maxBody header < length
  · simp only [long, if_true]
  · -- what is admitted is a short frame, so its length is no large sum
    have small := (maxBody_le hrange header).2
    have bound : 5 + (maxFrameLimit + 1) < lengthBound := by decide
    have whole := add?_eq_some (show front.length + length < lengthBound by omega)
    simp only [long, if_false, whole, Option.bind_eq_bind, Option.bind_some]
    by_cases missing : behind.length < length
    · have incomplete : (front ++ behind).length < front.length + length := by
        rw [List.length_append]
        omega
      simp only [incomplete, if_true, sub?_eq_some (Nat.le_of_lt incomplete), Option.bind_some,
        Bytes.takeExactly?_eq_none_iff.2 missing, Option.map_none]
    · have complete : ¬ (front ++ behind).length < front.length + length := by
        rw [List.length_append]
        omega
      have cut : split? length behind = some (behind.take length, behind.drop length) :=
        if_pos (Nat.le_of_not_lt missing)
      have taken : Bytes.takeExactly? length behind =
          some (behind.take length, behind.drop length) :=
        Bytes.takeExactly?_eq_some_iff.2
          ⟨(List.take_append_drop length behind).symm,
            List.length_take_of_le (Nat.le_of_not_lt missing)⟩
      simp only [complete, if_false, advance?_append, cut, taken, Option.bind_some, Option.map_some]

theorem takeFrame?_eq (hrange : d.frameLimit ≤ maxFrameLimit) (buffer : Bytes) :
    d.takeFrame? buffer = some (d.takeFrame buffer) := by
  cases buffer with
  | nil => rfl
  | cons flags arrived =>
    cases hheader : Header.ofByte flags with
    | error e => simp [takeFrame?, takeFrame, hheader]
    | ok header =>
      have width := header.lengthWidth_le
      have start : add? 1 header.lengthWidth = some (1 + header.lengthWidth) :=
        add?_eq_some (Nat.lt_of_le_of_lt (Nat.add_le_add_left width 1) (by decide))
      simp only [takeFrame?, takeFrame, hheader, start, List.isEmpty_cons, Bool.false_eq_true,
        if_false, List.getElem?_cons_zero, Option.bind_eq_bind, Option.bind_some]
      by_cases short : arrived.length < header.lengthWidth
      · -- the length has not arrived, and none of its bytes is read
        have waiting : (flags :: arrived).length < 1 + header.lengthWidth := by
          rw [List.length_cons]
          omega
        have unread : Bytes.readBig? header.lengthWidth arrived = none :=
          Option.map_eq_none_iff.2 (Bytes.takeExactly?_eq_none_iff.2 short)
        simp only [waiting, if_true, unread]
      · have present : ¬ (flags :: arrived).length < 1 + header.lengthWidth := by
          rw [List.length_cons]
          omega
        obtain ⟨field, behind, rfl, hfield⟩ :
            ∃ field behind, arrived = field ++ behind ∧ field.length = header.lengthWidth :=
          ⟨arrived.take header.lengthWidth, arrived.drop header.lengthWidth,
            (List.take_append_drop _ _).symm, List.length_take_of_le (Nat.le_of_not_lt short)⟩
        have indexed : bytesAt? (flags :: (field ++ behind)) 1 header.lengthWidth = some field := by
          rw [← hfield]
          exact bytesAt?_append [flags] field behind
        have read : Bytes.readBig? header.lengthWidth (field ++ behind) =
            some (Bytes.toNatBig field, behind) := by
          rw [Bytes.readBig?, Bytes.takeExactly?_append hfield]
          rfl
        have front : (flags :: field).length = 1 + header.lengthWidth := by
          rw [List.length_cons, hfield, Nat.add_comm]
        have body := takeBody?_eq hrange header (flags :: field) (by omega)
          (Bytes.toNatBig field) behind
        rw [front, List.cons_append] at body
        simp only [present, if_false, indexed, Option.bind_some, read, body]
        rcases Bytes.takeExactly? (Bytes.toNatBig field) behind with _ | ⟨body, rest⟩ <;> rfl

theorem pushHead?_eq (header : Header) (data : Bytes) :
    d.pushHead? header data = some (d.pushHead header data) := by
  unfold pushHead? pushHead
  split
  · rfl
  · split
    · rfl
    · rename_i four
      have whole : data.length = 4 := Decidable.not_not.mp four
      have indexed : bytesAt? data 0 4 = some data := by
        have all := bytesAt?_append [] data []
        rwa [List.append_nil, List.nil_append, List.length_nil, whole] at all
      rw [indexed]
      dsimp only [Option.bind_eq_bind, Option.bind_some]
      split <;> rfl

/-- What has been received and one chunk more are no large sum. -/
theorem Bounded.add?_size (bounded : d.Bounded) {a : Assembly} (opened : d.assembly = some a)
    {data : Bytes} (hdata : data.length ≤ maxFrameLimit + 1) :
    add? a.size data.length = some (a.size + data.length) := by
  apply add?_eq_some
  have received := bounded.received a opened
  have field := bounded.field a opened
  have bound : Nat.pow 256 4 + (maxFrameLimit + 1) < lengthBound := by decide
  omega

theorem pushChunk?_eq (bounded : d.Bounded) (isLast : Bool) {data : Bytes}
    (hdata : data.length ≤ maxFrameLimit + 1) :
    d.pushChunk? isLast data = some (d.pushChunk isLast data) := by
  cases opened : d.assembly with
  | none => simp only [pushChunk?, pushChunk, opened]
  | some a =>
    simp only [pushChunk?, pushChunk, opened, bounded.add?_size opened hdata,
      Assembly.length_received, Option.bind_eq_bind, Option.bind_some]
    repeat' split
    all_goals rfl

theorem pushFrame?_eq (bounded : d.Bounded) (header : Header)
    (hbody : body.length ≤ maxFrameLimit + 1) :
    d.pushFrame? header body = some (d.pushFrame header body) := by
  unfold pushFrame? pushFrame
  split
  · cases body with
    | nil => rfl
    | cons marker data =>
      have hdata : data.length ≤ maxFrameLimit + 1 :=
        Nat.le_trans (Nat.le_succ _) hbody
      simp only [pushBigSized, pushHead?_eq, pushChunk?_eq bounded _ hdata]
      repeat' split
      all_goals rfl
  · split <;> rfl

/-! ## One message -/

/-- What a step leaves of the buffer is its end. -/
theorem exists_eq_append_rest (d : FrameDecoder) (buffer : Bytes) :
    ∃ removed, buffer = removed ++ (d.decode buffer).rest := by
  fun_induction decode d buffer with
  | case1 => exact ⟨[], rfl⟩
  | case2 => exact ⟨[], rfl⟩
  | case3 d buffer taken htake d' _ ih =>
    obtain ⟨removed, hrest⟩ := ih
    refine ⟨Frame.toBytes taken.header taken.body ++ removed, ?_⟩
    rw [List.append_assoc, ← hrest]
    exact (takeFrame_eq_some_iff.1 htake).1
  | case4 d buffer taken htake => exact ⟨_, (takeFrame_eq_some_iff.1 htake).1⟩

/-- A step keeps the bounds and the limits. -/
theorem Bounded.decode (bounded : d.Bounded) (buffer : Bytes) :
    (d.decode buffer).decoder.Bounded ∧ d.SameLimits (d.decode buffer).decoder := by
  fun_induction FrameDecoder.decode d buffer with
  | case1 d buffer => exact ⟨bounded, .refl d⟩
  | case2 d buffer => exact ⟨bounded, .refl d⟩
  | case3 d buffer taken _ d' hpush ih =>
    obtain ⟨bounded', same⟩ := bounded.push hpush
    obtain ⟨bounded'', same'⟩ := ih bounded'
    exact ⟨bounded'', same.trans same'⟩
  | case4 d buffer taken _ d' outcome _ hpush => exact bounded.push hpush

theorem Bounded.length_payload (bounded : d.Bounded) {message : WireMessage}
    (yielded : (d.decode buffer).outcome = .ok (some message)) :
    message.payload.length ≤ max d.frameLimit d.maxMessage := by
  fun_induction FrameDecoder.decode d buffer with
  | case1 => cases yielded
  | case2 => cases yielded
  | case3 d buffer taken _ d' hpush ih =>
    obtain ⟨bounded', hlimit, hmax⟩ := bounded.push hpush
    rw [← hlimit, ← hmax]
    exact ih bounded' yielded
  | case4 d buffer taken htake d' outcome _ hpush =>
    cases yielded
    obtain ⟨small, -, -, rfl⟩ | ⟨-, a, data, -, opened, full, -, rfl⟩ :=
      pushFrame_eq_some_iff.1 hpush
    · have longest := (takeFrame_eq_some_iff.1 htake).2.2
      rw [maxBody, if_neg (by simp [small])] at longest
      exact Nat.le_trans longest (Nat.le_max_left _ _)
    · -- the whole of an assembly is as long as its head declared
      have declared := bounded.admitted a opened
      rw [List.length_append, a.length_received, full]
      exact Nat.le_trans declared (Nat.le_max_right _ _)

theorem Bounded.length_rest (bounded : d.Bounded) (nothing : (d.decode buffer).outcome = .ok none) :
    (d.decode buffer).rest.length < 5 + max (d.frameLimit + 1) Frame.headBodyLength := by
  fun_induction FrameDecoder.decode d buffer with
  | case1 => cases nothing
  | case2 d buffer htake => exact length_lt_of_takeFrame_eq_none bounded.range htake
  | case3 d buffer taken _ d' hpush ih =>
    obtain ⟨bounded', hlimit, -⟩ := bounded.push hpush
    rw [← hlimit]
    exact ih bounded' nothing
  | case4 d buffer taken _ d' outcome hanswer => exact absurd nothing hanswer

end FrameDecoder

/-! ## Rounds -/

namespace Receiver

variable {r next : Receiver}

/-- A round returns what decoding comes to, or leaves that to the rounds that follow; in the latter
case it has taken off a header of five bytes at least. -/
theorem round_cases (bounded : r.decoder.Bounded) :
    r.round? = some (.returned (r.decoder.decode r.buffer)) ∨
      ∃ next, r.Continues next ∧ next.decoder.Bounded ∧ r.decoder.SameLimits next.decoder ∧
        (∃ removed, r.buffer = removed ++ next.buffer ∧ 5 ≤ removed.length) ∧
        r.decoder.decode r.buffer = next.decoder.decode next.buffer := by
  have take := FrameDecoder.takeFrame?_eq bounded.range r.buffer
  rcases htake : r.decoder.takeFrame r.buffer with e | _ | taken
  · left
    simp [round?, take, htake, FrameDecoder.decode_of_error htake]
  · left
    simp [round?, take, htake, FrameDecoder.decode_of_none htake]
  · obtain ⟨hbuffer, -, longest⟩ := FrameDecoder.takeFrame_eq_some_iff.1 htake
    have push := FrameDecoder.pushFrame?_eq bounded taken.header
      (Nat.le_trans longest (FrameDecoder.maxBody_le bounded.range taken.header).2)
    rcases hpush : r.decoder.pushFrame taken.header taken.body with ⟨d, e | _ | message⟩
    · left
      simp [round?, take, htake, push, hpush,
        FrameDecoder.decode_of_answered htake hpush (by simp)]
    · right
      obtain ⟨bounded', same⟩ := bounded.push hpush
      have big := (FrameDecoder.pushFrame_eq_none_iff.1 hpush).1
      refine ⟨⟨d, taken.rest⟩, ?_, bounded', same, ⟨_, hbuffer, ?_⟩,
        FrameDecoder.decode_of_absorbed htake hpush⟩
      · simp [Continues, round?, take, htake, push, hpush]
      · simp [Frame.toBytes, Header.lengthWidth, big]
    · left
      simp [round?, take, htake, push, hpush,
        FrameDecoder.decode_of_answered htake hpush (by simp)]

theorem Continues.removes (bounded : r.decoder.Bounded) (continues : r.Continues next) :
    next.decoder.Bounded ∧ r.decoder.SameLimits next.decoder ∧
      ∃ removed, r.buffer = removed ++ next.buffer ∧ 5 ≤ removed.length := by
  obtain returned | ⟨next', continues', bounded', same, removed, -⟩ := round_cases bounded
  · cases continues.symm.trans returned
  · cases continues.symm.trans continues'
    exact ⟨bounded', same, removed⟩

/-- The loop returns what decoding comes to, within a round for every five bytes and one more. -/
theorem rounds_eq (bounded : r.decoder.Bounded) {n : Nat} (enough : r.buffer.length < 5 * n) :
    r.rounds n = .returned (r.decoder.decode r.buffer) := by
  induction n generalizing r with
  | zero => exact absurd enough (Nat.not_lt_zero _)
  | succ n ih =>
    obtain returned | ⟨next, continues, bounded', -, ⟨removed, hbuffer, five⟩, same⟩ :=
      round_cases bounded
    · rw [rounds, returned]
    · have shorter : next.buffer.length < 5 * n := by
        rw [hbuffer, List.length_append] at enough
        omega
      rw [rounds, show r.round? = _ from continues, same]
      exact ih bounded' shorter

/-! ## Whatever is fed -/

/-- What happens to a receiver: bytes arrive, or it is asked for a message. -/
inductive Feed where
  | arrive (bytes : Bytes)
  | decode

def start (limit maxMessage : Nat) : Receiver := ⟨FrameDecoder.create limit maxMessage, []⟩

def feed (r : Receiver) : Feed → Receiver
  | .arrive bytes => { r with buffer := r.buffer ++ bytes }
  | .decode =>
    let step := r.decoder.decode r.buffer
    ⟨step.decoder, step.rest⟩

/-- Go on with everything that is fed, also after a fault. -/
def run (r : Receiver) (feeds : List Feed) : Receiver := feeds.foldl feed r

theorem bounded_feed (bounded : r.decoder.Bounded) (fed : Feed) :
    (r.feed fed).decoder.Bounded ∧ r.decoder.SameLimits (r.feed fed).decoder := by
  cases fed with
  | arrive bytes => exact ⟨bounded, .refl r.decoder⟩
  | decode => exact bounded.decode r.buffer

theorem bounded_run (bounded : r.decoder.Bounded) (feeds : List Feed) :
    (r.run feeds).decoder.Bounded ∧ r.decoder.SameLimits (r.run feeds).decoder := by
  induction feeds generalizing r with
  | nil => exact ⟨bounded, .refl r.decoder⟩
  | cons fed feeds ih =>
    obtain ⟨bounded', same⟩ := bounded_feed bounded fed
    obtain ⟨bounded'', same'⟩ := ih bounded'
    exact ⟨bounded'', same.trans same'⟩

theorem bounded_start (limit maxMessage : Nat) : (start limit maxMessage).decoder.Bounded where
  range := effectiveLimit_le limit
  received := nofun
  admitted := nofun
  field := nofun

theorem bounded_of_continues {r' : Receiver} (bounded : r.decoder.Bounded)
    (reached : Relation.ReflTransGen Continues r r') :
    r'.decoder.Bounded ∧ r.decoder.SameLimits r'.decoder := by
  induction reached with
  | refl => exact ⟨bounded, .refl r.decoder⟩
  | tail _ continues ih =>
    obtain ⟨bounded', same⟩ := ih
    obtain ⟨bounded'', same', -⟩ := continues.removes bounded'
    exact ⟨bounded'', same.trans same'⟩

/--
Reading from a peer that is free to send anything. Whatever was fed to a receiver, the next message
it is asked for takes at most one round of the loop for every five bytes in the buffer, and one
more, and in none of them an index, a cut or a sum is out of range. In every round the assembly
holds no more than was declared, which is no more than is admitted, and a round that is not the last
removes at least five bytes. A message that is yielded is within the limits. Where nothing is
yielded, less is left in the buffer than the longest frame takes up. What is removed from the buffer
is its front.
-/
theorem run_contained (limit maxMessage : Nat) (feeds : List Feed) :
    let r := (start limit maxMessage).run feeds
    let step := r.decoder.decode r.buffer
    r.rounds (r.buffer.length / 5 + 1) = .returned step ∧
    (∀ r', Relation.ReflTransGen Continues r r' →
      (∀ a ∈ r'.decoder.assembly,
        a.received.length ≤ a.declared ∧ a.declared ≤ maxMessage) ∧
      ∀ next, r'.Continues next → ∃ removed, r'.buffer = removed ++ next.buffer ∧
        5 ≤ removed.length) ∧
    (∀ a ∈ step.decoder.assembly, a.received.length ≤ a.declared ∧ a.declared ≤ maxMessage) ∧
    (∀ message, step.outcome = .ok (some message) →
      message.payload.length ≤ max (effectiveLimit limit) maxMessage) ∧
    (step.outcome = .ok none → step.rest.length < 5 + max (effectiveLimit limit + 1) 5) ∧
    ∃ removed, r.buffer = removed ++ step.rest := by
  intro r step
  obtain ⟨bounded, hlimit, hmax⟩ := bounded_run (bounded_start limit maxMessage) feeds
  have hmax : r.decoder.maxMessage = maxMessage := hmax
  have hlimit : r.decoder.frameLimit = effectiveLimit limit := hlimit
  have gathered {d : FrameDecoder} (bounded : d.Bounded) (same : r.decoder.SameLimits d) :
      ∀ a ∈ d.assembly, a.received.length ≤ a.declared ∧ a.declared ≤ maxMessage := by
    intro a opened
    have admitted := bounded.admitted a opened
    rw [same.2, hmax] at admitted
    rw [a.length_received]
    exact ⟨bounded.received a opened, admitted⟩
  refine ⟨rounds_eq bounded (Nat.lt_mul_div_succ _ (by decide)), ?_, ?_, ?_, ?_,
    FrameDecoder.exists_eq_append_rest r.decoder r.buffer⟩
  · intro r' reached
    obtain ⟨bounded', same⟩ := bounded_of_continues bounded reached
    refine ⟨gathered bounded' same, ?_⟩
    intro next continues
    exact (continues.removes bounded').2.2
  · obtain ⟨bounded', same⟩ := bounded.decode r.buffer
    exact gathered bounded' same
  · intro message yielded
    rw [← hlimit, ← hmax]
    exact bounded.length_payload yielded
  · intro nothing
    rw [← hlimit]
    exact bounded.length_rest nothing

end Receiver

end SessionNet
