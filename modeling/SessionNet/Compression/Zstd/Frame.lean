import SessionNet.Compression.XxHash
import SessionNet.Compression.Zstd.Literals
import SessionNet.Compression.Zstd.Sequences

/-!
# Zstandard frames

Compressed data is one or more frames, one after the other and nothing else. A frame has a header,
blocks up to one marked as the last, and perhaps a checksum of its content; a skippable frame has a
length and bytes without meaning. The content of all frames together is capped.

Frames are written with plain and repeated blocks only: a block of equal bytes takes four bytes, any
other block is stored as it is.
-/

namespace SessionNet.Compression.Zstd

/-- The number that opens a frame. -/
def magic : Nat := 0xFD2FB528

/-- The upper 28 bits of the numbers that open a skippable frame. -/
def skippableMagic : Nat := 0x184D2A5

/-- The largest content of a block. -/
def maxBlockSize : Nat := 128 * 1024

/-- The largest window a reader is ready to keep. -/
def maxWindowSize : Nat := Nat.pow 2 27 + 1

/-! ## Headers -/

/-- What a frame header says. -/
structure FrameHeader where
  windowSize : Nat
  contentSize? : Option Nat
  hasChecksum : Bool
  deriving DecidableEq, Repr

namespace FrameHeader

/-- The window size of a descriptor: a power of two and eighths of it. -/
def windowOf (descriptor : Nat) : Nat :=
  let base := Nat.pow 2 (descriptor / 8 + 10)
  base + base / 8 * (descriptor % 8)

/-- Width of the content size field and what is added to it. -/
def contentSizeField (flag : Nat) (singleSegment : Bool) : Nat × Nat :=
  match flag with
  | 0 => if singleSegment then (1, 0) else (0, 0)
  | 1 => (2, 256)
  | 2 => (4, 0)
  | _ => (8, 0)

/-- Read a frame header behind the opening number; frames that need a dictionary are refused. -/
def read? (input : Bytes) : Option (FrameHeader × Bytes) := do
  let (descriptor, rest) ← input.readLittle? 1
  let singleSegment := descriptor / 32 % 2 == 1
  if descriptor / 8 % 2 = 1 then none
  let (window, rest) ← rest.readLittle? (if singleSegment then 0 else 1)
  let (dictionary, rest) ← rest.readLittle? ([0, 1, 2, 4].getD (descriptor % 4) 0)
  if dictionary ≠ 0 then none
  let (width, base) := contentSizeField (descriptor / 64) singleSegment
  let (size, rest) ← rest.readLittle? width
  let contentSize? := if width = 0 then none else some (size + base)
  let windowSize := if singleSegment then size + base else windowOf window
  if maxWindowSize < windowSize then none
  return (⟨windowSize, contentSize?, descriptor / 4 % 2 == 1⟩, rest)

/-- The largest block of a frame. -/
def blockLimit (h : FrameHeader) : Nat := min h.windowSize maxBlockSize

/-- A frame that tells a size of at most this is read as a whole. -/
def wholeSize : Nat := 8192

/-- Whether a compressed block without bytes stands for no content. A frame that is read as a whole
may not have one. -/
def allowsVoidBlocks (h : FrameHeader) : Bool := h.contentSize?.all (wholeSize < ·)

end FrameHeader

/-! ## Blocks -/

/-- What the blocks of a frame have in common. -/
structure FrameState where
  out : History
  frameStart : Nat
  allowsVoidBlocks : Bool
  code? : Option HuffmanTable := none
  tables? : Option SequenceTables := none
  recent : RecentOffsets := {}

/-- The kinds of blocks by number. -/
inductive BlockKind where
  | plain
  | repeated
  | compressed
  deriving DecidableEq, Repr

def BlockKind.toNat : BlockKind → Nat
  | .plain => 0
  | .repeated => 1
  | .compressed => 2

def BlockKind.ofNat? : Nat → Option BlockKind
  | 0 => some .plain
  | 1 => some .repeated
  | 2 => some .compressed
  | _ => none

/-- A block header: whether it is the last, its kind and its size. -/
structure BlockHeader where
  last : Bool
  kind : BlockKind
  size : Nat
  deriving DecidableEq, Repr

namespace BlockHeader

def read? (input : Bytes) : Option (BlockHeader × Bytes) := do
  let (header, rest) ← input.readLittle? 3
  let kind ← BlockKind.ofNat? (header / 2 % 4)
  return (⟨header % 2 == 1, kind, header / 8⟩, rest)

/-- The bytes of a block header. -/
def write (h : BlockHeader) : Bytes :=
  Bytes.littleEndian 3 (h.last.toNat + 2 * h.kind.toNat + 8 * h.size)

/-- The bytes a block takes behind its header. -/
def storedSize (h : BlockHeader) : Nat :=
  match h.kind with
  | .repeated => 1
  | _ => h.size

end BlockHeader

/-- Append the content of a compressed block. -/
def FrameState.runCompressed? (limit : Nat) (s : FrameState) (body : Bytes) :
    Option FrameState := do
  let literals ← LiteralsSection.read? limit s.code? body
  let block : BlockState := ⟨s.out, s.frameStart, literals.literals, s.recent⟩
  let (tables?, block) ← block.runSection? s.tables? (s.out.size + limit) literals.rest
  return { s with out := block.out, code? := literals.code?, tables?, recent := block.recent }

def FrameState.runBlock? (limit : Nat) (s : FrameState) (header : BlockHeader) (body : Bytes) :
    Option FrameState :=
  if limit < header.size then none
  else
    match header.kind with
    | .plain => some { s with out := s.out.appendBytes body }
    | .repeated => some { s with out := s.out.appendRun (body.headD 0) header.size }
    | .compressed =>
      if body.isEmpty && s.allowsVoidBlocks then some s else s.runCompressed? limit body

/-- Read a block and append its content; the output may not grow beyond `cap`. -/
def FrameState.readBlock? (cap limit : Nat) (s : FrameState) (input : Bytes) :
    Option (Bool × FrameState × Bytes) := do
  let (header, rest) ← BlockHeader.read? input
  let (body, rest) ← rest.takeExactly? header.storedSize
  let s ← s.runBlock? limit header body
  if cap < s.out.size then none
  return (header.last, s, rest)

theorem BlockHeader.read?_length {input : Bytes} {h : BlockHeader} {rest : Bytes}
    (hread : read? input = some (h, rest)) : rest.length < input.length := by
  simp only [read?, Option.bind_eq_bind, Option.bind_eq_some_iff, Prod.exists, Bytes.readLittle?,
    Option.map_eq_some_iff, Prod.mk.injEq, Option.pure_def] at hread
  obtain ⟨_, _, ⟨front, _, hcut, -, rfl⟩, _, -, hread⟩ := hread
  cases hread
  obtain ⟨rfl, hlen⟩ := Bytes.takeExactly?_eq_some_iff.1 hcut
  simp only [List.length_append, hlen]
  omega

/-- A block takes up at least its header. -/
theorem FrameState.readBlock?_length {cap limit : Nat} {s s' : FrameState} {input rest : Bytes}
    {last : Bool} (h : s.readBlock? cap limit input = some (last, s', rest)) :
    rest.length < input.length := by
  simp only [readBlock?, Option.bind_eq_bind, Option.bind_eq_some_iff, Prod.exists] at h
  obtain ⟨header, rest₁, h₁, body, rest₂, h₂, s₁, -, h⟩ := h
  have hlen₁ := BlockHeader.read?_length h₁
  obtain ⟨rfl, -⟩ := Bytes.takeExactly?_eq_some_iff.1 h₂
  simp only [List.length_append] at hlen₁
  split at h
  · cases h
  · cases h
    omega

/-- Read blocks up to the last one. -/
def FrameState.readBlocks? (cap limit : Nat) (s : FrameState) (input : Bytes) :
    Option (FrameState × Bytes) :=
  match _h : s.readBlock? cap limit input with
  | none => none
  | some (last, s, rest) => if last then some (s, rest) else s.readBlocks? cap limit rest
termination_by input.length
decreasing_by exact FrameState.readBlock?_length _h

/-! ## Frames -/

/-- The bytes of `out` from `start` on. -/
def contentFrom (out : History) (start : Nat) : Bytes := (out.extract start out.size).toList

/-- Read a frame behind its opening number and append its content. -/
def readFrame? (cap : Nat) (out : History) (input : Bytes) : Option (History × Bytes) := do
  let (header, rest) ← FrameHeader.read? input
  let start : FrameState :=
    { out, frameStart := out.size, allowsVoidBlocks := header.allowsVoidBlocks }
  let (s, rest) ← start.readBlocks? cap header.blockLimit rest
  if let some size := header.contentSize? then
    if s.out.size - out.size ≠ size then none
  if header.hasChecksum then
    let (checksum, rest) ← rest.readLittle? 4
    let actual := XxHash.hash 0 (contentFrom s.out out.size)
    if checksum ≠ actual.toNat % Nat.pow 2 32 then none
    return (s.out, rest)
  else return (s.out, rest)

/-- Read a frame of either kind and append its content. -/
def readAnyFrame? (cap : Nat) (out : History) (input : Bytes) : Option (History × Bytes) := do
  let (number, rest) ← input.readLittle? 4
  if number = magic then readFrame? cap out rest
  else if number / 16 = skippableMagic then
    let (length, rest) ← rest.readLittle? 4
    let (_, rest) ← rest.takeExactly? length
    return (out, rest)
  else none

/-- Read frames until the input is used up; a frame has to take some of it. -/
def readFrames? (cap : Nat) (out : History) (input : Bytes) : Option History :=
  match readAnyFrame? cap out input with
  | none => none
  | some (out, rest) =>
    if rest.isEmpty then some out
    else if _h : rest.length < input.length then readFrames? cap out rest
    else none
termination_by input.length

/-- The content of one or more frames, at most `cap` bytes. -/
def decode? (cap : Nat) (input : Bytes) : Option Bytes :=
  (readFrames? cap #[] input).map Array.toList

/-! ## Writing -/

/-- Whether all bytes of a block are `byte`. -/
def isRun (byte : UInt8) (block : Bytes) : Bool := block.all (· == byte)

/-- A block, repeated if it can be, otherwise as it is. -/
def encodeBlock (last : Bool) (block : Bytes) : Bytes :=
  match block with
  | [] => BlockHeader.write ⟨last, .plain, 0⟩
  | byte :: rest =>
    if isRun byte rest then BlockHeader.write ⟨last, .repeated, block.length⟩ ++ [byte]
    else BlockHeader.write ⟨last, .plain, block.length⟩ ++ block

/-- The blocks of `input` behind those already written, which are newest first. -/
def encodeBlocksAfter (written : List Bytes) (input : Bytes) : Bytes :=
  if _h : input.drop maxBlockSize = [] then (encodeBlock true input :: written).reverse.flatten
  else
    encodeBlocksAfter (encodeBlock false (input.take maxBlockSize) :: written)
      (input.drop maxBlockSize)
termination_by input.length
decreasing_by
  have : 0 < maxBlockSize := by decide
  rw [List.drop_eq_nil_iff] at _h
  rw [List.length_drop]
  omega

/-- The header of a frame of unknown size with a window of one whole block. -/
def frameHeader : Bytes := Bytes.littleEndian 4 magic ++ [0, 0x38]

/-- One frame that holds the input. -/
def encode (input : Bytes) : Bytes := frameHeader ++ encodeBlocksAfter [] input

end SessionNet.Compression.Zstd
