import SessionNet.Compression.History

/-!
# LZ4 blocks

A block is a list of sequences: literal bytes, then a match, a copy of earlier output given by its
offset and length. The last sequence has literals only. Reading a sequence always takes at least its
token, and expanding a block never produces more than the size it is said to have.

The writer looks for matches with a table of recent positions. It checks that what it found expands
to the input and otherwise writes the input as one run of literals, so no property of the search is
needed for the round trip.
-/

namespace SessionNet.Compression.Lz4

/-- The shortest match that can be written. -/
def minMatch : Nat := 4

/-- The largest offset of a match. -/
def maxOffset : Nat := 65535

/-- A copy of earlier output. -/
structure Match where
  offset : Nat
  length : Nat
  deriving DecidableEq, Repr

/-- Literal bytes and the match after them; the last sequence of a block has none. -/
structure Sequence where
  literals : Bytes
  copy? : Option Match
  deriving DecidableEq, Repr

/-! ## Lengths -/

/-- The bytes that extend a length field of 15: 255 as long as more follow. -/
def extension (n : Nat) : Bytes := List.replicate (n / 255) 255 ++ [UInt8.ofNat (n % 255)]

/-- Read the bytes that extend a length. -/
def readExtension? (sum : Nat) : Bytes → Option (Nat × Bytes)
  | [] => none
  | b :: rest => if b = 255 then readExtension? (sum + 255) rest else some (sum + b.toNat, rest)

/-- Read a length whose field in the token is `field`. -/
def readLength? (field : Nat) (input : Bytes) : Option (Nat × Bytes) :=
  if field = 15 then readExtension? 15 input else some (field, input)

/-- The token field of a length and its extension. -/
def lengthParts (n : Nat) : Nat × Bytes := if n < 15 then (n, []) else (15, extension (n - 15))

/-! ## Sequences -/

namespace Sequence

def read? (input : Bytes) : Option (Sequence × Bytes) := do
  let (token, rest) ← input.next?
  let (count, rest) ← readLength? (token.toNat / 16) rest
  let (literals, rest) ← rest.takeExactly? count
  if rest.isEmpty then return (⟨literals, none⟩, [])
  let (offset, rest) ← rest.readLittle? 2
  let (extra, rest) ← readLength? (token.toNat % 16) rest
  return (⟨literals, some ⟨offset, minMatch + extra⟩⟩, rest)

def write (s : Sequence) : Bytes :=
  let (field, extended) := lengthParts s.literals.length
  match s.copy? with
  | none => UInt8.ofNat (16 * field) :: (extended ++ s.literals)
  | some copy =>
    let (field', extended') := lengthParts (copy.length - minMatch)
    UInt8.ofNat (16 * field + field')
      :: (extended ++ s.literals ++ Bytes.littleEndian 2 copy.offset ++ extended')

end Sequence

theorem readExtension?_length {sum : Nat} {input : Bytes} {n : Nat} {rest : Bytes}
    (h : readExtension? sum input = some (n, rest)) : rest.length ≤ input.length := by
  induction input generalizing sum with
  | nil => cases h
  | cons b input ih =>
    rw [readExtension?] at h
    split at h
    · exact Nat.le_succ_of_le (ih h)
    · cases h
      simp

theorem readLength?_length {field : Nat} {input : Bytes} {n : Nat} {rest : Bytes}
    (h : readLength? field input = some (n, rest)) : rest.length ≤ input.length := by
  rw [readLength?] at h
  split at h
  · exact readExtension?_length h
  · cases h
    exact Nat.le_refl _

/-- A sequence takes up at least its token. -/
theorem Sequence.read?_length {input : Bytes} {s : Sequence} {rest : Bytes}
    (h : read? input = some (s, rest)) : rest.length < input.length := by
  cases input with
  | nil => cases h
  | cons token input =>
    simp only [read?, Bytes.next?, Option.bind_eq_bind, Option.bind_some, Option.bind_eq_some_iff,
      Prod.exists] at h
    obtain ⟨count, rest₁, h₁, literals, rest₂, h₂, h⟩ := h
    have hlen₁ := readLength?_length h₁
    obtain ⟨rfl, -⟩ := Bytes.takeExactly?_eq_some_iff.1 h₂
    simp only [List.length_append] at hlen₁
    split at h
    · cases h
      simp
    · simp only [Option.bind_eq_some_iff, Prod.exists, Bytes.readLittle?, Option.map_eq_some_iff,
        Prod.mk.injEq, Option.pure_def, Option.some.injEq] at h
      obtain ⟨_, rest₃, ⟨_, _, h₃, rfl, rfl⟩, _, rest₄, h₄, -, rfl⟩ := h
      obtain ⟨rfl, -⟩ := Bytes.takeExactly?_eq_some_iff.1 h₃
      have hlen₄ := readLength?_length h₄
      simp only [List.length_append, List.length_cons] at *
      omega

/-! ## Blocks -/

/-- The sequences of a block behind those already `read`; only the last one lacks a match. -/
def sequencesAfter? (read : List Sequence) (input : Bytes) : Option (List Sequence) :=
  match _h : Sequence.read? input with
  | none => none
  | some (s, rest) =>
    if s.copy?.isNone then some (s :: read).reverse
    else sequencesAfter? (s :: read) rest
termination_by input.length
decreasing_by exact Sequence.read?_length _h

def sequences? (input : Bytes) : Option (List Sequence) := sequencesAfter? [] input

/-- Append what a sequence stands for, unless that exceeds `limit` or a match starts too early. -/
def Sequence.expand? (limit : Nat) (out : History) (s : Sequence) : Option History :=
  let out := out.appendBytes s.literals
  if limit < out.size then none
  else
    match s.copy? with
    | none => some out
    | some copy =>
      if copy.offset = 0 ∨ out.size < copy.offset ∨ limit < out.size + copy.length then none
      else some (out.appendMatch copy.offset copy.length)

/-- Append what a list of sequences stands for. -/
def expand? (limit : Nat) : History → List Sequence → Option History
  | out, [] => some out
  | out, s :: rest =>
    match s.expand? limit out with
    | none => none
    | some out => expand? limit out rest

/-- Expand a block that is said to hold at most `limit` bytes. -/
def decodeBlock? (limit : Nat) (block : Bytes) : Option Bytes :=
  match sequences? block with
  | none => none
  | some sequences => (expand? limit #[] sequences).map Array.toList

/-- A size field of four bytes, then a block of at most that size; the size is capped. -/
def decode? (cap : Nat) (input : Bytes) : Option Bytes :=
  match input.readLittle? 4 with
  | none => none
  | some (size, block) => if cap < size then none else decodeBlock? size block

/-! ## Finding matches -/

/-- Slots in the table of recent positions. -/
def tableSize : Nat := 4096

/-- The slot of the four bytes at `i`. -/
def slot (input : Array UInt8) (i : Nat) : Nat :=
  let at' (k : Nat) : UInt32 := (input.getD (i + k) 0).toUInt32
  let word := at' 0 ||| (at' 1 <<< 8) ||| (at' 2 <<< 16) ||| (at' 3 <<< 24)
  ((word * 2654435761) >>> 20).toNat

/-- `common` and how many bytes from `i` on equal those from `j` on, at most `count` of them. -/
def commonLength (input : Array UInt8) (i j common : Nat) : (count : Nat) → Nat
  | 0 => common
  | count + 1 =>
    if input.getD i 0 = input.getD j 0 then commonLength input (i + 1) (j + 1) (common + 1) count
    else common

/-- The bytes from `start` up to `stop`. -/
def slice (input : Array UInt8) (start stop : Nat) : Bytes := (input.extract start stop).toList

/--
Matches found from `i` on, newest first; the bytes from `start` on are not yet written. A match
stays clear of the last `margin` bytes, which are always literals.
-/
def search (input : Array UInt8) (margin : Nat) :
    (steps : Nat) → (table : Array Nat) → (start i : Nat) → List Sequence → List Sequence
  | 0, _, start, _, found => ⟨slice input start input.size, none⟩ :: found
  | steps + 1, table, start, i, found =>
    if input.size ≤ i + margin then ⟨slice input start input.size, none⟩ :: found
    else
      let key := slot input i
      -- a slot holds one more than the position, zero when empty
      let candidate := table.getD key 0
      let table := table.setIfInBounds key (i + 1)
      let j := candidate - 1
      let length :=
        if candidate = 0 ∨ maxOffset < i - j then 0
        else commonLength input j i 0 (input.size - i - margin)
      if minMatch ≤ length then
        search input margin steps table (i + length) (i + length)
          (⟨slice input start i, some ⟨i - j, length⟩⟩ :: found)
      else search input margin steps table start (i + 1) found

/-- A list of sequences for the input. -/
def plan (input : Array UInt8) : List Sequence :=
  (search input 12 input.size (Array.replicate tableSize 0) 0 0 []).reverse

/-- One run of literals. -/
def literalBlock (input : Bytes) : Bytes := Sequence.write ⟨input, none⟩

/-- A block that expands to the input. -/
def encodeBlock (input : Bytes) : Bytes :=
  let block := (plan input.toArray).flatMap Sequence.write
  -- a plan is used only if it reads back, so that a block always expands to its input
  match decodeBlock? input.length block with
  | some output => if output == input then block else literalBlock input
  | none => literalBlock input

/-- The size of the input in four bytes, then a block of it. -/
def encode (input : Bytes) : Bytes := Bytes.littleEndian 4 input.length ++ encodeBlock input

end SessionNet.Compression.Lz4
