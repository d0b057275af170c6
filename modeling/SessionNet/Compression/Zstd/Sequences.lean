import SessionNet.Compression.History
import SessionNet.Compression.Zstd.Fse

/-!
# Sequences of a compressed block

The second section of a compressed block says how literals and matches alternate. Literal lengths,
match lengths and offsets are coded separately, each with a table of its own; a code stands for a
range of numbers, and extra bits choose one of it. The three smallest offset values stand for the
offsets used last.
-/

namespace SessionNet.Compression.Zstd

/-- The numbers that a code stands for: from `base` on, as many as `bits` extra bits can tell
apart. -/
structure CodeRange where
  base : Nat
  bits : Nat
  deriving DecidableEq, Repr, Inhabited

/-- Ranges that follow each other without a gap from `base` on, one for each number of extra bits.
-/
def consecutiveRanges : (base : Nat) → List Nat → List CodeRange
  | _, [] => []
  | base, bits :: rest => ⟨base, bits⟩ :: consecutiveRanges (base + Nat.pow 2 bits) rest

def literalLengthRanges : Array CodeRange :=
  (consecutiveRanges 0 (List.replicate 16 0
    ++ [1, 1, 1, 1, 2, 2, 3, 3, 4, 6, 7, 8, 9, 10, 11, 12, 13, 14, 15, 16])).toArray

def matchLengthRanges : Array CodeRange :=
  (consecutiveRanges 3 (List.replicate 32 0
    ++ [1, 1, 1, 1, 2, 2, 3, 3, 4, 4, 5, 7, 8, 9, 10, 11, 12, 13, 14, 15, 16])).toArray

/-- The counts of literal length codes when a block brings none. -/
def literalLengthCounts : List Int :=
  [4, 3, 2, 2, 2, 2, 2, 2, 2, 2, 2, 2, 2, 1, 1, 1, 2, 2, 2, 2, 2, 2, 2, 2, 2, 3, 2, 1, 1, 1, 1, 1,
    -1, -1, -1, -1]

/-- The counts of match length codes when a block brings none. -/
def matchLengthCounts : List Int :=
  [1, 4, 3, 2, 2, 2, 2, 2, 2, 1, 1, 1, 1, 1, 1, 1, 1, 1, 1, 1, 1, 1, 1, 1, 1, 1, 1, 1, 1, 1, 1, 1,
    1, 1, 1, 1, 1, 1, 1, 1, 1, 1, 1, 1, 1, 1, -1, -1, -1, -1, -1, -1, -1]

/-- The counts of offset codes when a block brings none. -/
def offsetCounts : List Int :=
  [1, 1, 1, 1, 1, 1, 2, 2, 2, 1, 1, 1, 1, 1, 1, 1, 1, 1, 1, 1, 1, 1, 1, 1, -1, -1, -1, -1, -1]

/-- The tables of the three kinds of codes. -/
structure SequenceTables where
  literalLength : FseTable
  offset : FseTable
  matchLength : FseTable

/-- What a kind of code admits. -/
structure CodeKind where
  maxSymbol : Nat
  maxLog : Nat
  counts : List Int
  countsLog : Nat

def CodeKind.literalLength : CodeKind := ⟨35, 9, literalLengthCounts, 6⟩

def CodeKind.offset : CodeKind := ⟨31, 8, offsetCounts, 5⟩

def CodeKind.matchLength : CodeKind := ⟨52, 9, matchLengthCounts, 6⟩

/-- Read a table in one of four modes: predefined, one symbol, described, or the one before. -/
def CodeKind.read? (kind : CodeKind) (mode : Nat) (before? : Option FseTable) (input : Bytes) :
    Option (FseTable × Bytes) :=
  match mode with
  | 0 => some (FseTable.ofCounts kind.countsLog kind.counts, input)
  | 1 =>
    match input with
    | [] => none
    | symbol :: rest =>
      if kind.maxSymbol < symbol.toNat then none else some (FseTable.constant symbol.toNat, rest)
  | 2 => FseTable.read? kind.maxLog kind.maxSymbol input
  | _ => before?.map fun table => (table, input)

def readSequenceCount? (input : Bytes) : Option (Nat × Bytes) :=
  match input with
  | [] => none
  | b :: rest =>
    if b.toNat < 128 then some (b.toNat, rest)
    else if b.toNat < 255 then
      (Bytes.next? rest).map fun (b', rest) => (256 * (b.toNat - 128) + b'.toNat, rest)
    else (Bytes.readLittle? 2 rest).map fun (n, rest) => (n + 0x7f00, rest)

/-! ## Offsets -/

/-- The three offsets used last, the latest first. -/
structure RecentOffsets where
  first : Nat := 1
  second : Nat := 4
  third : Nat := 8
  deriving DecidableEq, Repr

/--
The offset that a value stands for. Values above three are offsets plus three; the others name a
recent offset, shifted by one after an empty run of literals, where the last choice is the latest
offset less one. No offset is zero.
-/
def RecentOffsets.resolve? (r : RecentOffsets) (value literalLength : Nat) :
    Option (Nat × RecentOffsets) :=
  let latest (offset : Nat) : Option (Nat × RecentOffsets) :=
    if offset = 0 then none else some (offset, ⟨offset, r.first, r.second⟩)
  let choice := if literalLength = 0 then value + 1 else value
  if 3 < value then latest (value - 3)
  else if choice = 1 then some (r.first, r)
  else if choice = 2 then some (r.second, ⟨r.second, r.first, r.third⟩)
  else if choice = 3 then latest r.third
  else latest (r.first - 1)

/-! ## Execution -/

/-- The states of the three tables. -/
structure SequenceStates where
  literalLength : Nat
  offset : Nat
  matchLength : Nat

/-- What a block works on: output, where its frame starts, literals and recent offsets. -/
structure BlockState where
  out : History
  frameStart : Nat
  literals : Bytes
  recent : RecentOffsets

/-- Read one sequence and carry it out. -/
def BlockState.step? (tables : SequenceTables) (states : SequenceStates) (s : BlockState)
    (b : BackwardBits) : Option (BlockState × BackwardBits) := do
  let offsetCode := (tables.offset.cell states.offset).symbol
  let matchRange :=
    matchLengthRanges.getD (tables.matchLength.cell states.matchLength).symbol ⟨0, 0⟩
  let literalRange :=
    literalLengthRanges.getD (tables.literalLength.cell states.literalLength).symbol ⟨0, 0⟩
  -- the extra bits come in this order, the states advance in another
  let (offsetBits, b) ← b.read? offsetCode
  let (matchBits, b) ← b.read? matchRange.bits
  let (literalBits, b) ← b.read? literalRange.bits
  let literalLength := literalRange.base + literalBits
  let (offset, recent) ← s.recent.resolve? (Nat.pow 2 offsetCode + offsetBits) literalLength
  let (literals, rest) ← s.literals.takeExactly? literalLength
  let out := s.out.appendBytes literals
  if out.size - s.frameStart < offset then none
  else
    let out := out.appendMatch offset (matchRange.base + matchBits)
    return ({ s with out, literals := rest, recent }, b)

/-- The states after a sequence. -/
def SequenceTables.advance? (tables : SequenceTables) (states : SequenceStates) (b : BackwardBits) :
    Option (SequenceStates × BackwardBits) := do
  let (literalLength, b) ← tables.literalLength.advance? states.literalLength b
  let (matchLength, b) ← tables.matchLength.advance? states.matchLength b
  let (offset, b) ← tables.offset.advance? states.offset b
  return (⟨literalLength, offset, matchLength⟩, b)

/-- Carry out sequences; the output may not grow beyond `limit`, and the bits must be used up. -/
def BlockState.run? (tables : SequenceTables) (limit : Nat) :
    (count : Nat) → SequenceStates → BlockState → BackwardBits → Option BlockState
  | 0, _, s, b => if b.isDone then some s else none
  | count + 1, states, s, b =>
    match s.step? tables states b with
    | none => none
    | some (s, b) =>
      if limit < s.out.size then none
      -- no bits follow the last sequence, so no state advances
      else if count = 0 then BlockState.run? tables limit 0 states s b
      else
        match tables.advance? states b with
        | none => none
        | some (states, b) => BlockState.run? tables limit count states s b

/-- The tables a block leaves and the state after its sequences and its last literals. -/
def BlockState.runSection? (before? : Option SequenceTables) (limit : Nat) (s : BlockState)
    (input : Bytes) : Option (Option SequenceTables × BlockState) := do
  let (count, rest) ← readSequenceCount? input
  if count = 0 then
    if rest.isEmpty then finish before? s else none
  else
    let (modes, rest) ← rest.next?
    let modes := modes.toNat
    if modes % 4 ≠ 0 then none
    let (literalLength, rest) ←
      CodeKind.literalLength.read? (modes / 64) (before?.map (·.literalLength)) rest
    let (offset, rest) ← CodeKind.offset.read? (modes / 16 % 4) (before?.map (·.offset)) rest
    let (matchLength, rest) ←
      CodeKind.matchLength.read? (modes / 4 % 4) (before?.map (·.matchLength)) rest
    let tables : SequenceTables := ⟨literalLength, offset, matchLength⟩
    let b ← BackwardBits.ofBytes? rest
    let (literalState, b) ← literalLength.start? b
    let (offsetState, b) ← offset.start? b
    let (matchState, b) ← matchLength.start? b
    let s ← s.run? tables limit count ⟨literalState, offsetState, matchState⟩ b
    finish (some tables) s
where
  /-- Append the literals after the last sequence. -/
  finish (tables? : Option SequenceTables) (s : BlockState) :
      Option (Option SequenceTables × BlockState) :=
    let out := s.out.appendBytes s.literals
    if limit < out.size then none else some (tables?, { s with out, literals := [] })

end SessionNet.Compression.Zstd
