import SessionNet.Compression.History
import SessionNet.Compression.Zstd.Fse

/-!
# Huffman codes

A code is described by a weight for every symbol but the last: weight zero for a symbol that does
not occur, otherwise the larger the shorter its code. The last weight is the one that completes the
sum to a power of two. Decoding looks up the next `log` bits in a table and skips as many bits as
the symbol found there takes.
-/

namespace SessionNet.Compression.Zstd

/-- A symbol and the length of its code. -/
structure HuffmanCell where
  symbol : UInt8 := 0
  bits : Nat := 0
  deriving DecidableEq, Repr, Inhabited

/-- A decoding table with `2 ^ log` cells. -/
structure HuffmanTable where
  log : Nat
  cells : Array HuffmanCell

namespace HuffmanTable

/-- The longest code. -/
def maxLog : Nat := 12

/-- The weight that completes `weights`, and the length of the longest code. -/
def lastWeight? (weights : List Nat) : Option (Nat × Nat) :=
  let total := (weights.map fun w => if w = 0 then 0 else Nat.pow 2 (w - 1)).foldr (· + ·) 0
  if total = 0 ∨ weights.any (maxLog < ·) then none
  else
    let log := Nat.log2 total + 1
    let missing := Nat.pow 2 log - total
    if maxLog < log ∨ Nat.pow 2 (Nat.log2 missing) ≠ missing then none
    else some (Nat.log2 missing + 1, log)

/-- The cells of the symbols of one weight, in order. -/
def cellsOfWeight (log weight : Nat) (weights : List (Nat × Nat)) : List HuffmanCell :=
  weights.flatMap fun (w, symbol) =>
    if w = weight then
      List.replicate (Nat.pow 2 (weight - 1)) ⟨UInt8.ofNat symbol, log + 1 - weight⟩
    else []

/-- The table of weights that lack the last one; at least two codes must have full length. -/
def ofWeights? (weights : List Nat) : Option HuffmanTable :=
  match lastWeight? weights with
  | none => none
  | some (last, log) =>
    let weights := weights ++ [last]
    -- codes of full length come in pairs that differ in their last bit
    let longest := weights.count 1
    if longest < 2 ∨ longest % 2 = 1 ∨ 256 < weights.length then none
    else
      let numbered := weights.zipIdx
      let cells := (List.range log).flatMap fun w => cellsOfWeight log (w + 1) numbered
      some ⟨log, cells.toArray⟩

/-! ## Reading weights -/

/-- Weights of four bits each, the upper half of a byte first. -/
def directWeights (bs : Bytes) : List Nat :=
  bs.flatMap fun b => [b.toNat / 16, b.toNat % 16]

/--
Weights written with two states that take turns, newest first, until a state runs out of bits; the
other state then gives the last weight.
-/
def fseWeightsFrom (table : FseTable) :
    (steps now other : Nat) → BackwardBits → List Nat → Option (List Nat)
  | 0, _, _, _, _ => none
  | steps + 1, now, other, b, weights =>
    let weights := (table.cell now).symbol :: weights
    match table.advance? now b with
    | none => some ((table.cell other).symbol :: weights)
    | some (next, b) => fseWeightsFrom table steps other next b weights

/-- Weights written with finite state entropy. -/
def fseWeights? (bs : Bytes) : Option (List Nat) := do
  let (table, rest) ← FseTable.read? 6 255 bs
  let b ← BackwardBits.ofBytes? rest
  let (first, b) ← table.start? b
  let (second, b) ← table.start? b
  let weights ← fseWeightsFrom table 254 first second b []
  return weights.reverse

def read? (input : Bytes) : Option (HuffmanTable × Bytes) := do
  let (size, rest) ← input.next?
  let size := size.toNat
  if size < 128 then
    let (described, rest) ← rest.takeExactly? size
    return (← ofWeights? (← fseWeights? described), rest)
  else
    let count := size - 127
    let (described, rest) ← rest.takeExactly? ((count + 1) / 2)
    return (← ofWeights? ((directWeights described).take count), rest)

/-! ## Decoding -/

/-- Decode `count` symbols. -/
def decodeSymbols (t : HuffmanTable) :
    (count : Nat) → BackwardBits → History → Option (BackwardBits × History)
  | 0, b, out => some (b, out)
  | count + 1, b, out =>
    let cell := t.cells.getD (b.peek t.log) {}
    match b.skip? cell.bits with
    | none => none
    | some b => decodeSymbols t count b (out.push cell.symbol)

/-- Decode a stream that holds exactly `count` symbols. -/
def decodeStream? (t : HuffmanTable) (count : Nat) (bs : Bytes) (out : History) :
    Option History := do
  let b ← BackwardBits.ofBytes? bs
  let (b, out) ← t.decodeSymbols count b out
  if b.isDone then return out else none

/-- Decode four streams with a table of the lengths of the first three. -/
def decodeFour? (t : HuffmanTable) (count : Nat) (bs : Bytes) : Option History := do
  -- six bytes of lengths and at least one byte in each stream
  if count < 6 ∨ bs.length < 10 then none
  let quarter := (count + 3) / 4
  if count < 3 * quarter then none
  let (size₁, bs) ← bs.readLittle? 2
  let (size₂, bs) ← bs.readLittle? 2
  let (size₃, bs) ← bs.readLittle? 2
  let (stream₁, bs) ← bs.takeExactly? size₁
  let (stream₂, bs) ← bs.takeExactly? size₂
  let (stream₃, stream₄) ← bs.takeExactly? size₃
  let out ← t.decodeStream? quarter stream₁ #[]
  let out ← t.decodeStream? quarter stream₂ out
  let out ← t.decodeStream? quarter stream₃ out
  t.decodeStream? (count - 3 * quarter) stream₄ out

end HuffmanTable

end SessionNet.Compression.Zstd
