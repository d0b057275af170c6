import SessionNet.Compression.Zstd.Bits

/-!
# Finite state entropy

A decoding table has one cell per state. The cell of the current state names the next symbol, and
the next state is the cell's base plus a number of bits read from the stream. The table follows from
normalized counts that add up to its size; a count of minus one stands for a probability below one
and takes a single cell at the end of the table.
-/

namespace SessionNet.Compression.Zstd

/-- What a state stands for and how it goes on. -/
structure FseCell where
  symbol : Nat := 0
  bits : Nat := 0
  base : Nat := 0
  deriving DecidableEq, Repr, Inhabited

/-- A decoding table with `2 ^ log` cells. -/
structure FseTable where
  log : Nat
  cells : Array FseCell

namespace FseTable

/-- The table of a single symbol, which takes no bits. -/
def constant (symbol : Nat) : FseTable := ⟨0, #[⟨symbol, 0, 0⟩]⟩

def cell (t : FseTable) (state : Nat) : FseCell := t.cells.getD state {}

/-- Give the symbols of count minus one their cells, from the end of the table down. -/
def placeRare (symbols : Array Nat) : (high symbol : Nat) → List Int → Array Nat × Nat
  | high, _, [] => (symbols, high)
  | high, symbol, count :: rest =>
    if count = -1 then
      placeRare (symbols.setIfInBounds (high - 1) symbol) (high - 1) (symbol + 1) rest
    else placeRare symbols high (symbol + 1) rest

/-- The next position of the spread that is not taken by a rare symbol. -/
def nextPosition (size high : Nat) : (tries : Nat) → Nat → Nat
  | 0, position => position
  | tries + 1, position =>
    let position := (position + size / 2 + size / 8 + 3) % size
    if position < high then position else nextPosition size high tries position

/-- Put `count` copies of a symbol on the next positions of the spread. -/
def placeCopies (size high symbol : Nat) :
    (count : Nat) → Array Nat × Nat → Array Nat × Nat
  | 0, placed => placed
  | count + 1, (symbols, position) =>
    placeCopies size high symbol count
      (symbols.setIfInBounds position symbol, nextPosition size high size position)

/-- Spread the symbols of positive count over the table. -/
def spread (size high : Nat) : (symbol : Nat) → List Int → Array Nat × Nat → Array Nat
  | _, [], (symbols, _) => symbols
  | symbol, count :: rest, placed =>
    spread size high (symbol + 1) rest (placeCopies size high symbol count.toNat placed)

/-- Number the cells of each symbol in table order, which fixes their bits and bases. -/
def number (log : Nat) : (cells : List Nat) → (next : Array Nat) → List FseCell
  | [], _ => []
  | symbol :: rest, next =>
    let state := next.getD symbol 1
    let bits := log - Nat.log2 state
    ⟨symbol, bits, state * Nat.pow 2 bits - Nat.pow 2 log⟩
      :: number log rest (next.setIfInBounds symbol (state + 1))

/-- The table of normalized counts that add up to `2 ^ log`. -/
def ofCounts (log : Nat) (counts : List Int) : FseTable :=
  let size := Nat.pow 2 log
  let (symbols, high) := placeRare (Array.replicate size 0) size 0 counts
  let symbols := spread size high 0 counts (symbols, 0)
  let next := (counts.map fun count => if count = -1 then 1 else count.toNat).toArray
  ⟨log, (number log symbols.toList next).toArray⟩

/-! ## Reading counts -/

/-- How many zero counts a run of two-bit fields adds, and where it ends. -/
def readZeros (src : Array UInt8) : (tries position zeros : Nat) → Nat × Nat
  | 0, position, zeros => (zeros, position)
  | tries + 1, position, zeros =>
    let n := bitField src position 2
    -- three says that another field follows
    if n = 3 then readZeros src tries (position + 2) (zeros + 3) else (zeros + n, position + 2)

/--
Read counts until they add up, newest first; `remaining` is one more than what is still to be given
out. A value takes one bit less when it is small enough for that to be unambiguous.
-/
def readCountsFrom (src : Array UInt8) (maxSymbol : Nat) :
    (steps remaining position : Nat) → List Int → Option (List Int × Nat)
  | 0, _, _, _ => none
  | steps + 1, remaining, position, counts =>
    if remaining = 1 then some (counts, position)
    else if maxSymbol < counts.length then none
    else
      let width := Nat.log2 remaining + 1
      let half := Nat.pow 2 (width - 1)
      let spare := 2 * half - 1 - remaining
      let full := bitField src position width
      let (value, used) :=
        if full % half < spare then (full % half, width - 1)
        else if full < half then (full, width)
        else (full - spare, width)
      let count : Int := (value : Int) - 1
      let counts := count :: counts
      let position := position + used
      if count = 0 then
        let (zeros, position) := readZeros src (8 * src.size) position 0
        readCountsFrom src maxSymbol steps remaining position (List.replicate zeros 0 ++ counts)
      else readCountsFrom src maxSymbol steps (remaining - count.natAbs) position counts

/-- Read a table description: the table and the bytes it took. -/
def read? (maxLog maxSymbol : Nat) (input : Bytes) : Option (FseTable × Bytes) :=
  let src := (input.take 512).toArray
  let log := bitField src 0 4 + 5
  if input.isEmpty ∨ maxLog < log then none
  else
    match readCountsFrom src maxSymbol (maxSymbol + 2) (Nat.pow 2 log + 1) 4 [] with
    | none => none
    | some (counts, position) =>
      let used := (position + 7) / 8
      if maxSymbol + 1 < counts.length ∨ src.size < used then none
      else some (ofCounts log counts.reverse, input.drop used)

end FseTable

/-! ## States -/

/-- The first state of a table, read from the stream. -/
def FseTable.start? (t : FseTable) (b : BackwardBits) : Option (Nat × BackwardBits) :=
  b.read? t.log

/-- The state after `state`. -/
def FseTable.advance? (t : FseTable) (state : Nat) (b : BackwardBits) :
    Option (Nat × BackwardBits) :=
  let cell := t.cell state
  (b.read? cell.bits).map fun (bits, b) => (cell.base + bits, b)

end SessionNet.Compression.Zstd
