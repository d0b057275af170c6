import SessionNet.Bytes

/-!
# Bit streams

Bits are numbered from the least significant bit of the first byte. Table descriptions are read
forwards. Entropy-coded data is read backwards: the highest set bit of the last byte marks the end,
and every field lies below the ones read before it.
-/

namespace SessionNet.Compression.Zstd

/-- The number made of `count` bytes from `i` on, least significant first; absent bytes are zero. -/
def gather (src : Array UInt8) (i : Nat) : (count : Nat) → Nat
  | 0 => 0
  | count + 1 => (src.getD i 0).toNat + 256 * gather src (i + 1) count

/-- The `count` bits from bit `position` on. -/
def bitField (src : Array UInt8) (position count : Nat) : Nat :=
  gather src (position / 8) (count / 8 + 2) / Nat.pow 2 (position % 8) % Nat.pow 2 count

/-- Entropy-coded bits, of which the lowest `left` are unread. -/
structure BackwardBits where
  src : Array UInt8
  left : Nat

namespace BackwardBits

/-- The bits below the end mark; a stream without a mark is refused. -/
def ofBytes? (bs : Bytes) : Option BackwardBits :=
  let src := bs.toArray
  match src.back? with
  | none => none
  | some last =>
    if last = 0 then none else some ⟨src, 8 * (src.size - 1) + Nat.log2 last.toNat⟩

/-- The next `count` bits, zeros standing in for those beyond the end. -/
def peek (b : BackwardBits) (count : Nat) : Nat :=
  if count ≤ b.left then bitField b.src (b.left - count) count
  else bitField b.src 0 b.left * Nat.pow 2 (count - b.left)

/-- The bits after the next `count`, of which that many must be left. -/
def skip? (b : BackwardBits) (count : Nat) : Option BackwardBits :=
  if count ≤ b.left then some { b with left := b.left - count } else none

/-- The next `count` bits and the stream after them. -/
def read? (b : BackwardBits) (count : Nat) : Option (Nat × BackwardBits) :=
  (b.skip? count).map fun after => (b.peek count, after)

/-- Whether every bit has been read. -/
def isDone (b : BackwardBits) : Bool := b.left == 0

end BackwardBits

end SessionNet.Compression.Zstd
