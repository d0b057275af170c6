import SessionNet.Compression.Zstd.Huffman

/-!
# Literals of a compressed block

The first section of a compressed block holds the literal bytes: as they are, as one repeated byte,
or Huffman-coded in one or four streams, with a code of their own or the one of the block before.
-/

namespace SessionNet.Compression.Zstd

/-- The literals of a block, the code they leave for the next block, and the rest of the block. -/
structure LiteralsSection where
  literals : Bytes
  code? : Option HuffmanTable
  rest : Bytes

namespace LiteralsSection

/-- The bit fields of the header behind its first two: widths of the sizes and the header's
length. -/
def sizeWidths (sizeFormat : Nat) : Nat × Nat :=
  match sizeFormat with
  | 0 => (10, 3)
  | 1 => (10, 3)
  | 2 => (14, 4)
  | _ => (18, 5)

/-- The size of plain or repeated literals, with the rest of the block. -/
def readPlainSize? (sizeFormat : Nat) (input : Bytes) : Option (Nat × Bytes) :=
  match sizeFormat with
  | 1 => (input.readLittle? 2).map fun (n, rest) => (n / 16, rest)
  | 3 => (input.readLittle? 3).map fun (n, rest) => (n / 16, rest)
  | _ => (input.readLittle? 1).map fun (n, rest) => (n / 8, rest)

/-- Read the literals of a block; `code?` is the code of the block before. -/
def read? (blockLimit : Nat) (code? : Option HuffmanTable) (input : Bytes) :
    Option LiteralsSection := do
  let (first, _) ← input.next?
  let kind := first.toNat % 4
  let sizeFormat := first.toNat / 4 % 4
  match kind with
  | 0 =>
    let (size, rest) ← readPlainSize? sizeFormat input
    if blockLimit < size then none
    let (literals, rest) ← rest.takeExactly? size
    return ⟨literals, code?, rest⟩
  | 1 =>
    let (size, rest) ← readPlainSize? sizeFormat input
    if blockLimit < size then none
    let (byte, rest) ← rest.next?
    return ⟨List.replicate size byte, code?, rest⟩
  | _ =>
    if input.length < 5 then none
    let (width, headerLength) := sizeWidths sizeFormat
    let (header, rest) ← input.readLittle? headerLength
    let size := header / Nat.pow 2 4 % Nat.pow 2 width
    let compressedSize := header / Nat.pow 2 (4 + width) % Nat.pow 2 width
    if blockLimit < size then none
    let (compressed, rest) ← rest.takeExactly? compressedSize
    let (code, streams) ←
      if kind = 2 then HuffmanTable.read? compressed else code?.map fun code => (code, compressed)
    let out ←
      if sizeFormat = 0 then code.decodeStream? size streams #[] else code.decodeFour? size streams
    return ⟨out.toList, some code, rest⟩

end LiteralsSection

end SessionNet.Compression.Zstd
