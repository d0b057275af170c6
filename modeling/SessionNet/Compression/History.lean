import SessionNet.Bytes

/-!
# Decompressed output

The output of a decompressor while it grows. Matches copy from what is already there, one byte at a
time, so a match may overlap the bytes it produces.
-/

namespace SessionNet.Compression

/-- The bytes decompressed so far. -/
abbrev History := Array UInt8

namespace History

def appendBytes (out : History) (bs : Bytes) : History := bs.foldl Array.push out

/-- Append one byte `count` times. -/
def appendRun (out : History) (byte : UInt8) : (count : Nat) → History
  | 0 => out
  | count + 1 => appendRun (out.push byte) byte count

/-- Append `count` bytes, each a copy of the byte `offset` places before it. -/
def appendMatch (out : History) (offset : Nat) : (count : Nat) → History
  | 0 => out
  | count + 1 => appendMatch (out.push (out.getD (out.size - offset) 0)) offset count

@[simp] theorem toList_appendBytes (out : History) (bs : Bytes) :
    (out.appendBytes bs).toList = out.toList ++ bs := by
  induction bs generalizing out with
  | nil => simp [appendBytes]
  | cons b bs ih => simp [appendBytes]

@[simp] theorem toList_appendRun (out : History) (byte : UInt8) (count : Nat) :
    (out.appendRun byte count).toList = out.toList ++ List.replicate count byte := by
  induction count generalizing out with
  | zero => simp [appendRun]
  | succ count ih => simp [appendRun, ih, List.replicate_succ]

@[simp] theorem size_appendBytes (out : History) (bs : Bytes) :
    (out.appendBytes bs).size = out.size + bs.length := by
  rw [← Array.length_toList, toList_appendBytes, List.length_append, Array.length_toList]

@[simp] theorem size_appendRun (out : History) (byte : UInt8) (count : Nat) :
    (out.appendRun byte count).size = out.size + count := by
  rw [← Array.length_toList, toList_appendRun]
  simp

@[simp] theorem size_appendMatch (out : History) (offset count : Nat) :
    (out.appendMatch offset count).size = out.size + count := by
  induction count generalizing out with
  | zero => simp [appendMatch]
  | succ count ih =>
    rw [appendMatch, ih, Array.size_push]
    omega

/-- A match of offset one repeats the last byte. -/
example : History.appendMatch #[7, 9] 1 3 = #[7, 9, 9, 9, 9] := by decide +kernel

/-- A match longer than its offset repeats the bytes it has produced. -/
example : History.appendMatch #[1, 2, 3] 2 5 = #[1, 2, 3, 2, 3, 2, 3, 2] := by decide +kernel

end History

end SessionNet.Compression
