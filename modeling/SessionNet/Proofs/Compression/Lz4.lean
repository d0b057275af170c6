import SessionNet.Compression.Lz4
import SessionNet.Proofs.Bytes

/-!
# LZ4 blocks expand to what they were made from

A run of literals reads back as itself. A block made from a plan of matches is only written after it
was seen to expand to the input, so it needs no argument about the search.
-/

namespace SessionNet.Compression.Lz4

theorem readExtension?_extension (sum n : Nat) (rest : Bytes) :
    readExtension? sum (extension n ++ rest) = some (sum + n, rest) := by
  -- any number of full bytes, and then the one byte below 255 that ends the extension
  have hlast (count sum : Nat) :
      readExtension? sum (List.replicate count 255 ++ (UInt8.ofNat (n % 255) :: rest)) =
        some (sum + 255 * count + n % 255, rest) := by
    induction count generalizing sum with
    | zero =>
        have hbyte : (UInt8.ofNat (n % 255)).toNat = n % 255 := by
          rw [UInt8.toNat_ofNat']
          omega
        have hne : UInt8.ofNat (n % 255) ≠ 255 := by
          intro hmax
          have hnat := congrArg UInt8.toNat hmax
          rw [hbyte] at hnat
          have hmax : (255 : UInt8).toNat = 255 := rfl
          omega
        simp [readExtension?, hne, hbyte]
    | succ count ih =>
        rw [List.replicate_succ, List.cons_append, readExtension?, if_pos rfl, ih]
        congr 2
        omega
  have hsum : sum + 255 * (n / 255) + n % 255 = sum + n := by omega
  rw [extension, List.append_assoc, List.singleton_append, hlast, hsum]

/-- A length reads back from its token field and extension. -/
theorem readLength?_lengthParts (n : Nat) (rest : Bytes) :
    readLength? (lengthParts n).1 ((lengthParts n).2 ++ rest) = some (n, rest) := by
  by_cases hshort : n < 15
  · have hfield : n ≠ 15 := by omega
    simp [lengthParts, readLength?, hshort, hfield]
  · have hsum : 15 + (n - 15) = n := by omega
    simp [lengthParts, readLength?, hshort, readExtension?_extension, hsum]

/-- A sequence without a match reads back, and it is the last of its block. -/
theorem read?_write_literals (literals : Bytes) :
    Sequence.read? (Sequence.write ⟨literals, none⟩) = some (⟨literals, none⟩, []) := by
  have hfield : (lengthParts literals.length).1 ≤ 15 := by
    rw [lengthParts]
    split <;> simp only <;> omega
  have htoken :
      16 * (lengthParts literals.length).1 % 256 / 16 = (lengthParts literals.length).1 := by
    omega
  have hlength := readLength?_lengthParts literals.length literals
  have htake : Bytes.takeExactly? literals.length literals = some (literals, []) := by
    simpa using Bytes.takeExactly?_append rfl ([] : Bytes)
  simp [Sequence.read?, Sequence.write, Bytes.next?, htoken, hlength, htake]

theorem decodeBlock?_literalBlock {limit : Nat} {input : Bytes} (h : input.length ≤ limit) :
    decodeBlock? limit (literalBlock input) = some input := by
  have hsequences : sequences? (literalBlock input) = some [⟨input, none⟩] := by
    rw [sequences?, sequencesAfter?, literalBlock]
    split
    · rename_i hnone
      rw [read?_write_literals] at hnone
      cases hnone
    · rename_i s rest hread
      rw [read?_write_literals] at hread
      cases hread
      rfl
  have hexpand :
      expand? limit #[] [⟨input, none⟩] = some (History.appendBytes #[] input) := by
    simp [expand?, Sequence.expand?, Nat.not_lt.2 h]
  simp [decodeBlock?, hsequences, hexpand]

theorem decodeBlock?_encodeBlock (input : Bytes) :
    decodeBlock? input.length (encodeBlock input) = some input := by
  -- a plan is only kept if its block was seen to expand to the input
  simp only [encodeBlock]
  split
  · rename_i output houtput
    split
    · rename_i hsame
      rw [houtput, eq_of_beq hsame]
    · exact decodeBlock?_literalBlock (Nat.le_refl _)
  · exact decodeBlock?_literalBlock (Nat.le_refl _)

/-- An input whose size fits into the size field reads back, if the cap admits it. -/
theorem decode?_encode {cap : Nat} {input : Bytes} (hcap : input.length ≤ cap)
    (hfield : input.length < Nat.pow 256 4) : decode? cap (encode input) = some input := by
  rw [decode?, encode, Bytes.readLittle?_littleEndian hfield]
  simp [Nat.not_lt.2 hcap, decodeBlock?_encodeBlock]

/-! ## Limits -/

/-- What expands within a limit expands to the same within a larger one, and does not exceed it. -/
theorem Sequence.expand?_of_le {limit limit' : Nat} {out out' : History} {s : Sequence}
    (hle : limit ≤ limit') (h : s.expand? limit out = some out') :
    s.expand? limit' out = some out' ∧ out'.size ≤ limit := by
  simp only [Sequence.expand?] at h ⊢
  split at h
  · cases h
  · rename_i hroom
    rw [if_neg (by omega)]
    cases hcopy : s.copy? with
    | none =>
        rw [hcopy] at h
        cases h
        exact ⟨rfl, Nat.le_of_not_lt hroom⟩
    | some copy =>
        simp only [hcopy] at h ⊢
        split at h
        · cases h
        · rename_i hcopied
          cases h
          rw [if_neg (by omega), History.size_appendMatch]
          exact ⟨rfl, by omega⟩

theorem expand?_of_le {limit limit' : Nat} {out out' : History} {sequences : List Sequence}
    (hle : limit ≤ limit') (hsize : out.size ≤ limit)
    (h : expand? limit out sequences = some out') :
    expand? limit' out sequences = some out' ∧ out'.size ≤ limit := by
  induction sequences generalizing out with
  | nil =>
      cases h
      exact ⟨rfl, hsize⟩
  | cons s rest ih =>
      rw [expand?] at h ⊢
      rcases hfirst : s.expand? limit out with _ | next
      · rw [hfirst] at h
        cases h
      · rw [hfirst] at h
        rcases Sequence.expand?_of_le hle hfirst with ⟨hlarger, hnext⟩
        rw [hlarger]
        exact ih hnext h

/-- A block does not expand to its input within less than the size of it. -/
theorem decodeBlock?_encodeBlock_of_lt {limit : Nat} {input : Bytes} (h : limit < input.length) :
    decodeBlock? limit (encodeBlock input) = none := by
  have hwhole := decodeBlock?_encodeBlock input
  rw [decodeBlock?] at hwhole ⊢
  rcases hread : sequences? (encodeBlock input) with _ | sequences
  · rfl
  · rw [hread] at hwhole
    simp only at hwhole ⊢
    rcases hexpand : expand? limit #[] sequences with _ | out
    · rfl
    · -- what comes out within the smaller limit is the input, which is longer than that
      rcases expand?_of_le (Nat.le_of_lt h) (Nat.zero_le _) hexpand with ⟨hsame, hsize⟩
      rw [hsame] at hwhole
      have hinput : out.toList = input := Option.some.inj hwhole
      have hlength : out.size = input.length := by rw [← hinput, Array.length_toList]
      omega

/-- An input above the cap is refused, whatever the size field is left with of its size. -/
theorem decode?_encode_of_lt {cap : Nat} {input : Bytes} (hcap : cap < input.length) :
    decode? cap (encode input) = none := by
  have hread := Bytes.readLittle?_littleEndian
    (Nat.mod_lt input.length (show 0 < Nat.pow 256 4 by decide)) (encodeBlock input)
  rw [decode?, encode, ← Bytes.littleEndian_mod, hread]
  simp only
  split
  · rfl
  · rename_i hfits
    exact decodeBlock?_encodeBlock_of_lt (Nat.lt_of_le_of_lt (Nat.le_of_not_lt hfits) hcap)

end SessionNet.Compression.Lz4
