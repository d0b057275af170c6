import SessionNet.Bytes

/-!
# Fields in byte strings

What a fixed-width field is written as reads back as the same number, in both byte orders, and a
big-endian field is the only way to write its number. Cutting a field off is stable: bytes that
arrive later end up behind the rest and change nothing else.
-/

namespace SessionNet
namespace Bytes

/-! ## Big-endian numbers -/

theorem foldl_big (bs : Bytes) (start : Nat) :
    bs.foldl (fun n b => 256 * n + b.toNat) start =
      start * Nat.pow 256 bs.length + toNatBig bs := by
  -- what the fold starts from is shifted once for every byte that follows
  induction bs generalizing start with
  | nil =>
      have hone : Nat.pow 256 0 = 1 := rfl
      simp only [toNatBig, List.foldl_nil, List.length_nil, hone]
      omega
  | cons b bs ih =>
      have hpow : Nat.pow 256 (bs.length + 1) = Nat.pow 256 bs.length * 256 := rfl
      have hhead := ih (256 * 0 + b.toNat)
      rw [toNatBig, List.foldl_cons, List.foldl_cons, ih, hhead, List.length_cons, hpow]
      have hleft : 256 * start * Nat.pow 256 bs.length = start * (Nat.pow 256 bs.length * 256) := by
        rw [Nat.mul_comm 256 start, Nat.mul_assoc, Nat.mul_comm 256]
      have hdist := Nat.add_mul (256 * start) b.toNat (Nat.pow 256 bs.length)
      have hzero : 256 * 0 + b.toNat = b.toNat := by omega
      rw [hzero]
      omega

theorem toNatBig_cons (b : UInt8) (bs : Bytes) :
    toNatBig (b :: bs) = b.toNat * Nat.pow 256 bs.length + toNatBig bs := by
  have hfold := foldl_big bs (256 * 0 + b.toNat)
  have hzero : 256 * 0 + b.toNat = b.toNat := by omega
  rw [hzero] at hfold
  rw [← hfold, toNatBig, List.foldl_cons, hzero]

theorem toNatBig_lt (bs : Bytes) : toNatBig bs < Nat.pow 256 bs.length := by
  induction bs with
  | nil => exact Nat.one_pos
  | cons b bs ih =>
      have hpow : Nat.pow 256 (b :: bs).length = 256 * Nat.pow 256 bs.length := Nat.mul_comm _ _
      -- the tail cannot make up for one unit of the head digit
      have hdigit : (b.toNat + 1) * Nat.pow 256 bs.length ≤ 256 * Nat.pow 256 bs.length :=
        Nat.mul_le_mul_right _ b.toNat_lt
      rw [Nat.add_mul] at hdigit
      rw [toNatBig_cons, hpow]
      omega

/-- A field holds its number up to a multiple of what the width can hold. -/
theorem toNatBig_bigEndian_mod (width n : Nat) :
    toNatBig (bigEndian width n) = n % Nat.pow 256 width := by
  induction width with
  | zero => exact (Nat.mod_one n).symm
  | succ width ih =>
      have hdigit :
          (UInt8.ofNat (n / Nat.pow 256 width)).toNat = n / Nat.pow 256 width % 256 := by
        simp
      have hsplit :
          n % Nat.pow 256 (width + 1) =
            n % Nat.pow 256 width + Nat.pow 256 width * (n / Nat.pow 256 width % 256) :=
        Nat.mod_mul
      rw [bigEndian, toNatBig_cons, length_bigEndian, ih, hdigit, hsplit, Nat.add_comm,
        Nat.mul_comm]

theorem toNatBig_bigEndian {width n : Nat} (h : n < Nat.pow 256 width) :
    toNatBig (bigEndian width n) = n := by
  rw [toNatBig_bigEndian_mod, Nat.mod_eq_of_lt h]

/-- Only the digits below the width are written. -/
theorem bigEndian_add_mul (width n k : Nat) :
    bigEndian width (k * Nat.pow 256 width + n) = bigEndian width n := by
  induction width generalizing k with
  | zero => rfl
  | succ width ih =>
      have hpow :
          k * Nat.pow 256 (width + 1) = k * 256 * Nat.pow 256 width := by
        rw [Nat.mul_assoc, Nat.mul_comm 256]
        rfl
      have hpos : 0 < Nat.pow 256 width := Nat.pow_pos (by omega)
      have hdiv :
          (k * 256 * Nat.pow 256 width + n) / Nat.pow 256 width =
            n / Nat.pow 256 width + k * 256 := by
        rw [Nat.add_comm, Nat.add_mul_div_right _ _ hpos]
      -- the digit is truncated to a byte, which drops the multiple of 256
      have hdigit :
          UInt8.ofNat (n / Nat.pow 256 width + k * 256) =
            UInt8.ofNat (n / Nat.pow 256 width) := by
        apply UInt8.toNat.inj
        simp
      rw [bigEndian, bigEndian, hpow, hdiv, hdigit, ih]

/-- A field is what its number is written as. -/
theorem bigEndian_toNatBig (bs : Bytes) : bigEndian bs.length (toNatBig bs) = bs := by
  induction bs with
  | nil => rfl
  | cons b bs ih =>
      have hpos : 0 < Nat.pow 256 bs.length := Nat.pow_pos (by omega)
      -- the tail is worth less than one unit of the head digit
      have hhead :
          (b.toNat * Nat.pow 256 bs.length + toNatBig bs) / Nat.pow 256 bs.length = b.toNat := by
        rw [Nat.add_comm, Nat.add_mul_div_right _ _ hpos, Nat.div_eq_of_lt (toNatBig_lt bs)]
        omega
      rw [toNatBig_cons, List.length_cons, bigEndian, hhead, bigEndian_add_mul, ih]
      simp

/-! ## Little-endian numbers -/

theorem toNatLittle_littleEndian {width n : Nat} (h : n < Nat.pow 256 width) :
    toNatLittle (littleEndian width n) = n := by
  induction width generalizing n with
  | zero =>
      have hzero : n < 1 := h
      simp only [littleEndian, toNatLittle]
      omega
  | succ width ih =>
      have hpow : n < Nat.pow 256 width * 256 := h
      have hrest : n / 256 < Nat.pow 256 width := Nat.div_lt_of_lt_mul (by omega)
      have hdigit : (UInt8.ofNat n).toNat = n % 256 := by
        simp
      rw [littleEndian, toNatLittle, ih hrest, hdigit]
      omega

/-- The bytes that there is room for do not depend on the digits beyond them. -/
theorem littleEndian_mod (width n : Nat) :
    littleEndian width (n % Nat.pow 256 width) = littleEndian width n := by
  induction width generalizing n with
  | zero => rfl
  | succ width ih =>
      have hpow : Nat.pow 256 (width + 1) = 256 * Nat.pow 256 width := Nat.pow_succ'
      have hdigit : UInt8.ofNat (n % (256 * Nat.pow 256 width)) = UInt8.ofNat n := by
        apply UInt8.toNat.inj
        rw [UInt8.toNat_ofNat', UInt8.toNat_ofNat']
        exact Nat.mod_mul_right_mod n 256 _
      rw [littleEndian, littleEndian, hpow, hdigit, Nat.mod_mul_right_div_self, ih]

/-! ## Cutting -/

theorem takeExactly?_append {n : Nat} {front : Bytes} (h : front.length = n) (rest : Bytes) :
    takeExactly? n (front ++ rest) = some (front, rest) :=
  takeExactly?_eq_some_iff.2 ⟨rfl, h⟩

theorem readBig?_eq_some_iff {width n : Nat} {bs rest : Bytes} :
    readBig? width bs = some (n, rest) ↔
      bs = bigEndian width n ++ rest ∧ n < Nat.pow 256 width := by
  simp only [readBig?, Option.map_eq_some_iff, Prod.exists, Prod.mk.injEq,
    takeExactly?_eq_some_iff]
  constructor
  · rintro ⟨field, rest, ⟨rfl, rfl⟩, rfl, rfl⟩
    exact ⟨by rw [bigEndian_toNatBig], toNatBig_lt field⟩
  · rintro ⟨rfl, hlt⟩
    exact ⟨bigEndian width n, rest, ⟨rfl, length_bigEndian width n⟩, toNatBig_bigEndian hlt, rfl⟩

theorem readBig?_bigEndian {width n : Nat} (h : n < Nat.pow 256 width) (rest : Bytes) :
    readBig? width (bigEndian width n ++ rest) = some (n, rest) :=
  readBig?_eq_some_iff.2 ⟨rfl, h⟩

theorem readLittle?_littleEndian {width n : Nat} (h : n < Nat.pow 256 width) (rest : Bytes) :
    readLittle? width (littleEndian width n ++ rest) = some (n, rest) := by
  rw [readLittle?, takeExactly?_append (length_littleEndian width n)]
  simp [toNatLittle_littleEndian h]

end Bytes
end SessionNet
