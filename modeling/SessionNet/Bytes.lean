/-!
# Byte strings

Bytes as lists, the form in which frames, messages and ciphertexts are taken apart. Fixed-width
unsigned fields are written and read in both byte orders; `takeExactly?` cuts off a known number of
bytes or reports that they have not all arrived, walking no further than that number.
-/

namespace SessionNet

/-- A string of bytes. -/
abbrev Bytes := List UInt8

namespace Bytes

/-! ## Fixed-width fields -/

/-- The `width` low-order bytes of `n`, most significant first. -/
def bigEndian : (width : Nat) → (n : Nat) → Bytes
  | 0, _ => []
  | width + 1, n => UInt8.ofNat (n / Nat.pow 256 width) :: bigEndian width n

/-- The `width` low-order bytes of `n`, least significant first. -/
def littleEndian : (width : Nat) → (n : Nat) → Bytes
  | 0, _ => []
  | width + 1, n => UInt8.ofNat n :: littleEndian width (n / 256)

/-- The number whose base-256 digits are `bs`, most significant first. -/
def toNatBig (bs : Bytes) : Nat :=
  bs.foldl (fun n b => 256 * n + b.toNat) 0

/-- The number whose base-256 digits are `bs`, least significant first. -/
def toNatLittle : Bytes → Nat
  | [] => 0
  | b :: bs => b.toNat + 256 * toNatLittle bs

/-! ## Cutting -/

/-- Split off the first `n` bytes behind those already `taken`, which are newest first. -/
def takeAfter? (taken : Bytes) : (n : Nat) → Bytes → Option (Bytes × Bytes)
  | 0, bs => some (taken.reverse, bs)
  | _ + 1, [] => none
  | n + 1, b :: bs => takeAfter? (b :: taken) n bs

/-- Split off the first `n` bytes; nothing when there are fewer. -/
def takeExactly? (n : Nat) (bs : Bytes) : Option (Bytes × Bytes) := takeAfter? [] n bs

/-- A big-endian field of `width` bytes, with the bytes after it. -/
def readBig? (width : Nat) (bs : Bytes) : Option (Nat × Bytes) :=
  (takeExactly? width bs).map fun (field, rest) => (toNatBig field, rest)

/-- A little-endian field of `width` bytes, with the bytes after it. -/
def readLittle? (width : Nat) (bs : Bytes) : Option (Nat × Bytes) :=
  (takeExactly? width bs).map fun (field, rest) => (toNatLittle field, rest)

/-- The first byte and the rest. -/
def next? : Bytes → Option (UInt8 × Bytes)
  | [] => none
  | b :: bs => some (b, bs)

/-! ## Basic facts -/

@[simp] theorem length_bigEndian (width n : Nat) : (bigEndian width n).length = width := by
  induction width with
  | zero => rfl
  | succ width ih => simp [bigEndian, ih]

@[simp] theorem length_littleEndian (width n : Nat) : (littleEndian width n).length = width := by
  induction width generalizing n with
  | zero => rfl
  | succ width ih => simp [littleEndian, ih]

theorem takeAfter?_eq_some_iff {taken : Bytes} {n : Nat} {bs front rest : Bytes} :
    takeAfter? taken n bs = some (front, rest) ↔
      ∃ cut, bs = cut ++ rest ∧ cut.length = n ∧ front = taken.reverse ++ cut := by
  induction n generalizing bs taken with
  | zero =>
    simp only [takeAfter?, Option.some.injEq, Prod.mk.injEq, List.length_eq_zero_iff]
    constructor
    · rintro ⟨rfl, rfl⟩
      exact ⟨[], rfl, rfl, by simp⟩
    · rintro ⟨cut, rfl, rfl, rfl⟩
      simp
  | succ n ih =>
    cases bs with
    | nil =>
      simp only [takeAfter?, reduceCtorEq, false_iff, not_exists, not_and]
      intro cut hcut hlen
      cases cut <;> simp_all
    | cons b bs =>
      rw [takeAfter?, ih]
      constructor
      · rintro ⟨cut, rfl, rfl, rfl⟩
        exact ⟨b :: cut, rfl, rfl, by simp⟩
      · rintro ⟨cut, hcut, hlen, rfl⟩
        cases cut with
        | nil => cases hlen
        | cons c cut =>
          simp only [List.cons_append, List.cons.injEq] at hcut
          obtain ⟨rfl, rfl⟩ := hcut
          exact ⟨cut, rfl, by simpa using hlen, by simp⟩

/-- Cutting succeeds exactly when the input starts with that many bytes. -/
theorem takeExactly?_eq_some_iff {n : Nat} {bs front rest : Bytes} :
    takeExactly? n bs = some (front, rest) ↔ bs = front ++ rest ∧ front.length = n := by
  rw [takeExactly?, takeAfter?_eq_some_iff]
  constructor
  · rintro ⟨cut, rfl, rfl, rfl⟩
    simp
  · rintro ⟨rfl, rfl⟩
    exact ⟨front, rfl, rfl, by simp⟩

theorem takeAfter?_eq_none_iff {taken : Bytes} {n : Nat} {bs : Bytes} :
    takeAfter? taken n bs = none ↔ bs.length < n := by
  induction n generalizing bs taken with
  | zero => simp [takeAfter?]
  | succ n ih =>
    cases bs with
    | nil => simp [takeAfter?]
    | cons b bs => simp [takeAfter?, ih]

/-- Cutting fails exactly when too few bytes are left. -/
theorem takeExactly?_eq_none_iff {n : Nat} {bs : Bytes} :
    takeExactly? n bs = none ↔ bs.length < n := takeAfter?_eq_none_iff

end Bytes

end SessionNet
