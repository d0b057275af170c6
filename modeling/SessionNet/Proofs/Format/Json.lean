import Mathlib.Data.List.TakeDrop
import Mathlib.Data.List.TakeWhile
import SessionNet.Format
import SessionNet.Proofs.Message

/-!
# Reading JSON undoes writing it

What is written for a text, a number or a value is read back, whatever follows it, as long as the
value does not nest deeper than reading goes. Floating-point numbers are left out: they are read
back by rules of their own, which lose a bit now and then. Only white space may follow a message.
-/

namespace SessionNet.Format.Json

/-! ## Tokens -/

theorem skipSpace_cons {b : UInt8} (h : isSpace b = false) (bs : Bytes) :
    skipSpace (b :: bs) = b :: bs := by
  simp [skipSpace, h]

theorem expect?_cons {b : UInt8} (h : isSpace b = false) (bs : Bytes) :
    expect? b (b :: bs) = some bs := by
  simp [expect?, skipSpace_cons h]

theorem isEmpty_skipSpace (bs : Bytes) : (skipSpace bs).isEmpty = bs.all isSpace := by
  rw [Bool.eq_iff_iff, List.isEmpty_iff, List.all_eq_true, skipSpace, List.dropWhile_eq_nil_iff]

/-- What is checked of every number below a limit holds of every such byte. -/
@[elab_as_elim]
theorem byte_of_lt {motive : UInt8 → Prop} (limit : Nat) (b : UInt8) (h : b.toNat < limit)
    (all : ∀ n < limit, motive (UInt8.ofNat n)) : motive b := by
  have known := all b.toNat h
  rwa [UInt8.ofNat_toNat] at known

/-! ## Texts -/

/-- The number of a control character is written with two zeros and two digits. -/
theorem codeUnit?_hexDigit {b : UInt8} (control : b < 0x20) (bs : Bytes) :
    codeUnit? (0x30 :: 0x30 :: escapeByte.hexDigit (b / 16) :: escapeByte.hexDigit (b % 16) :: bs) =
      some (b.toNat, bs) := by
  have high : hexValue? (escapeByte.hexDigit (b / 16)) = some (b.toNat / 16) :=
    byte_of_lt 32 b control (by decide)
  have low : hexValue? (escapeByte.hexDigit (b % 16)) = some (b.toNat % 16) :=
    byte_of_lt 32 b control (by decide)
  have zero : hexValue? 0x30 = some 0 := by decide
  have value : ((0 * 16 + 0) * 16 + b.toNat / 16) * 16 + b.toNat % 16 = b.toNat := by omega
  simp only [codeUnit?, zero, high, low, Option.bind_eq_bind, Option.bind_some, value]

theorem utf8EncodeChar_control {b : UInt8} (control : b < 0x20) :
    String.utf8EncodeChar (Char.ofNat b.toNat) = [b] :=
  byte_of_lt 32 b control (by decide)

/-- A byte is read back from its escaped form. -/
theorem readQuoted?_escapeByte (b : UInt8) (fuel : Nat) (read bs : Bytes) :
    readQuoted? (fuel + 1) read (escapeByte b ++ bs) = readQuoted? fuel (b :: read) bs := by
  unfold escapeByte
  -- the escapes of one letter
  iterate 7
    split
    next h =>
      subst h
      rfl
  split
  next control =>
    have small : b.toNat < 0xd800 := Nat.lt_trans (m := 32) control (by decide)
    simp [readQuoted?, codeUnit?_hexDigit control, escapedChar?, small,
      utf8EncodeChar_control control]
  next quote backslash _ _ _ _ _ plain =>
    simp only [List.singleton_append, readQuoted?, quote, backslash, plain, if_false]

theorem readQuoted?_flatMap {raw : Bytes} {fuel : Nat} (enough : raw.length < fuel)
    (read rest : Bytes) :
    readQuoted? fuel read (raw.flatMap escapeByte ++ 0x22 :: rest) =
      some (read.reverse ++ raw, rest) := by
  induction raw generalizing fuel read with
  | nil =>
    obtain ⟨fuel, rfl⟩ := Nat.exists_eq_add_one.2 enough
    simp [readQuoted?]
  | cons b raw ih =>
    obtain ⟨fuel, rfl⟩ := Nat.exists_eq_add_one.2 (Nat.lt_of_le_of_lt (Nat.zero_le _) enough)
    rw [List.flatMap_cons, List.append_assoc, readQuoted?_escapeByte,
      ih (Nat.lt_of_succ_lt_succ enough)]
    simp

theorem length_lt_quoted (raw rest : Bytes) :
    raw.length < (raw.flatMap escapeByte ++ 0x22 :: rest).length + 1 := by
  induction raw with
  | nil => exact Nat.zero_lt_succ _
  | cons b raw ih =>
    have one : 1 ≤ (escapeByte b).length := by
      unfold escapeByte
      grind
    rw [List.flatMap_cons, List.append_assoc, List.length_append, List.length_cons]
    omega

theorem readText?_encodeText (s : String) (rest : Bytes) :
    readText? (encodeText s ++ rest) = some (s, rest) := by
  have quoted := readQuoted?_flatMap (length_lt_quoted (Text.utf8 s) rest) [] rest
  simp only [encodeText, List.cons_append, List.append_assoc, List.nil_append, readText?,
    expect?_cons (b := 0x22) rfl, quoted, List.reverse_nil, Text.ofUtf8?_utf8, Option.map_some]

/-! ## Digits -/

/-- Induction over the digits of a number, from its first one to its last. -/
@[elab_as_elim]
theorem digitInduction {motive : Nat → Prop} (one : ∀ n, n < 10 → motive n)
    (more : ∀ n, 10 ≤ n → motive (n / 10) → motive n) (n : Nat) : motive n := by
  induction n using Nat.strongRecOn with
  | ind n ih =>
    by_cases small : n < 10
    · exact one n small
    · exact more n (Nat.le_of_not_lt small) (ih (n / 10) (by omega))

theorem natText_of_lt {n : Nat} (h : n < 10) :
    ascii (Number.natText n) = [0x30 + UInt8.ofNat n] := by
  have all : ∀ n < 10, ascii (Number.natText n) = [0x30 + UInt8.ofNat n] := by decide +kernel
  exact all n h

theorem natText_of_le {n : Nat} (h : 10 ≤ n) :
    ascii (Number.natText n) =
      ascii (Number.natText (n / 10)) ++ [0x30 + UInt8.ofNat (n % 10)] := by
  have last : n % 10 < 10 := Nat.mod_lt _ (by decide)
  rw [← natText_of_lt last, Number.natText, Nat.toDigits_of_base_le (by decide) h,
    String.ofList_append, ← Nat.toDigits_of_lt_base last]
  simp [ascii, Text.utf8, Number.natText]

theorem isDigit_of_mem_natText {n : Nat} {b : UInt8} (h : b ∈ ascii (Number.natText n)) :
    isDigit b = true := by
  have digit : ∀ n < 10, isDigit (0x30 + UInt8.ofNat n) = true := by decide
  induction n using digitInduction with
  | one n small =>
    rw [natText_of_lt small, List.mem_singleton] at h
    exact h ▸ digit n small
  | more n large ih =>
    rw [natText_of_le large, List.mem_append, List.mem_singleton] at h
    rcases h with h | rfl
    · exact ih h
    · exact digit _ (Nat.mod_lt _ (by decide))

/-- A number has a first digit, and only zero begins with a zero. -/
theorem natText_eq_cons (n : Nat) : ∃ d ds,
    ascii (Number.natText n) = d :: ds ∧ (d = 0x30 → ds = []) := by
  have zero : ∀ n < 10, 0x30 + UInt8.ofNat n = 0x30 → n = 0 := by decide
  have leading : ∃ d ds, ascii (Number.natText n) = d :: ds ∧ (d = 0x30 → n = 0) := by
    induction n using digitInduction with
    | one n small => exact ⟨_, [], natText_of_lt small, zero n small⟩
    | more n large ih =>
      obtain ⟨d, ds, digits, first⟩ := ih
      refine ⟨d, _, by rw [natText_of_le large, digits, List.cons_append], ?_⟩
      intro isZero
      -- the first digit belongs to a number that is not zero
      have none := first isZero
      omega
  obtain ⟨d, ds, digits, first⟩ := leading
  refine ⟨d, ds, digits, ?_⟩
  intro isZero
  rw [first isZero] at digits
  exact (List.cons.inj (digits.symm.trans (natText_of_lt (by decide)))).2

theorem accumulate_append {ds : Bytes} {start next : Nat} (h : accumulate start ds = (next, []))
    (more : Bytes) : accumulate start (ds ++ more) = accumulate next more := by
  induction ds generalizing start with
  | nil =>
    cases h
    rfl
  | cons d ds ih =>
    rw [accumulate] at h
    rw [List.cons_append, accumulate]
    split at h
    · cases h
    · next small => rw [if_neg small, ih h]

theorem accumulate_digit {start digit : Nat} (h : digit < 10)
    (fits : start * 10 + digit ≤ maxUnsigned) :
    accumulate start [0x30 + UInt8.ofNat digit] = (start * 10 + digit, []) := by
  have values : ∀ n < 10, (0x30 + UInt8.ofNat n).toNat - 0x30 = n := by decide
  rw [accumulate, values digit h, if_neg (Nat.not_lt.2 fits), accumulate]

/-- The digits of a number add up to it. -/
theorem accumulate_natText {n : Nat} (h : n ≤ maxUnsigned) :
    accumulate 0 (ascii (Number.natText n)) = (n, []) := by
  induction n using digitInduction with
  | one n small =>
    rw [natText_of_lt small, accumulate_digit small (by omega)]
    simp
  | more n large ih =>
    have value : n / 10 * 10 + n % 10 = n := by omega
    rw [natText_of_le large, accumulate_append (ih (by omega)),
      accumulate_digit (Nat.mod_lt _ (by decide)) (by omega), value]

/-! ## Numbers -/

/-- What follows a number begins with a comma or closes what the number stands in. -/
def EndsNumber (bs : Bytes) : Prop :=
  ∃ b rest, bs = b :: rest ∧ (b = 0x2c ∨ b = 0x5d ∨ b = 0x7d)

variable {tail : Bytes}

theorem takeDigits_natText (n : Nat) (ends : EndsNumber tail) :
    takeDigits (ascii (Number.natText n) ++ tail) = (ascii (Number.natText n), tail) := by
  obtain ⟨b, rest, rfl, separator⟩ := ends
  have noDigit : isDigit b = false := by rcases separator with rfl | rfl | rfl <;> rfl
  have digits : ∀ d ∈ ascii (Number.natText n), isDigit d = true := fun d => isDigit_of_mem_natText
  rw [takeDigits, List.span_eq_takeWhile_dropWhile, List.takeWhile_append_of_pos digits,
    List.dropWhile_append_of_pos digits]
  simp [noDigit]

/-- A number that fits in 64 bits is read to its last digit. -/
theorem readUnsigned?_natText (negative : Bool) {n : Nat} (h : n ≤ maxUnsigned)
    (ends : EndsNumber tail) :
    readUnsigned? negative (ascii (Number.natText n) ++ tail) =
      if !negative then some (.unsigned n, tail)
      else if n = 0 ∨ Nat.pow 2 63 < n then
        some (.float (Number.Floating.double.signed true (Number.Floating.double.ofNat n)), tail)
      else some (.negative n, tail) := by
  have sum := accumulate_natText h
  have taken := takeDigits_natText n ends
  obtain ⟨d, ds, digits, leading⟩ := natText_eq_cons n
  rw [digits] at sum taken ⊢
  simp only [readUnsigned?, taken]
  split
  next noDigit => cases noDigit
  next zero =>
    obtain ⟨isZero, more⟩ := List.cons.inj zero
    cases more.symm.trans (leading isZero)
  simp only [sum]
  -- no separator continues the number
  obtain ⟨b, rest, rfl, separator⟩ := ends
  rcases separator with rfl | rfl | rfl <;> rfl

/-- A digit is no other token. -/
theorem isSpace_of_isDigit {b : UInt8} (h : isDigit b = true) :
    isSpace b = false ∧ b ≠ 0x2d ∧ b ≠ 0x5d := by
  revert h
  exact byte_of_lt 256 b b.toNat_lt (by decide +kernel)

theorem readNumeral?_natText {n : Nat} (h : n ≤ maxUnsigned) (ends : EndsNumber tail) :
    readNumeral? (ascii (Number.natText n) ++ tail) = some (.unsigned n, tail) := by
  have read := readUnsigned?_natText false h ends
  obtain ⟨d, ds, digits, -⟩ := natText_eq_cons n
  obtain ⟨notSpace, notMinus, -⟩ := isSpace_of_isDigit (b := d)
    (isDigit_of_mem_natText (digits ▸ List.mem_cons_self))
  rw [digits, List.cons_append] at read ⊢
  simp only [readNumeral?, skipSpace_cons notSpace]
  split
  next minus =>
    -- a digit is no sign
    exact absurd (List.cons.inj minus).1 notMinus
  next => exact read

theorem readInt?_encodeInt (n : Int64) (ends : EndsNumber tail) :
    readInt? (encodeInt n.toInt ++ tail) = some (n, tail) := by
  unfold encodeInt
  split
  next positive =>
    have small := Integer.toNat_lt n
    have fits : n.toInt.toNat ≤ maxUnsigned := Nat.le_trans (Nat.le_of_lt small) (by decide)
    simp only [readInt?, readNumeral?_natText fits ends, small, if_true,
      Integer.ofNat_toNat positive]
  next negative =>
    have fits := Integer.natAbs_le n
    have read := readUnsigned?_natText true (Nat.le_trans fits (by decide)) ends
    rw [if_neg (by decide), if_neg (by omega)] at read
    simp only [readInt?, readNumeral?, List.cons_append, skipSpace_cons (b := 0x2d) rfl, read,
      Integer.ofInt_natAbs negative]

theorem readByte?_natText (n : UInt8) (ends : EndsNumber tail) :
    readByte? (ascii (Number.natText n.toNat) ++ tail) = some (n, tail) := by
  have small : n.toNat < 256 := n.toNat_lt
  have fits : n.toNat ≤ maxUnsigned := Nat.le_trans (Nat.le_of_lt small) (by decide)
  simp only [readByte?, readNumeral?_natText fits ends, small, if_true, UInt8.ofNat_toNat]

/-! ## Elements

Between brackets or braces every element but the first one has a comma in front of it.
-/

/-- What follows is no white space and does not close what it stands in. -/
def Opens (closing : UInt8) (bs : Bytes) : Prop :=
  ∃ b rest, bs = b :: rest ∧ isSpace b = false ∧ b ≠ closing

/-- Elements as they are written, the first one without its comma. -/
def behind (isFirst : Bool) (elements : Bytes) : Bytes :=
  if isFirst then elements.drop 1 else elements

section

variable {closing : UInt8} {bs body : Bytes}

theorem Opens.append (opens : Opens closing bs) (more : Bytes) : Opens closing (bs ++ more) := by
  obtain ⟨b, rest, rfl, notSpace, notClosing⟩ := opens
  exact ⟨b, rest ++ more, rfl, notSpace, notClosing⟩

theorem Opens.skipSpace_eq (opens : Opens closing bs) : skipSpace bs = bs := by
  obtain ⟨b, rest, rfl, notSpace, -⟩ := opens
  exact skipSpace_cons notSpace rest

theorem Opens.ne_closing (opens : Opens closing bs) (rest : Bytes) : bs ≠ closing :: rest := by
  obtain ⟨b, rest', rfl, -, notClosing⟩ := opens
  intro same
  exact notClosing (List.cons.inj same).1

@[simp] theorem behind_nil (isFirst : Bool) : behind isFirst [] = [] := by
  cases isFirst <;> rfl

@[simp] theorem behind_false (elements : Bytes) : behind false elements = elements := rfl

theorem behind_comma (isFirst : Bool) (body : Bytes) :
    behind isFirst (0x2c :: body) = behind isFirst [0x2c] ++ body := by
  cases isFirst <;> rfl

/-- The comma does not look like an end either. -/
theorem Opens.behind (opens : Opens closing body) (notComma : 0x2c ≠ closing) (isFirst : Bool) :
    Opens closing (behind isFirst [0x2c] ++ body) := by
  cases isFirst with
  | true => exact opens
  | false => exact ⟨0x2c, body, rfl, rfl, notComma⟩

theorem expect?_behind (isFirst : Bool) (body : Bytes) :
    (if isFirst then some (behind isFirst [0x2c] ++ body)
      else expect? 0x2c (behind isFirst [0x2c] ++ body)) = some body := by
  cases isFirst <;> rfl

theorem opens_encodeText (s : String) (closing : UInt8) (h : 0x22 ≠ closing) :
    Opens closing (encodeText s) :=
  ⟨0x22, _, rfl, rfl, h⟩

theorem opens_natText (n : Nat) : Opens 0x5d (ascii (Number.natText n)) := by
  obtain ⟨d, ds, digits, -⟩ := natText_eq_cons n
  obtain ⟨notSpace, -, notClosing⟩ := isSpace_of_isDigit (b := d)
    (isDigit_of_mem_natText (digits ▸ List.mem_cons_self))
  exact ⟨d, ds, digits, notSpace, notClosing⟩

end

/-! ## Bytes -/

theorem readByteItems?_next (b : UInt8) (fuel : Nat) (read : Bytes) (ends : EndsNumber tail) :
    readByteItems? (fuel + 1) read
        (behind read.isEmpty [0x2c] ++ (ascii (Number.natText b.toNat) ++ tail)) =
      readByteItems? fuel (b :: read) tail := by
  have opens := ((opens_natText b.toNat).append tail).behind (by decide) read.isEmpty
  simp only [readByteItems?, opens.skipSpace_eq]
  split
  next bs closed => exact absurd closed (opens.ne_closing bs)
  next => simp only [expect?_behind, readByte?_natText b ends]

theorem readByteItems?_flatMap {bs : Bytes} {fuel : Nat} (enough : bs.length < fuel)
    (read rest : Bytes) :
    readByteItems? fuel read
        (behind read.isEmpty (bs.flatMap fun b => 0x2c :: ascii (Number.natText b.toNat)) ++
          0x5d :: rest) =
      some (read.reverse ++ bs, rest) := by
  induction bs generalizing fuel read with
  | nil =>
    obtain ⟨fuel, rfl⟩ := Nat.exists_eq_add_one.2 enough
    simp [readByteItems?, skipSpace_cons (b := 0x5d) rfl]
  | cons b bs ih =>
    obtain ⟨fuel, rfl⟩ := Nat.exists_eq_add_one.2 (Nat.zero_lt_of_lt enough)
    -- a comma or the bracket, whichever comes next
    have ends : EndsNumber
        ((bs.flatMap fun b => 0x2c :: ascii (Number.natText b.toNat)) ++ 0x5d :: rest) := by
      cases bs with
      | nil => exact ⟨0x5d, rest, rfl, by decide⟩
      | cons b bs => exact ⟨0x2c, _, rfl, by decide⟩
    have others := ih (Nat.lt_of_succ_lt_succ enough) (b :: read)
    rw [List.flatMap_cons, List.cons_append, behind_comma, List.append_assoc, List.append_assoc,
      readByteItems?_next b fuel read ends]
    simpa using others

theorem length_lt_byteItems (bs rest : Bytes) :
    bs.length < ((bs.flatMap fun b => 0x2c :: ascii (Number.natText b.toNat)).drop 1 ++
      0x5d :: rest).length + 1 := by
  have commas :
      bs.length ≤ (bs.flatMap fun b => 0x2c :: ascii (Number.natText b.toNat)).length := by
    induction bs with
    | nil => exact Nat.le_refl _
    | cons b bs ih =>
      rw [List.flatMap_cons, List.length_append, List.length_cons, List.length_cons]
      omega
  rw [List.length_append, List.length_drop, List.length_cons]
  omega

/-! ## Values -/

/-- A value is read back from its bytes, given that much fuel and the depth it needs: every list or
map stands in an object of its own, and so do the numbers of bytes. -/
def Restores (v : Value) : Prop :=
  ∀ fuel depth rest, (encodeValue v).length ≤ fuel → 2 * v.nesting + 2 ≤ depth →
    readValue? fuel depth (encodeValue v ++ rest) = some (v, rest)

/-- A content that is read back makes a value that is. -/
theorem readValue?_encodeKind {name : String} {content rest : Bytes} {v : Value} {fuel depth : Nat}
    (h : readContent? fuel depth name (content ++ 0x7d :: rest) = some (v, 0x7d :: rest)) :
    readValue? (fuel + 1) (depth + 1) (encodeKind name content ++ rest) = some (v, rest) := by
  simp only [encodeKind, List.cons_append, List.append_assoc, List.nil_append, readValue?,
    skipSpace_cons (b := 0x7b) rfl, readText?_encodeText, expect?_cons (b := 0x3a) rfl, h,
    expect?_cons (b := 0x7d) rfl]

theorem opens_encodeValue (v : Value) : Opens 0x5d (encodeValue v) := by
  cases v with
  | null => exact opens_encodeText "Null" _ (by decide)
  | bool | int | float | text | bytes | list | map => exact ⟨0x7b, _, rfl, rfl, by decide⟩

theorem readItems?_next {v : Value} (restores : Restores v) {fuel depth : Nat} (read : List Value)
    (enough : (encodeValue v).length ≤ fuel) (room : 2 * v.nesting + 2 ≤ depth) :
    readItems? (fuel + 1) depth read (behind read.isEmpty [0x2c] ++ (encodeValue v ++ tail)) =
      readItems? fuel depth (v :: read) tail := by
  have opens := ((opens_encodeValue v).append tail).behind (by decide) read.isEmpty
  simp only [readItems?, opens.skipSpace_eq]
  split
  next bs closed => exact absurd closed (opens.ne_closing bs)
  next => simp only [expect?_behind, restores fuel depth tail enough room]

theorem readItems?_encodeItems {items : List Value} (restores : ∀ v ∈ items, Restores v)
    {fuel depth : Nat} (enough : (encodeItems items).length < fuel)
    (room : 2 * Value.nestingOfItems items + 2 ≤ depth) (read : List Value) (rest : Bytes) :
    readItems? fuel depth read (behind read.isEmpty (encodeItems items) ++ 0x5d :: rest) =
      some (read.reverse ++ items, rest) := by
  induction items generalizing fuel read with
  | nil =>
    obtain ⟨fuel, rfl⟩ := Nat.exists_eq_add_one.2 (Nat.zero_lt_of_lt enough)
    simp [encodeItems, readItems?, skipSpace_cons (b := 0x5d) rfl]
  | cons v vs ih =>
    obtain ⟨fuel, rfl⟩ := Nat.exists_eq_add_one.2 (Nat.zero_lt_of_lt enough)
    rw [encodeItems, List.length_cons, List.length_append] at enough
    rw [Value.nestingOfItems] at room
    have left : (encodeItems vs).length < fuel := by omega
    have others := ih (fun v hmem => restores v (List.mem_cons_of_mem _ hmem)) left (by omega)
      (v :: read)
    rw [encodeItems, behind_comma, List.append_assoc, List.append_assoc,
      readItems?_next (restores v List.mem_cons_self) read (by omega) (by omega)]
    simpa using others

theorem readEntries?_next {v : Value} (restores : Restores v) {fuel depth : Nat} (isFirst : Bool)
    (key : String) (before : Entries) (enough : (encodeValue v).length ≤ fuel)
    (room : 2 * v.nesting + 2 ≤ depth) :
    readEntries? (fuel + 1) depth isFirst before
        (behind isFirst [0x2c] ++ (encodeText key ++ 0x3a :: (encodeValue v ++ tail))) =
      readEntries? fuel depth false (before.insert key v) tail := by
  have opens := ((opens_encodeText key 0x7d (by decide)).append
    (0x3a :: (encodeValue v ++ tail))).behind (by decide) isFirst
  simp only [readEntries?, opens.skipSpace_eq]
  split
  next bs closed => exact absurd closed (opens.ne_closing bs)
  next =>
    simp only [expect?_behind, readText?_encodeText, expect?_cons (b := 0x3a) rfl,
      restores fuel depth tail enough room]

theorem readEntries?_encodeEntries {entries : Entries}
    (restores : ∀ entry ∈ entries, Restores entry.2) (before : Entries)
    (ascending : Entries.Ascending (before ++ entries)) {fuel depth : Nat}
    (enough : (encodeEntries entries).length < fuel)
    (room : 2 * Value.nestingOfEntries entries + 2 ≤ depth) (isFirst : Bool) (rest : Bytes) :
    readEntries? fuel depth isFirst before
        (behind isFirst (encodeEntries entries) ++ 0x7d :: rest) =
      some (before ++ entries, rest) := by
  induction entries generalizing fuel isFirst before with
  | nil =>
    obtain ⟨fuel, rfl⟩ := Nat.exists_eq_add_one.2 (Nat.zero_lt_of_lt enough)
    simp [encodeEntries, readEntries?, skipSpace_cons (b := 0x7d) rfl]
  | cons entry entries ih =>
    obtain ⟨key, v⟩ := entry
    obtain ⟨fuel, rfl⟩ := Nat.exists_eq_add_one.2 (Nat.zero_lt_of_lt enough)
    rw [encodeEntries, List.length_cons, List.length_append, List.length_cons,
      List.length_append] at enough
    rw [Value.nestingOfEntries] at room
    have restored : Restores v := restores (key, v) List.mem_cons_self
    -- the key is beyond all keys before it, so its entry is put last
    have inserted := Entries.insert_of_ascending ascending
    rw [List.append_cons] at ascending
    have left : (encodeEntries entries).length < fuel := by omega
    have others := ih (fun entry hmem => restores entry (List.mem_cons_of_mem _ hmem)) _ ascending
      left (by omega) false
    rw [encodeEntries, behind_comma, List.append_assoc, List.append_assoc, List.cons_append,
      List.append_assoc, readEntries?_next restored isFirst key before (by omega) (by omega),
      inserted]
    simpa using others

theorem restores_null : Restores .null := by
  intro fuel depth rest enough _
  obtain ⟨fuel, rfl⟩ : ∃ less, fuel = less + 1 := Nat.exists_eq_add_one.2 (Nat.zero_lt_of_lt enough)
  have read := readText?_encodeText "Null" rest
  rw [encodeText, List.cons_append] at read
  simp only [encodeValue, encodeText, List.cons_append, readValue?, skipSpace_cons (b := 0x22) rfl,
    read, if_true]

theorem length_lt_encodeKind (name : String) (content : Bytes) :
    content.length + 3 < (encodeKind name content).length := by
  simp only [encodeKind, encodeText, List.length_cons, List.length_append, List.length_nil]
  omega

/-- A value of a kind is read back if its content is, with less fuel and depth. -/
theorem restores_of_content {v : Value} {name : String} {content : Bytes}
    (written : encodeValue v = encodeKind name content)
    (h : ∀ fuel depth rest, content.length ≤ fuel → 2 * v.nesting + 2 ≤ depth + 1 →
      readContent? (fuel + 1) depth name (content ++ 0x7d :: rest) = some (v, 0x7d :: rest)) :
    Restores v := by
  intro fuel depth rest enough room
  have long := length_lt_encodeKind name content
  rw [written] at enough ⊢
  -- the object around the content takes up fuel for two steps and one level
  obtain ⟨fuel, rfl⟩ : ∃ less, fuel = less + 2 := ⟨fuel - 2, by omega⟩
  obtain ⟨depth, rfl⟩ : ∃ less, depth = less + 1 := ⟨depth - 1, by omega⟩
  exact readValue?_encodeKind (h fuel depth rest (by omega) room)

theorem restores_bool (b : Bool) : Restores (.bool b) := by
  refine restores_of_content (by rw [encodeValue]) fun fuel depth rest _ _ => ?_
  have trueText : ascii "true" = [0x74, 0x72, 0x75, 0x65] := by decide +kernel
  have falseText : ascii "false" = [0x66, 0x61, 0x6c, 0x73, 0x65] := by decide +kernel
  cases b <;> simp [readContent?, skipSpace, isSpace, word?, trueText, falseText]

theorem restores_int (n : Int64) : Restores (.int n) := by
  refine restores_of_content (by rw [encodeValue]) fun fuel depth rest _ _ => ?_
  have ends : EndsNumber (0x7d :: rest) := ⟨0x7d, rest, rfl, by decide⟩
  simp only [readContent?, readInt?_encodeInt n ends, Option.map_some]

theorem restores_text (s : String) : Restores (.text s) := by
  refine restores_of_content (by rw [encodeValue]) fun fuel depth rest _ _ => ?_
  simp only [readContent?, readText?_encodeText, Option.map_some]

theorem restores_bytes (bs : Bytes) : Restores (.bytes bs) := by
  refine restores_of_content (by rw [encodeValue]) fun fuel depth rest _ room => ?_
  obtain ⟨depth, rfl⟩ : ∃ less, depth = less + 1 := ⟨depth - 1, by omega⟩
  have all := readByteItems?_flatMap (length_lt_byteItems bs (0x7d :: rest)) [] (0x7d :: rest)
  simp only [behind, List.isEmpty_nil, if_true, List.reverse_nil, List.nil_append] at all
  unfold readContent?
  simp only [encodeByteItems, List.cons_append, List.append_assoc, List.nil_append,
    expect?_cons (b := 0x5b) rfl, all, Option.map_some]

theorem restores_list {items : List Value} (restores : ∀ v ∈ items, Restores v) :
    Restores (.list items) := by
  refine restores_of_content (by rw [encodeValue]) fun fuel depth rest enough room => ?_
  rw [Value.nesting] at room
  obtain ⟨depth, rfl⟩ : ∃ less, depth = less + 1 := ⟨depth - 1, by omega⟩
  rw [List.length_cons, List.length_append, List.length_drop, List.length_singleton] at enough
  have left : (encodeItems items).length < fuel := by omega
  have levels : 2 * Value.nestingOfItems items + 2 ≤ depth := by omega
  have all := readItems?_encodeItems restores left levels [] (0x7d :: rest)
  simp only [behind, List.isEmpty_nil, if_true, List.reverse_nil, List.nil_append] at all
  unfold readContent?
  simp only [List.cons_append, List.append_assoc, List.nil_append,
    expect?_cons (b := 0x5b) rfl, all, Option.map_some]

theorem restores_map {entries : Entries} (restores : ∀ entry ∈ entries, Restores entry.2)
    (ascending : Entries.Ascending entries) : Restores (.map entries) := by
  refine restores_of_content (by rw [encodeValue]) fun fuel depth rest enough room => ?_
  rw [Value.nesting] at room
  obtain ⟨depth, rfl⟩ : ∃ less, depth = less + 1 := ⟨depth - 1, by omega⟩
  rw [List.length_cons, List.length_append, List.length_drop, List.length_singleton] at enough
  have left : (encodeEntries entries).length < fuel := by omega
  have levels : 2 * Value.nestingOfEntries entries + 2 ≤ depth := by omega
  have all := readEntries?_encodeEntries restores [] ascending left levels true (0x7d :: rest)
  simp only [behind, if_true, List.nil_append] at all
  unfold readContent?
  simp only [List.cons_append, List.append_assoc, List.nil_append,
    expect?_cons (b := 0x7b) rfl, all, Option.map_some]

/-- Every value without floating-point numbers whose maps are in order is read back. -/
theorem restores_of_ordered {v : Value} (ordered : v.Ordered) (noFloat : v.FloatFree) :
    Restores v := by
  induction v using Value.nestedInduction with
  | null => exact restores_null
  | bool b => exact restores_bool b
  | int n => exact restores_int n
  | float bits => cases noFloat.here
  | text s => exact restores_text s
  | bytes bs => exact restores_bytes bs
  | list items ih =>
    exact restores_list fun v hmem => ih v hmem (ordered.of_mem_list hmem)
      (noFloat.of_mem_list hmem)
  | map entries ih =>
    exact restores_map (fun entry hmem => ih entry hmem (ordered.of_mem_map hmem)
      (noFloat.of_mem_map hmem)) ordered.here

/-! ## Messages -/

theorem readEntryMap?_encodeEntries {m : Message} (ordered : m.Ordered)
    (noFloat : m.FloatFree) (nesting : m.nesting ≤ 61) (more : Bytes) :
    readEntryMap? (0x7b :: ((encodeEntries m.entries).drop 1 ++ 0x7d :: more)) =
      some (m.entries, more) := by
  have restores : ∀ entry ∈ m.entries, Restores entry.2 := fun entry hmem =>
    restores_of_ordered (Value.AllParts.of_mem_map ordered hmem)
      (Value.AllParts.of_mem_map noFloat hmem)
  -- the objects of the message and of its entries are two levels of the limit
  have room : 2 * Value.nestingOfEntries m.entries + 2 ≤ depthLimit - 2 := by
    rw [Message.nesting] at nesting
    change _ ≤ 125
    omega
  have enough : (encodeEntries m.entries).length <
      ((encodeEntries m.entries).drop 1 ++ 0x7d :: more).length + 1 := by
    rw [List.length_append, List.length_drop, List.length_cons]
    omega
  have all := readEntries?_encodeEntries restores [] ordered.here enough room true more
  simp only [behind, if_true, List.nil_append] at all
  simp only [readEntryMap?, expect?_cons (b := 0x7b) rfl, all]

theorem readFields?_entries {entries : Entries} {bs more : Bytes}
    (read : readEntryMap? bs = some (entries, 0x7d :: more)) {fuel : Nat} (enough : 1 < fuel) :
    readFields? fuel true none (encodeText "entries" ++ 0x3a :: bs) = some (entries, more) := by
  obtain ⟨fuel, rfl⟩ : ∃ less, fuel = less + 2 := ⟨fuel - 2, by omega⟩
  have opens := (opens_encodeText "entries" 0x7d (by decide)).append (0x3a :: bs)
  rw [readFields?, opens.skipSpace_eq]
  split
  next rest closed => exact absurd closed (opens.ne_closing rest)
  next =>
    simp only [if_true, readText?_encodeText, expect?_cons (b := 0x3a) rfl, Option.isSome_none,
      Bool.false_eq_true, if_false, read, readFields?, skipSpace_cons (b := 0x7d) rfl,
      Option.map_some]

/-- A message is read to its closing brace. -/
theorem readMessage?_encode {m : Message} (ordered : m.Ordered)
    (noFloat : m.FloatFree) (nesting : m.nesting ≤ 61) (more : Bytes) :
    readMessage? (encode m ++ more) = some (m, more) := by
  have read := readEntryMap?_encodeEntries ordered noFloat nesting (0x7d :: more)
  simp only [encode, List.cons_append, List.append_assoc, List.nil_append, readMessage?,
    skipSpace_cons (b := 0x7b) rfl]
  rw [readFields?_entries read (Nat.succ_lt_succ (by simp [encodeText]))]
  rfl

theorem decode?_encode {m : Message} (ordered : m.Ordered) (noFloat : m.FloatFree)
    (nesting : m.nesting ≤ 61) (more : Bytes) :
    decode? (encode m ++ more) = if more.all isSpace then some m else none := by
  simp only [decode?, readMessage?_encode ordered noFloat nesting, isEmpty_skipSpace]

end SessionNet.Format.Json

namespace SessionNet.Message

/--
A message without floating-point numbers, in whose values at most 61 lists and maps are nested, is
read back from its text if white space follows it, and reading fails if anything else does. Its maps
are in order, as all maps are that were built by insertion.
-/
theorem deserialize_json (m : Message) (ordered : m.Ordered)
    (noFloat : m.FloatFree) (nesting : m.nesting ≤ 61) (more : Bytes) :
    ((∀ b ∈ more, b = 0x20 ∨ b = 0x09 ∨ b = 0x0a ∨ b = 0x0d) →
      deserialize .json (m.serialize .json ++ more) = .ok m) ∧
    (¬(∀ b ∈ more, b = 0x20 ∨ b = 0x09 ∨ b = 0x0a ∨ b = 0x0d) →
      ∃ detail, deserialize .json (m.serialize .json ++ more) = .error (.deserialize detail)) := by
  have spaces : more.all Format.Json.isSpace = true ↔
      ∀ b ∈ more, b = 0x20 ∨ b = 0x09 ∨ b = 0x0a ∨ b = 0x0d := by
    simp [Format.Json.isSpace, or_assoc, or_left_comm, or_comm]
  have read := Format.Json.decode?_encode ordered noFloat nesting more
  constructor
  · intro blank
    rw [if_pos (spaces.2 blank)] at read
    simp only [deserialize, serialize, read]
  · intro other
    rw [if_neg (mt spaces.1 other)] at read
    simp only [deserialize, serialize, read]
    exact ⟨_, rfl⟩

/-- A value of every kind but one, with texts that need every sort of escape. -/
def plainSpecimen : Message :=
  .ofList [("", .null), ("bool", .bool false), ("least", .int Int64.minValue),
    ("text", .text "\"\\/\x08\t\n\x0c\r\x00\x1f\x7fß😀"), ("bytes", .bytes [0, 9, 10, 99, 100, 255]),
    ("list", .list [.int 0, .list [], .map [("a\n", .bytes []), ("b", .list [.null, .int (-10)])]])]

theorem deserialize_json_plainSpecimen :
    plainSpecimen.Ordered ∧ plainSpecimen.FloatFree ∧ plainSpecimen.nesting ≤ 61 ∧
      deserialize .json (plainSpecimen.serialize .json ++ [0x20, 0x0a]) = .ok plainSpecimen ∧
      ∃ detail, deserialize .json (plainSpecimen.serialize .json ++ [0x20, 0x7d]) =
        .error (.deserialize detail) := by
  have ordered : plainSpecimen.Ordered := by
    apply ordered_ofList
    decide +kernel
  have noFloat : plainSpecimen.FloatFree := by decide +kernel
  have nesting : plainSpecimen.nesting ≤ 61 := by decide +kernel
  obtain ⟨blank, -⟩ := deserialize_json plainSpecimen ordered noFloat nesting [0x20, 0x0a]
  obtain ⟨-, other⟩ := deserialize_json plainSpecimen ordered noFloat nesting [0x20, 0x7d]
  exact ⟨ordered, noFloat, nesting, blank (by decide +kernel), other (by decide +kernel)⟩

end SessionNet.Message
