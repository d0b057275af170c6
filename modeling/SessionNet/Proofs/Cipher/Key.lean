import SessionNet.Cipher.Key
import SessionNet.Settings.Validation

/-!
# The texts that are keys

A key is read from the bytes of a text, two at a time. In terms of the characters of the text,
blanks at its ends aside: 64 hexadecimal digits are the key whose bytes they spell. Two kinds of
text are not told apart from that as they should be. A plus sign in the place of a first digit
passes as a zero, so texts with such signs are keys as well; and a text of 64 bytes with a character
that two bytes cut apart, behind pairs that are in order, brings the reader down. Every other text
fails with an error of the configuration (`encryptionKey_exact`).
-/

namespace SessionNet

namespace Text

/-- The bytes of a text are those of its characters, in order. -/
theorem utf8_eq_flatMap (s : String) : utf8 s = s.toList.flatMap String.utf8EncodeChar := by
  have written (chars : List Char) :
      utf8 (String.ofList chars) = chars.flatMap String.utf8EncodeChar := by
    simp [utf8, List.utf8Encode]
  rw [← written, String.ofList_toList]

/-! ## The bytes of one character -/

theorem toNat_lt (c : Char) : c.toNat < 0x110000 := by
  rcases c.valid with low | high
  · exact Nat.lt_trans (m := 0xd800) low (by decide)
  · exact high.2

theorem isContinuation_low (n : Nat) : isContinuation (UInt8.ofNat (n % 64 + 128)) = true := by
  have value : (UInt8.ofNat (n % 64 + 128)).toNat = n % 64 + 128 := by
    rw [UInt8.toNat_ofNat']
    omega
  have range : 128 ≤ n % 64 + 128 ∧ n % 64 + 128 < 192 := by omega
  simp only [isContinuation, Bool.and_eq_true, decide_eq_true_eq, UInt8.le_iff_toNat_le,
    UInt8.lt_iff_toNat_lt, value]
  exact range

/-- All bytes of a character but the first continue it. -/
theorem isContinuation_of_mem_tail {c : Char} {b : UInt8}
    (member : b ∈ (String.utf8EncodeChar c).tail) : isContinuation b = true := by
  simp only [String.utf8EncodeChar] at member
  split at member
  · cases member
  · split at member
    · rcases List.mem_singleton.1 member with rfl
      exact isContinuation_low _
    · split at member
      · simp only [List.tail_cons, List.mem_cons, List.not_mem_nil, or_false] at member
        rcases member with rfl | rfl <;> exact isContinuation_low _
      · simp only [List.tail_cons, List.mem_cons, List.not_mem_nil, or_false] at member
        rcases member with rfl | rfl | rfl <;> exact isContinuation_low _

/-- The bytes of a character: one below 128, or a first one from 192 on and others. -/
theorem utf8EncodeChar_cases (c : Char) :
    (c.toNat < 128 ∧ String.utf8EncodeChar c = [UInt8.ofNat c.toNat]) ∨
      128 ≤ c.toNat ∧ ∃ lead next more, String.utf8EncodeChar c = lead :: next :: more ∧
        192 ≤ lead.toNat := by
  have range : c.val.toNat < 0x110000 := toNat_lt c
  simp only [String.utf8EncodeChar, ← Char.toNat_val]
  split
  · exact .inl ⟨by omega, rfl⟩
  · refine .inr ⟨by omega, ?_⟩
    split
    · refine ⟨_, _, _, rfl, ?_⟩
      rw [UInt8.toNat_ofNat']
      omega
    · split
      · refine ⟨_, _, _, rfl, ?_⟩
        rw [UInt8.toNat_ofNat']
        omega
      · refine ⟨_, _, _, rfl, ?_⟩
        rw [UInt8.toNat_ofNat']
        omega

end Text

namespace Cipher

/-! ## Digits -/

/-- The value of a hexadecimal digit in either case: its place among the sixteen. -/
def hexDigit? (c : Char) : Option Nat := "0123456789abcdef".toList.idxOf? c.toLower

/-- The value of the first digit of a pair; a plus sign passes as a zero. -/
def leadingDigit? (c : Char) : Option Nat := if c = '+' then some 0 else hexDigit? c

/-- 64 hexadecimal digits. -/
def IsHexadecimal (chars : List Char) : Prop :=
  chars.length = 64 ∧ ∀ c ∈ chars, (hexDigit? c).isSome = true

/-- Characters that are pairs of digits, and the bytes that these spell. -/
inductive Spells : (chars : List Char) → (bytes : Bytes) → Prop
  | nil : Spells [] []
  | pair {a b : Char} {high low : Nat} {chars : List Char} {bytes : Bytes}
      (first : leadingDigit? a = some high) (second : hexDigit? b = some low)
      (others : Spells chars bytes) :
      Spells (a :: b :: chars) (UInt8.ofNat (16 * high + low) :: bytes)

/-- The first two bytes cut a character apart. -/
inductive StartsTorn : (chars : List Char) → Prop
  | wide {a : Char} {chars : List Char} (long : 2 < a.utf8Size) : StartsTorn (a :: chars)
  | straddled {a b : Char} {chars : List Char} (short : a.utf8Size = 1) (long : 1 < b.utf8Size) :
      StartsTorn (a :: b :: chars)

/-- Behind pairs of digits come two bytes that cut a character apart. -/
def IsTorn (chars : List Char) : Prop :=
  ∃ good bytes more, chars = good ++ more ∧ Spells good bytes ∧ StartsTorn more

/-- The first two bytes are whole characters and no pair of digits. -/
inductive StartsMalformed : (chars : List Char) → Prop
  | double {a : Char} {chars : List Char} (size : a.utf8Size = 2) : StartsMalformed (a :: chars)
  | pair {a b : Char} {chars : List Char} (first : a.utf8Size = 1) (second : b.utf8Size = 1)
      (undigital : leadingDigit? a = none ∨ hexDigit? b = none) : StartsMalformed (a :: b :: chars)

variable {a b c : Char} {chars good more : List Char} {bytes read : Bytes}

theorem utf8Size_eq_one_iff : c.utf8Size = 1 ↔ c.toNat < 128 := by
  have size := String.length_utf8EncodeChar c
  rcases Text.utf8EncodeChar_cases c with ⟨low, heq⟩ | ⟨high, lead, next, more, heq, -⟩
  · rw [heq] at size
    exact iff_of_true size.symm low
  · rw [heq, List.length_cons, List.length_cons] at size
    omega

theorem hexDigit?_plus : hexDigit? '+' = none := by decide +kernel

theorem lt_of_hexDigit? {value : Nat} (digit : hexDigit? c = some value) :
    c.toNat < 128 ∧ value < 16 := by
  constructor
  · refine Nat.lt_of_not_le fun wide => ?_
    have same : c.toLower = c := by
      refine dif_neg fun upper => ?_
      have high : c.toNat ≤ 90 := UInt32.le_iff_toNat_le.1 upper.2
      omega
    have narrow : "0123456789abcdef".toList.all (·.toNat < 128) = true := by decide +kernel
    rw [hexDigit?, same, List.idxOf?_eq_some_iff] at digit
    obtain ⟨place, here, -⟩ := digit
    have listed : c ∈ "0123456789abcdef".toList := here ▸ List.getElem_mem place
    exact Nat.not_lt.2 wide (of_decide_eq_true (List.all_eq_true.mp narrow c listed))
  · exact (List.idxOf?_eq_some_iff.1 digit).choose

theorem lt_of_leadingDigit? {value : Nat} (digit : leadingDigit? c = some value) :
    c.toNat < 128 ∧ value < 16 := by
  unfold leadingDigit? at digit
  split at digit
  · rename_i plus
    cases digit
    rw [plus]
    decide
  · exact lt_of_hexDigit? digit

/-- The digits of the reader are the digits among the characters. -/
theorem digitValue?_toNat (low : c.toNat < 128) :
    digitValue? (UInt8.ofNat c.toNat) = hexDigit? c := by
  have all : ∀ n < 128, digitValue? (UInt8.ofNat n) = hexDigit? (Char.ofNat n) := by
    decide +kernel
  rw [all c.toNat low, Char.ofNat_toNat]

theorem pairValue?_toNat (first : a.toNat < 128) (second : b.toNat < 128) :
    pairValue? (UInt8.ofNat a.toNat) (UInt8.ofNat b.toNat) =
      (leadingDigit? a).bind fun high =>
        (hexDigit? b).map fun low => UInt8.ofNat (16 * high + low) := by
  have plus : UInt8.ofNat a.toNat = 0x2b ↔ a = '+' := by
    have all : ∀ n < 128, UInt8.ofNat n = 0x2b ↔ Char.ofNat n = '+' := by decide +kernel
    rw [all a.toNat first, Char.ofNat_toNat]
  rw [pairValue?, digitValue?_toNat first, digitValue?_toNat second, leadingDigit?]
  by_cases sign : a = '+'
  · subst sign
    rw [if_pos rfl, hexDigit?_plus]
    cases hexDigit? b with
    | none => rfl
    | some low => simp
  · rw [if_neg sign]
    cases hexDigit? a <;> cases hexDigit? b <;> simp [plus, sign]

/-! ## Reading pairs -/

/-- No text starts in the middle of a character. -/
theorem head?_flatMap (chars : List Char) :
    ((chars.flatMap String.utf8EncodeChar).head?.map Text.isContinuation).getD false = false := by
  cases chars with
  | nil => rfl
  | cons c chars =>
    have start (b : UInt8) (outside : b.toNat < 128 ∨ 192 ≤ b.toNat) :
        Text.isContinuation b = false := by
      simp only [Text.isContinuation, Bool.and_eq_false_iff, decide_eq_false_iff_not,
        UInt8.le_iff_toNat_le, UInt8.lt_iff_toNat_lt]
      exact outside.imp Nat.not_le.2 Nat.not_lt.2
    rcases Text.utf8EncodeChar_cases c with ⟨low, heq⟩ | ⟨-, lead, next, rest, heq, high⟩
    · rw [List.flatMap_cons, heq]
      refine start _ (.inl ?_)
      rw [UInt8.toNat_ofNat']
      omega
    · rw [List.flatMap_cons, heq]
      exact start lead (.inr high)

/-- Two characters of one byte each are read as a pair. -/
theorem readPairs_pair (first : a.toNat < 128) (second : b.toNat < 128) :
    readPairs read ((a :: b :: chars).flatMap String.utf8EncodeChar) =
      match (leadingDigit? a).bind fun high =>
        (hexDigit? b).map fun low => UInt8.ofNat (16 * high + low) with
      | some byte => readPairs (byte :: read) (chars.flatMap String.utf8EncodeChar)
      | none => .error (.failed (.configuration ("Invalid hex in encryption key: " ++
          (Text.ofUtf8? [UInt8.ofNat a.toNat, UInt8.ofNat b.toNat]).getD ""))) := by
  have single {c : Char} (low : c.toNat < 128) :
      String.utf8EncodeChar c = [UInt8.ofNat c.toNat] := by
    rcases Text.utf8EncodeChar_cases c with ⟨-, heq⟩ | ⟨high, -⟩
    · exact heq
    · omega
  have start := head?_flatMap (a :: chars)
  rw [List.flatMap_cons, single first] at start
  rw [List.flatMap_cons, List.flatMap_cons, single first, single second, List.singleton_append,
    List.singleton_append, readPairs, head?_flatMap, ← pairValue?_toNat first second]
  rw [show Text.isContinuation (UInt8.ofNat a.toNat) = false from start]
  rfl

theorem readPairs_spells (spells : Spells good bytes) :
    readPairs read ((good ++ more).flatMap String.utf8EncodeChar) =
      readPairs (bytes.reverse ++ read) (more.flatMap String.utf8EncodeChar) := by
  induction spells generalizing read with
  | nil => rfl
  | pair first second _ ih =>
    rw [List.cons_append, List.cons_append,
      readPairs_pair (lt_of_leadingDigit? first).1 (lt_of_hexDigit? second).1, first, second,
      List.reverse_cons, List.append_assoc, List.singleton_append]
    exact ih

theorem readPairs_cut {first second third : UInt8} (inside : Text.isContinuation third = true)
    (rest : Bytes) : readPairs read (first :: second :: third :: rest) = .error .crashed := by
  simp [readPairs, inside]

/-- Two bytes that cut a character apart bring the reader down. -/
theorem readPairs_torn (torn : StartsTorn chars) :
    readPairs read (chars.flatMap String.utf8EncodeChar) = .error .crashed := by
  -- every byte of a character but the first is a continuation
  have inside {c : Char} {first : UInt8} {others : Bytes}
      (hbytes : String.utf8EncodeChar c = first :: others) :
      ∀ b ∈ others, Text.isContinuation b = true := by
    intro b member
    apply Text.isContinuation_of_mem_tail (c := c)
    rwa [hbytes]
  cases torn with
  | @wide a chars long =>
    have size := String.length_utf8EncodeChar a
    match hbytes : String.utf8EncodeChar a with
    | [] | [_] | [_, _] =>
      rw [hbytes] at size
      simp at size
      omega
    | first :: second :: third :: others =>
      rw [List.flatMap_cons, hbytes]
      exact readPairs_cut (inside hbytes third (by simp)) _
  | @straddled a b chars short long =>
    have size := String.length_utf8EncodeChar b
    rcases Text.utf8EncodeChar_cases a with ⟨-, single⟩ | ⟨high, -⟩
    · match hbytes : String.utf8EncodeChar b with
      | [] | [_] =>
        rw [hbytes] at size
        simp at size
        omega
      | second :: third :: others =>
        rw [List.flatMap_cons, List.flatMap_cons, single, hbytes]
        exact readPairs_cut (inside hbytes third (by simp)) _
    · exact absurd (utf8Size_eq_one_iff.1 short) (Nat.not_lt.2 high)

/-- A byte that starts a longer character is neither a digit nor a sign. -/
theorem pairValue?_of_lead {lead : UInt8} (high : 192 ≤ lead.toNat) (next : UInt8) :
    pairValue? lead next = none := by
  have undigital : digitValue? lead = none := by
    unfold digitValue?
    rw [if_neg (by omega), if_neg (by omega), if_neg (by omega)]
  have unsigned : lead ≠ 0x2b := by
    rintro rfl
    exact absurd high (by decide)
  rw [pairValue?, undigital]
  cases digitValue? next <;> simp [unsigned]

theorem readPairs_malformed (malformed : StartsMalformed chars) :
    ∃ detail, readPairs read (chars.flatMap String.utf8EncodeChar) =
      .error (.failed (.configuration detail)) := by
  cases malformed with
  | @double a chars size =>
    rcases Text.utf8EncodeChar_cases a with ⟨low, -⟩ | ⟨-, lead, next, others, hbytes, high⟩
    · rw [utf8Size_eq_one_iff.2 low] at size
      cases size
    · have whole : others = [] := by
        have length := String.length_utf8EncodeChar a
        rw [hbytes, size] at length
        simpa using length
      have start := head?_flatMap (a :: chars)
      subst whole
      rw [List.flatMap_cons, hbytes] at start ⊢
      have front : Text.isContinuation lead = false := start
      simp [readPairs, head?_flatMap, front, pairValue?_of_lead high]
  | @pair a b chars first second undigital =>
    rw [readPairs_pair (utf8Size_eq_one_iff.1 first) (utf8Size_eq_one_iff.1 second)]
    rcases undigital with none | none <;> simp [none]

/-! ## The parts of a text -/

theorem Spells.length_flatMap (spells : Spells chars bytes) :
    (chars.flatMap String.utf8EncodeChar).length = chars.length ∧
      chars.length = 2 * bytes.length := by
  induction spells with
  | nil => exact ⟨rfl, rfl⟩
  | pair first second _ ih =>
    have one {c : Char} (narrow : c.toNat < 128) := utf8Size_eq_one_iff.2 narrow
    simp only [List.flatMap_cons, List.length_append, String.length_utf8EncodeChar,
      one (lt_of_leadingDigit? first).1, one (lt_of_hexDigit? second).1, List.length_cons, ih.1]
    omega

/-- Characters whose bytes are even in number are pairs of digits up to their end, or to two bytes
that are none. -/
theorem exists_parts (chars : List Char)
    (even : (chars.flatMap String.utf8EncodeChar).length % 2 = 0) :
    ∃ good bytes more, chars = good ++ more ∧ Spells good bytes ∧
      (more = [] ∨ StartsTorn more ∨ StartsMalformed more) := by
  match chars with
  | [] => exact ⟨[], [], [], rfl, .nil, .inl rfl⟩
  | a :: chars =>
    have positive : 0 < a.utf8Size := Char.utf8Size_pos a
    by_cases narrow : a.utf8Size = 1
    · match chars with
      | [] => simp [String.length_utf8EncodeChar, narrow] at even
      | b :: chars =>
        by_cases second : b.utf8Size = 1
        · cases first : leadingDigit? a with
          | none => exact ⟨[], [], _, rfl, .nil, .inr (.inr (.pair narrow second (.inl first)))⟩
          | some high =>
            cases digit : hexDigit? b with
            | none => exact ⟨[], [], _, rfl, .nil, .inr (.inr (.pair narrow second (.inr digit)))⟩
            | some low =>
              have left : (chars.flatMap String.utf8EncodeChar).length % 2 = 0 := by
                simp only [List.flatMap_cons, List.length_append, String.length_utf8EncodeChar,
                  narrow, second] at even
                omega
              obtain ⟨good, bytes, more, rfl, spells, ends⟩ := exists_parts chars left
              exact ⟨a :: b :: good, _, more, rfl, .pair first digit spells, ends⟩
        · have wide : 1 < b.utf8Size := by
            have := Char.utf8Size_pos b
            omega
          exact ⟨[], [], _, rfl, .nil, .inr (.inl (.straddled narrow wide))⟩
    · by_cases double : a.utf8Size = 2
      · exact ⟨[], [], _, rfl, .nil, .inr (.inr (.double double))⟩
      · exact ⟨[], [], _, rfl, .nil, .inr (.inl (.wide (by omega)))⟩

/-! ## Texts -/

variable {text : String} {key : SecretKey}

/-- What a text is read as depends on its characters, blanks at the ends aside. -/
theorem ofHex_of_spells (length : (Text.trim text).toList.length = 64)
    (spells : Spells (Text.trim text).toList key.bytes) : SecretKey.ofHex text = .ok key := by
  have whole : (Text.utf8 (Text.trim text)).length = 64 := by
    rw [Text.utf8_eq_flatMap, spells.length_flatMap.1, length]
  have read : readPairs [] (((Text.trim text).toList ++ []).flatMap String.utf8EncodeChar) =
      readPairs (key.bytes.reverse ++ []) [] := readPairs_spells spells
  rw [List.append_nil, ← Text.utf8_eq_flatMap] at read
  simp [SecretKey.ofHex, whole, read, readPairs, key.length_eq]

theorem ofHex_of_torn (whole : (Text.utf8 (Text.trim text)).length = 64)
    (torn : IsTorn (Text.trim text).toList) : SecretKey.ofHex text = .error .crashed := by
  obtain ⟨good, bytes, more, parts, spells, starts⟩ := torn
  have read : readPairs [] (Text.utf8 (Text.trim text)) = .error .crashed := by
    rw [Text.utf8_eq_flatMap, parts, readPairs_spells spells, readPairs_torn starts]
  simp [SecretKey.ofHex, whole, read]

/-- How the reading of a text can end. -/
theorem ofHex_cases (text : String) :
    (∃ key, SecretKey.ofHex text = .ok key ∧ (Text.trim text).toList.length = 64 ∧
      Spells (Text.trim text).toList key.bytes) ∨
    (SecretKey.ofHex text = .error .crashed ∧ (Text.utf8 (Text.trim text)).length = 64 ∧
      IsTorn (Text.trim text).toList) ∨
    ∃ detail, SecretKey.ofHex text = .error (.failed (.configuration detail)) := by
  by_cases whole : (Text.utf8 (Text.trim text)).length = 64
  · have bytesOf := Text.utf8_eq_flatMap (Text.trim text)
    obtain ⟨good, bytes, more, parts, spells, rfl | torn | malformed⟩ :=
      exists_parts (Text.trim text).toList (by rw [← bytesOf, whole])
    · rw [List.append_nil] at parts
      rw [← parts] at spells
      have lengths := spells.length_flatMap
      rw [← bytesOf, whole] at lengths
      have size : bytes.length = 32 := by omega
      exact .inl ⟨⟨bytes, size⟩, ofHex_of_spells lengths.1.symm spells, lengths.1.symm, spells⟩
    · have behind : IsTorn (Text.trim text).toList := ⟨good, bytes, more, parts, spells, torn⟩
      exact .inr (.inl ⟨ofHex_of_torn whole behind, whole, behind⟩)
    · obtain ⟨detail, failed⟩ : ∃ detail, readPairs (bytes.reverse ++ [])
          (more.flatMap String.utf8EncodeChar) = .error (.failed (.configuration detail)) :=
        readPairs_malformed malformed
      have read : readPairs [] (Text.utf8 (Text.trim text)) =
          .error (.failed (.configuration detail)) := by
        rw [bytesOf, parts, readPairs_spells spells, failed]
      exact .inr (.inr ⟨detail, by simp [SecretKey.ofHex, whole, read]⟩)
  · exact .inr (.inr ⟨_, if_pos whole⟩)

theorem ofHex_eq_ok_iff : SecretKey.ofHex text = .ok key ↔
    (Text.trim text).toList.length = 64 ∧ Spells (Text.trim text).toList key.bytes := by
  constructor
  · intro read
    rcases ofHex_cases text with ⟨other, h, length, spells⟩ | ⟨h, -⟩ | ⟨detail, h⟩
    · cases h.symm.trans read
      exact ⟨length, spells⟩
    · cases h.symm.trans read
    · cases h.symm.trans read
  · rintro ⟨length, spells⟩
    exact ofHex_of_spells length spells

theorem ofHex_eq_crashed_iff : SecretKey.ofHex text = .error .crashed ↔
    (Text.utf8 (Text.trim text)).length = 64 ∧ IsTorn (Text.trim text).toList := by
  constructor
  · intro read
    rcases ofHex_cases text with ⟨other, h, -⟩ | ⟨-, torn⟩ | ⟨detail, h⟩
    · cases h.symm.trans read
    · exact torn
    · cases h.symm.trans read
  · rintro ⟨whole, torn⟩
    exact ofHex_of_torn whole torn

/-! ## The bytes that are spelled -/

theorem Spells.getElem? (spells : Spells chars bytes) {i : Nat} (inside : i < bytes.length) :
    ∃ high low, chars[2 * i]?.bind leadingDigit? = some high ∧
      chars[2 * i + 1]?.bind hexDigit? = some low ∧
      bytes[i]?.map UInt8.toNat = some (16 * high + low) := by
  induction spells generalizing i with
  | nil => exact absurd inside (Nat.not_lt_zero i)
  | @pair a b high low chars bytes first second _ ih =>
    cases i with
    | zero =>
      have byte : 16 * high + low < 256 := by
        have := (lt_of_leadingDigit? first).2
        have := (lt_of_hexDigit? second).2
        omega
      exact ⟨high, low, first, second, congrArg some (UInt8.toNat_ofNat_of_lt' byte)⟩
    | succ i => exact ih (Nat.lt_of_succ_lt_succ inside)

/-- Without a sign, all characters of pairs are digits. -/
theorem Spells.digits (spells : Spells chars bytes) (unsigned : '+' ∉ chars) :
    ∀ c ∈ chars, (hexDigit? c).isSome = true := by
  induction spells with
  | nil => exact nofun
  | @pair a b high low chars bytes first second _ ih =>
    have first : hexDigit? a = some high := by
      have differs : a ≠ '+' := by
        rintro rfl
        exact unsigned List.mem_cons_self
      rwa [leadingDigit?, if_neg differs] at first
    have later := ih fun member => unsigned (List.mem_cons_of_mem _ (List.mem_cons_of_mem _ member))
    intro c member
    rcases List.mem_cons.1 member with rfl | member
    · rw [first]
      rfl
    · rcases List.mem_cons.1 member with rfl | member
      · rw [second]
        rfl
      · exact later c member

theorem exists_spells (chars : List Char) (even : chars.length % 2 = 0)
    (digits : ∀ c ∈ chars, (hexDigit? c).isSome = true) : ∃ bytes, Spells chars bytes := by
  match chars with
  | [] => exact ⟨[], .nil⟩
  | [_] => cases even
  | a :: b :: chars =>
    obtain ⟨high, first⟩ := Option.isSome_iff_exists.1 (digits a (by simp))
    obtain ⟨low, second⟩ := Option.isSome_iff_exists.1 (digits b (by simp))
    have leading : leadingDigit? a = some high := by
      refine (if_neg ?_).trans first
      rintro rfl
      cases hexDigit?_plus.symm.trans first
    have left : chars.length % 2 = 0 := by
      simp only [List.length_cons] at even
      omega
    obtain ⟨bytes, others⟩ := exists_spells chars left
      fun c member => digits c (by simp [member])
    exact ⟨_, .pair leading second others⟩

/-- Hexadecimal digits are what spells something without a sign. -/
theorem isHexadecimal_iff : IsHexadecimal chars ↔
    chars.length = 64 ∧ '+' ∉ chars ∧ ∃ bytes, Spells chars bytes := by
  constructor
  · rintro ⟨length, digits⟩
    refine ⟨length, fun plus => ?_, exists_spells chars (by rw [length]) digits⟩
    have digit := digits '+' plus
    rw [hexDigit?_plus] at digit
    cases digit
  · rintro ⟨length, unsigned, bytes, spells⟩
    exact ⟨length, spells.digits unsigned⟩

end Cipher

namespace TransportSettings

open Cipher
open SettingFault (when)

/-- The faults of the key stand between those of the other settings. -/
theorem exists_faults_eq (s : TransportSettings) :
    ∃ before after, ∀ text?, ({ s with encryptionKey? := text? } : TransportSettings).faults =
      ({ s with encryptionKey? := text? } : TransportSettings).keyFaults.map
        fun keyFaults => before ++ (keyFaults ++ after) := by
  refine ⟨when (s.queueCapacity == 0) (.zero "Max packet queue size")
      ++ when (!isThreshold s.shedThreshold) (.badThreshold s.shedThreshold)
      ++ when (s.frameLimit == 0 || maxFrameLimit < s.frameLimit) (.badFrameLimit s.frameLimit)
      ++ when (s.compression?.isSome && maxMessageSize < s.compressionThreshold)
        .highCompressionThreshold,
    when (s.fairnessBudget == 0) (.zero "Writer fairness budget")
      ++ when (s.tunnelEnabled && s.tunnelInterval == 0) (.zero "Tunnel update interval"), ?_⟩
  intro text?
  simp only [faults, List.append_assoc]

theorem encryptor?_keyed (s : TransportSettings) (text : String) :
    ({ s with encryptionKey? := some text } : TransportSettings).encryptor? =
      (SecretKey.ofHex text).map fun key => some (XChaCha.encryptor key) := rfl

/-- What becomes of settings with a key, given how its text is read: they have the faults that they
have without a key, and its cipher; or one fault more and no codec; or they bring the reader down.
-/
structure DecidedByKey (s : TransportSettings) (text : String) : Prop where
  accepted : ∀ key, SecretKey.ofHex text = .ok key →
    ({ s with encryptionKey? := some text } : TransportSettings).faults =
        ({ s with encryptionKey? := none } : TransportSettings).faults ∧
      ∃ codec, ({ s with encryptionKey? := some text } : TransportSettings).codec = .ok codec ∧
        codec.encryptor? = some (XChaCha.encryptor key)
  refused : ∀ e, SecretKey.ofHex text = .error (.failed e) →
    ({ s with encryptionKey? := some text } : TransportSettings).codec = .error (.failed e) ∧
      ∃ before after,
        ({ s with encryptionKey? := none } : TransportSettings).faults = .ok (before ++ after) ∧
        ({ s with encryptionKey? := some text } : TransportSettings).faults =
          .ok (before ++ .badKey e :: after)
  crashed : SecretKey.ofHex text = .error .crashed →
    ({ s with encryptionKey? := some text } : TransportSettings).codec = .error .crashed ∧
      ({ s with encryptionKey? := some text } : TransportSettings).faults = .error .crashed

theorem decidedByKey (s : TransportSettings) (text : String) : s.DecidedByKey text := by
  let keyed : TransportSettings := { s with encryptionKey? := some text }
  let plain : TransportSettings := { s with encryptionKey? := none }
  obtain ⟨before, after, faultsOf⟩ := exists_faults_eq s
  have keyedFaults : keyed.faults = keyed.keyFaults.map _ := faultsOf (some text)
  have plainFaults : plain.faults = .ok (before ++ after) := faultsOf none
  have encryptor := encryptor?_keyed s text
  refine ⟨fun key read => ?_, fun e read => ?_, fun read => ?_⟩
  · have here : keyed.encryptor? = .ok (some (XChaCha.encryptor key)) := by
      rw [encryptor, read]
      rfl
    refine ⟨?_, _, by rw [codec, here]; rfl, rfl⟩
    rw [keyedFaults, keyFaults, here, plainFaults]
    rfl
  · have here : keyed.encryptor? = .error (.failed e) := by
      rw [encryptor, read]
      rfl
    refine ⟨by rw [codec, here]; rfl, before, after, plainFaults, ?_⟩
    rw [keyedFaults, keyFaults, here]
    rfl
  · have here : keyed.encryptor? = .error .crashed := by
      rw [encryptor, read]
      rfl
    refine ⟨by rw [codec, here]; rfl, ?_⟩
    rw [keyedFaults, keyFaults, here]
    rfl

/--
Every text is read as a key, fails, or brings the reader down, and the check of the settings and the
codec go the same way. Sixty-four hexadecimal digits are the key that they spell. The other texts
that are keys have plus signs in the places of first digits, where these stand for zeros. The texts
that bring the reader down are those of 64 bytes in which pairs of digits come before two bytes that
cut a character apart. All other texts fail with an error of the configuration.
-/
theorem encryptionKey_exact (s : TransportSettings) (text : String) :
    let chars := (Text.trim text).toList
    (IsHexadecimal chars → ∃ key, SecretKey.ofHex text = .ok key ∧
      ∀ i < 32, ∃ high low, chars[2 * i]?.bind hexDigit? = some high ∧
        chars[2 * i + 1]?.bind hexDigit? = some low ∧
        key.bytes[i]?.map UInt8.toNat = some (16 * high + low)) ∧
    (∀ key, SecretKey.ofHex text = .ok key ↔ chars.length = 64 ∧ Spells chars key.bytes) ∧
    (∀ key, SecretKey.ofHex text = .ok key → ('+' ∉ chars ↔ IsHexadecimal chars)) ∧
    (SecretKey.ofHex text = .error .crashed ↔
      (Text.utf8 (Text.trim text)).length = 64 ∧ IsTorn chars) ∧
    (∀ e, SecretKey.ofHex text = .error (.failed e) → ∃ detail, e = .configuration detail) ∧
    s.DecidedByKey text := by
  intro chars
  refine ⟨?_, fun key => ofHex_eq_ok_iff, ?_, ofHex_eq_crashed_iff, ?_, decidedByKey s text⟩
  · intro hexadecimal
    obtain ⟨length, unsigned, bytes, spells⟩ := isHexadecimal_iff.1 hexadecimal
    have size : bytes.length = 32 := by
      have := spells.length_flatMap.2
      omega
    refine ⟨⟨bytes, size⟩, ofHex_of_spells length spells, fun i inside => ?_⟩
    obtain ⟨high, low, first, second, byte⟩ := spells.getElem? (size.symm ▸ inside)
    refine ⟨high, low, ?_, second, byte⟩
    -- without a sign the first digit of a pair is a digit like the second
    obtain ⟨a, here, digit⟩ := Option.bind_eq_some_iff.1 first
    rw [here]
    refine (if_neg ?_).symm.trans digit
    rintro rfl
    exact unsigned (List.mem_of_getElem? here)
  · intro key read
    obtain ⟨length, spells⟩ := ofHex_eq_ok_iff.1 read
    rw [isHexadecimal_iff]
    exact ⟨fun unsigned => ⟨length, unsigned, _, spells⟩, fun ⟨_, unsigned, _⟩ => unsigned⟩
  · intro e read
    rcases ofHex_cases text with ⟨key, h, -⟩ | ⟨h, -⟩ | ⟨detail, h⟩
    · cases h.symm.trans read
    · cases h.symm.trans read
    · cases h.symm.trans read
      exact ⟨detail, rfl⟩

/-- A text that is read as a key though it has no sixty-four hexadecimal digits, and a text that
brings the reader down. -/
theorem lax_key_texts :
    SecretKey.ofHex
        "+1+1+1+1+1+1+1+1+1+1+1+1+1+1+1+1+1+1+1+1+1+1+1+1+1+1+1+1+1+1+1+1" =
        .ok ⟨List.replicate 32 1, rfl⟩ ∧
      ¬ IsHexadecimal (Text.trim
        "+1+1+1+1+1+1+1+1+1+1+1+1+1+1+1+1+1+1+1+1+1+1+1+1+1+1+1+1+1+1+1+1").toList ∧
      SecretKey.ofHex "0ééééééééééééééééééééééééééééééé0" = .error .crashed := by
  refine ⟨rfl, ?_, rfl⟩
  rw [isHexadecimal_iff]
  rintro ⟨-, unsigned, -⟩
  exact absurd unsigned (by decide +kernel)

end TransportSettings

end SessionNet
