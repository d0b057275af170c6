import SessionNet.Format
import SessionNet.Proofs.Bytes
import SessionNet.Proofs.Message

/-!
# Reading MessagePack undoes writing it

Every number, text and collection is written with one of several heads, by its size. A head reads
back as the kind and size it was chosen for, whatever follows it, and so does a value, as long as
its lengths fit in four bytes and it does not nest deeper than reading goes. What stands behind a
message is ignored.
-/

namespace SessionNet.Format.MessagePack

/-! ## Heads -/

/-- A head that is a marker and a number of fixed width. -/
theorem readHead?_field (head : Nat → Head) {marker : UInt8} {width n : Nat}
    (reads : ∀ bs, readHead? (marker :: bs) =
      (Bytes.readBig? width bs).map fun read => (head read.1, read.2))
    (h : n < Nat.pow 256 width) (rest : Bytes) :
    readHead? (marker :: Bytes.bigEndian width n ++ rest) = some (head n, rest) := by
  rw [List.cons_append, reads, Bytes.readBig?_bigEndian h]
  rfl

theorem readHead?_encodeUnsigned {n : Nat} (h : n < Nat.pow 256 8) (rest : Bytes) :
    readHead? (encodeUnsigned n ++ rest) = some (.unsigned n, rest) := by
  unfold encodeUnsigned
  split
  next small =>
    have value : (UInt8.ofNat n).toNat = n := UInt8.toNat_ofNat_of_lt' (by rw [UInt8.size]; omega)
    simp [readHead?, value, small]
  split
  next one => exact readHead?_field _ (fun _ => rfl) one rest
  split
  next two => exact readHead?_field _ (fun _ => rfl) two rest
  split
  next four => exact readHead?_field _ (fun _ => rfl) four rest
  next => exact readHead?_field _ (fun _ => rfl) h rest

/-- Two's complement, for a number at most half the range of its width below zero. -/
theorem toSigned_complement {width distance : Nat} (h : distance ≤ Nat.pow 256 width / 2) :
    toSigned width (Nat.pow 256 width - distance) = -(distance : Int) := by
  have positive : 0 < Nat.pow 256 width := Nat.pow_pos (by omega)
  rw [toSigned, if_neg (by omega)]
  omega

theorem readHead?_signedField {marker : UInt8} (width : Nat) {distance : Nat}
    (reads : ∀ bs, readHead? (marker :: bs) =
      (Bytes.readBig? width bs).map fun read => (.signed (toSigned width read.1), read.2))
    (positive : 0 < distance) (h : distance ≤ Nat.pow 256 width / 2) (rest : Bytes) :
    readHead? (marker :: Bytes.bigEndian width (Nat.pow 256 width - distance) ++ rest) =
      some (.signed (-distance), rest) := by
  have fits : Nat.pow 256 width - distance < Nat.pow 256 width := by omega
  have read := readHead?_field (fun n => .signed (toSigned width n)) reads fits rest
  rwa [toSigned_complement h] at read

theorem readHead?_encodeNegative {distance : Nat} (positive : 0 < distance)
    (h : distance ≤ Nat.pow 256 8 / 2) (rest : Bytes) :
    readHead? (encodeNegative distance ++ rest) = some (.signed (-distance), rest) := by
  unfold encodeNegative
  split
  next small =>
    have value : (UInt8.ofNat (0x100 - distance)).toNat = 0x100 - distance :=
      UInt8.toNat_ofNat_of_lt' (by rw [UInt8.size]; omega)
    have signed : ((0x100 - distance : Nat) : Int) - 0x100 = -distance := by omega
    rw [List.singleton_append, readHead?]
    simp (disch := omega) only [value, signed, if_neg, if_pos]
  split
  next one => exact readHead?_signedField 1 (fun _ => rfl) positive one rest
  split
  next two => exact readHead?_signedField 2 (fun _ => rfl) positive two rest
  split
  next four => exact readHead?_signedField 4 (fun _ => rfl) positive four rest
  next => exact readHead?_signedField 8 (fun _ => rfl) positive h rest

theorem readHead?_encodeTextHead {n : Nat} (h : n < Nat.pow 256 4) (rest : Bytes) :
    readHead? (encodeTextHead n ++ rest) = some (.text n, rest) := by
  unfold encodeTextHead
  split
  next small =>
    have value : (UInt8.ofNat (0xa0 + n)).toNat = 0xa0 + n :=
      UInt8.toNat_ofNat_of_lt' (by rw [UInt8.size]; omega)
    rw [List.singleton_append, readHead?]
    simp (disch := omega) only [value, if_neg, if_pos, Nat.add_sub_cancel_left]
  split
  next one => exact readHead?_field _ (fun _ => rfl) one rest
  split
  next two => exact readHead?_field _ (fun _ => rfl) two rest
  next => exact readHead?_field _ (fun _ => rfl) h rest

theorem readHead?_encodeArrayHead {n : Nat} (h : n < Nat.pow 256 4) (rest : Bytes) :
    readHead? (encodeArrayHead n ++ rest) = some (.array n, rest) := by
  unfold encodeArrayHead
  split
  next small =>
    have value : (UInt8.ofNat (0x90 + n)).toNat = 0x90 + n :=
      UInt8.toNat_ofNat_of_lt' (by rw [UInt8.size]; omega)
    rw [List.singleton_append, readHead?]
    simp (disch := omega) only [value, if_neg, if_pos, Nat.add_sub_cancel_left]
  split
  next two => exact readHead?_field _ (fun _ => rfl) two rest
  next => exact readHead?_field _ (fun _ => rfl) h rest

theorem readHead?_encodeMapHead {n : Nat} (h : n < Nat.pow 256 4) (rest : Bytes) :
    readHead? (encodeMapHead n ++ rest) = some (.map n, rest) := by
  unfold encodeMapHead
  split
  next small =>
    have value : (UInt8.ofNat (0x80 + n)).toNat = 0x80 + n :=
      UInt8.toNat_ofNat_of_lt' (by rw [UInt8.size]; omega)
    rw [List.singleton_append, readHead?]
    simp (disch := omega) only [value, if_neg, if_pos, Nat.add_sub_cancel_left]
  split
  next two => exact readHead?_field _ (fun _ => rfl) two rest
  next => exact readHead?_field _ (fun _ => rfl) h rest

/-! ## Scalars -/

theorem decodeInt?_encodeInt (n : Int64) (rest : Bytes) :
    decodeInt? (encodeInt n.toInt ++ rest) = some (n, rest) := by
  unfold encodeInt
  split
  next positive =>
    have small := Integer.toNat_lt n
    rw [decodeInt?, readHead?_encodeUnsigned (Nat.lt_trans small (by decide))]
    simp only [small, if_true, Integer.ofNat_toNat positive]
  next negative =>
    rw [decodeInt?, readHead?_encodeNegative (by omega) (Integer.natAbs_le n)]
    simp only [Integer.ofInt_natAbs negative]

theorem decodeText?_encodeText {s : String} (short : (Text.utf8 s).length < Nat.pow 256 4)
    (rest : Bytes) : decodeText? (encodeText s ++ rest) = some (s, rest) := by
  rw [encodeText, List.append_assoc, decodeText?, readHead?_encodeTextHead short]
  simp only [Bytes.takeExactly?_append rfl, Text.ofUtf8?_utf8, Option.map_some]

theorem decodeName?_encodeText {s : String} (short : (Text.utf8 s).length < Nat.pow 256 4)
    (rest : Bytes) : decodeName? (encodeText s ++ rest) = some (.bytes (Text.utf8 s), rest) := by
  rw [encodeText, List.append_assoc, decodeName?, readHead?_encodeTextHead short]
  simp only [Bytes.takeExactly?_append rfl, Option.map_some]

theorem decodeFloat?_bigEndian (bits : UInt64) (rest : Bytes) :
    decodeFloat? (0xcb :: Bytes.bigEndian 8 bits.toNat ++ rest) = some (bits, rest) := by
  have head : readHead? (0xcb :: Bytes.bigEndian 8 bits.toNat ++ rest) =
      some (.double bits.toNat, rest) :=
    readHead?_field _ (fun _ => rfl) bits.toNat_lt rest
  rw [decodeFloat?, head]
  simp only [UInt64.ofNat_toNat]

theorem decodeByteItems?_flatMap (bs read rest : Bytes) :
    decodeByteItems? bs.length read (bs.flatMap (fun b => encodeUnsigned b.toNat) ++ rest) =
      some (read.reverse ++ bs, rest) := by
  induction bs generalizing read with
  | nil => simp [decodeByteItems?]
  | cons b bs ih =>
    have small : b.toNat < 256 := b.toNat_lt
    rw [List.flatMap_cons, List.append_assoc, List.length_cons, decodeByteItems?,
      readHead?_encodeUnsigned (Nat.lt_trans small (by decide))]
    simp only [small, if_true, UInt8.ofNat_toNat, ih, List.reverse_cons, List.append_assoc,
      List.singleton_append]

theorem decodeBytes?_encodeArrayHead {bs : Bytes} {depth : Nat} (short : bs.length < Nat.pow 256 4)
    (room : 0 < depth) (rest : Bytes) :
    decodeBytes? depth
        (encodeArrayHead bs.length ++ (bs.flatMap (fun b => encodeUnsigned b.toNat) ++ rest)) =
      some (bs, rest) := by
  rw [decodeBytes?, readHead?_encodeArrayHead short]
  simp only [Nat.ne_of_gt room, if_false, decodeByteItems?_flatMap, List.reverse_nil,
    List.nil_append]

/-! ## Kinds -/

theorem readHead?_encodeKind (name : String) (rest : Bytes) :
    readHead? (encodeKind name ++ rest) = some (.map 1, encodeText name ++ rest) := by
  rw [encodeKind, List.append_assoc]
  exact readHead?_encodeMapHead (by decide) _

/-- A kind is found by the name that is written for it. -/
theorem decodeName?_kindNames (index : Nat) {name : String}
    (known : kindNames[index]? = some name) : ∃ raw, kindIndex? (.bytes raw) = some index ∧
      ∀ rest, decodeName? (encodeText name ++ rest) = some (.bytes raw, rest) := by
  have names : ∀ index : Fin kindNames.length,
      kindIndex? (.bytes (Text.utf8 kindNames[index])) = some index.val ∧
        (Text.utf8 kindNames[index]).length < Nat.pow 256 4 := by
    decide +kernel
  obtain ⟨bound, rfl⟩ := List.getElem?_eq_some_iff.1 known
  obtain ⟨found, short⟩ := names ⟨index, bound⟩
  exact ⟨_, found, decodeName?_encodeText short⟩

/-! ## Values -/

/-- A value is read back from its bytes, given that much fuel and the depth it needs. -/
def Restores (v : Value) : Prop :=
  ∀ fuel depth rest, (encodeValue v).length ≤ fuel → v.nesting < depth →
    decodeValue? fuel depth (encodeValue v ++ rest) = some (v, rest)

theorem length_encodeText_pos (s : String) : 0 < (encodeText s).length := by
  rw [encodeText, List.length_append]
  unfold encodeTextHead
  grind

theorem one_lt_length_encodeKind (name : String) : 1 < (encodeKind name).length := by
  have named := length_encodeText_pos name
  have head : (encodeMapHead 1).length = 1 := rfl
  rw [encodeKind, List.length_append]
  omega

theorem length_encodeValue_pos (v : Value) : 0 < (encodeValue v).length := by
  cases v with
  | null => exact length_encodeText_pos "Null"
  | bool | int | float | text | bytes | list | map =>
    simp only [encodeValue, List.append_assoc, List.length_append]
    exact Nat.add_pos_left (Nat.lt_trans Nat.one_pos (one_lt_length_encodeKind _)) _

theorem decodeItems?_encodeItems {items : List Value} (restores : ∀ v ∈ items, Restores v)
    {fuel depth : Nat} (enough : (encodeItems items).length < fuel)
    (room : Value.nestingOfItems items < depth) (read : List Value) (rest : Bytes) :
    decodeItems? fuel depth items.length read (encodeItems items ++ rest) =
      some (read.reverse ++ items, rest) := by
  induction items generalizing fuel read with
  | nil => simp [decodeItems?, encodeItems]
  | cons v vs ih =>
    -- a value has bytes of its own, so the step that it takes leaves enough for the others
    have nonempty := length_encodeValue_pos v
    rw [encodeItems, List.length_append] at enough
    rw [Value.nestingOfItems] at room
    obtain ⟨fuel, rfl⟩ : ∃ less, fuel = less + 1 := ⟨fuel - 1, by omega⟩
    have first := restores v List.mem_cons_self fuel depth (encodeItems vs ++ rest) (by omega)
      (by omega)
    have left : (encodeItems vs).length < fuel := by omega
    have others := ih (fun v hmem => restores v (List.mem_cons_of_mem _ hmem)) left (by omega)
      (v :: read)
    rw [encodeItems, List.append_assoc, List.length_cons, decodeItems?, first]
    simp only [others, List.reverse_cons, List.append_assoc, List.singleton_append]

theorem decodeEntries?_encodeEntries {entries : Entries}
    (restores : ∀ entry ∈ entries, Restores entry.2)
    (short : ∀ entry ∈ entries, (Text.utf8 entry.1).length < Nat.pow 256 4) (before : Entries)
    (ascending : Entries.Ascending (before ++ entries)) {fuel depth : Nat}
    (enough : (encodeEntries entries).length < fuel)
    (room : Value.nestingOfEntries entries < depth) (rest : Bytes) :
    decodeEntries? fuel depth entries.length before (encodeEntries entries ++ rest) =
      some (before ++ entries, rest) := by
  induction entries generalizing fuel before with
  | nil => simp [decodeEntries?, encodeEntries]
  | cons entry entries ih =>
    obtain ⟨key, v⟩ := entry
    have named := length_encodeText_pos key
    have nonempty := length_encodeValue_pos v
    rw [encodeEntries, List.length_append, List.length_append] at enough
    rw [Value.nestingOfEntries] at room
    obtain ⟨fuel, rfl⟩ : ∃ less, fuel = less + 1 := ⟨fuel - 1, by omega⟩
    have restored : Restores v := restores (key, v) List.mem_cons_self
    have first := restored fuel depth (encodeEntries entries ++ rest) (by omega) (by omega)
    -- the key is beyond all keys before it, so its entry is put last
    have inserted := Entries.insert_of_ascending ascending
    rw [List.append_cons] at ascending
    have left : (encodeEntries entries).length < fuel := by omega
    have others := ih (fun entry hmem => restores entry (List.mem_cons_of_mem _ hmem))
      (fun entry hmem => short entry (List.mem_cons_of_mem _ hmem)) _ ascending left (by omega)
    rw [encodeEntries, List.append_assoc, List.append_assoc, List.length_cons, decodeEntries?,
      decodeText?_encodeText (short _ List.mem_cons_self)]
    simp only [first, inserted, others, List.append_assoc, List.singleton_append]

/-- No value is read without fuel, and none is written without bytes. -/
theorem restores_of_succ {v : Value}
    (h : ∀ fuel depth rest, (encodeValue v).length ≤ fuel + 1 → v.nesting < depth →
      decodeValue? (fuel + 1) depth (encodeValue v ++ rest) = some (v, rest)) : Restores v := by
  intro fuel depth rest enough room
  obtain ⟨fuel, rfl⟩ : ∃ less, fuel = less + 1 :=
    Nat.exists_eq_add_one.2 (Nat.lt_of_lt_of_le (length_encodeValue_pos v) enough)
  exact h fuel depth rest enough room

theorem restores_null : Restores .null := by
  refine restores_of_succ fun fuel depth rest _ _ => ?_
  obtain ⟨raw, kind, named⟩ := decodeName?_kindNames 0 rfl
  -- it is not announced by a map, so its first byte is the head of its name
  have head := readHead?_encodeTextHead (n := (Text.utf8 "Null").length) (by decide +kernel)
    (Text.utf8 "Null" ++ rest)
  rw [← List.append_assoc, ← encodeText] at head
  simp only [encodeValue, decodeValue?, head, named, kind, if_true]

theorem restores_list {items : List Value} (restores : ∀ v ∈ items, Restores v)
    (short : items.length < Nat.pow 256 4) : Restores (.list items) := by
  refine restores_of_succ fun fuel depth rest enough room => ?_
  obtain ⟨raw, kind, named⟩ := decodeName?_kindNames 6 rfl
  have head := one_lt_length_encodeKind "List"
  rw [Value.nesting] at room
  rw [encodeValue, List.length_append, List.length_append] at enough
  obtain ⟨depth, rfl⟩ : ∃ less, depth = less + 1 := ⟨depth - 1, by omega⟩
  have left : (encodeItems items).length < fuel := by omega
  have all := decodeItems?_encodeItems restores left (Nat.lt_of_succ_lt_succ room) [] rest
  simp only [encodeValue, List.append_assoc, decodeValue?, readHead?_encodeKind, named, kind,
    readHead?_encodeArrayHead short, all, List.reverse_nil, List.nil_append, Option.map_some]

theorem restores_map {entries : Entries} (restores : ∀ entry ∈ entries, Restores entry.2)
    (ascending : Entries.Ascending entries)
    (short : (Value.map entries).Short (Nat.pow 256 4)) : Restores (.map entries) := by
  refine restores_of_succ fun fuel depth rest enough room => ?_
  obtain ⟨raw, kind, named⟩ := decodeName?_kindNames 7 rfl
  have head := one_lt_length_encodeKind "Map"
  rw [Value.nesting] at room
  rw [encodeValue, List.length_append, List.length_append] at enough
  obtain ⟨depth, rfl⟩ : ∃ less, depth = less + 1 := ⟨depth - 1, by omega⟩
  have left : (encodeEntries entries).length < fuel := by omega
  have all := decodeEntries?_encodeEntries restores short.2 [] ascending left
    (Nat.lt_of_succ_lt_succ room) rest
  simp only [encodeValue, List.append_assoc, decodeValue?, readHead?_encodeKind, named, kind,
    readHead?_encodeMapHead short.1, all, List.nil_append, Option.map_some]

/-- Every value whose maps are in order and whose lengths fit in four bytes is read back. -/
theorem restores_of_ordered {v : Value} (ordered : v.Ordered)
    (sizes : v.SizesBelow (Nat.pow 256 4)) : Restores v := by
  induction v using Value.nestedInduction with
  | null => exact restores_null
  | bool b =>
    refine restores_of_succ fun fuel depth rest _ _ => ?_
    obtain ⟨raw, kind, named⟩ := decodeName?_kindNames 1 rfl
    simp only [encodeValue, List.append_assoc, decodeValue?, readHead?_encodeKind, named, kind]
    cases b <;> rfl
  | int n =>
    refine restores_of_succ fun fuel depth rest _ _ => ?_
    obtain ⟨raw, kind, named⟩ := decodeName?_kindNames 2 rfl
    simp only [encodeValue, List.append_assoc, decodeValue?, readHead?_encodeKind, named, kind,
      decodeInt?_encodeInt, Option.map_some]
  | float bits =>
    refine restores_of_succ fun fuel depth rest _ _ => ?_
    obtain ⟨raw, kind, named⟩ := decodeName?_kindNames 3 rfl
    simp only [encodeValue, List.append_assoc, decodeValue?, readHead?_encodeKind, named, kind,
      decodeFloat?_bigEndian, Option.map_some]
  | text s =>
    refine restores_of_succ fun fuel depth rest _ _ => ?_
    obtain ⟨raw, kind, named⟩ := decodeName?_kindNames 4 rfl
    simp only [encodeValue, List.append_assoc, decodeValue?, readHead?_encodeKind, named, kind,
      decodeText?_encodeText sizes.here, Option.map_some]
  | bytes bs =>
    refine restores_of_succ fun fuel depth rest _ room => ?_
    obtain ⟨raw, kind, named⟩ := decodeName?_kindNames 5 rfl
    simp only [encodeValue, List.append_assoc, decodeValue?, readHead?_encodeKind, named, kind,
      decodeBytes?_encodeArrayHead sizes.here room, Option.map_some]
  | list items ih =>
    exact restores_list (fun v hmem => ih v hmem (ordered.of_mem_list hmem)
      (sizes.of_mem_list hmem)) sizes.here
  | map entries ih =>
    exact restores_map (fun entry hmem => ih entry hmem (ordered.of_mem_map hmem)
      (sizes.of_mem_map hmem)) ordered.here sizes.here

/-! ## Messages -/

theorem decodeEntryMap?_encodeMapHead {m : Message} (ordered : m.Ordered)
    (sizes : m.SizesBelow (Nat.pow 256 4)) {depth : Nat} (room : m.nesting < depth)
    (more : Bytes) :
    decodeEntryMap? (depth + 1)
        (encodeMapHead m.entries.length ++ (encodeEntries m.entries ++ more)) =
      some (m.entries, more) := by
  have restores : ∀ entry ∈ m.entries, Restores entry.2 := fun entry hmem =>
    restores_of_ordered (Value.AllParts.of_mem_map ordered hmem)
      (Value.AllParts.of_mem_map sizes hmem)
  obtain ⟨count, keys⟩ := sizes.here
  have enough : (encodeEntries m.entries).length < (encodeEntries m.entries ++ more).length + 1 := by
    rw [List.length_append]
    omega
  have all := decodeEntries?_encodeEntries restores keys [] ordered.here enough room more
  simp only [decodeEntryMap?, readHead?_encodeMapHead count, all, List.nil_append]

theorem decode?_encode {m : Message} (ordered : m.Ordered)
    (sizes : m.SizesBelow (Nat.pow 256 4)) (nesting : m.nesting < 1021) (more : Bytes) :
    decode? (encode m ++ more) = some m := by
  -- the array of the message and the map of its entries are two levels of the limit
  have levels : depthLimit - 1 = 1021 + 1 := rfl
  rw [encode, List.append_assoc, List.append_assoc, decode?,
    readHead?_encodeArrayHead (by decide)]
  simp only [levels, decodeEntryMap?_encodeMapHead ordered sizes nesting, Option.map_some]

end SessionNet.Format.MessagePack

namespace SessionNet.Message

/--
A message is read back from its bytes, and what follows them makes no difference. Its maps are in
order, as all maps are that were built by insertion; its texts and collections have lengths below
2^32, and at most 1020 lists and maps are nested in its values. Floating-point numbers come back
with every bit.
-/
theorem deserialize_messagePack (m : Message) (ordered : m.Ordered)
    (sizes : m.SizesBelow (Nat.pow 2 32)) (nesting : m.nesting ≤ 1020) (more : Bytes) :
    deserialize .messagePack (m.serialize .messagePack ++ more) = .ok m := by
  have read := Format.MessagePack.decode?_encode ordered sizes (Nat.lt_succ_of_le nesting) more
  simp only [deserialize, serialize, read]

/-- A value of every kind, with sizes and numbers in several of the shapes they can have. -/
def specimen : Message :=
  .ofList [("null", .null), ("bool", .bool true), ("int", .int Int64.minValue),
    ("nan", .float 0x7ff8000000000001), ("text", .text "ß\n\"😀"),
    ("bytes", .bytes [0, 127, 128, 255]),
    ("list", .list [.int 300, .list [.null, .text ""], .map [("", .bytes []), ("k", .int (-33))]])]

theorem deserialize_messagePack_specimen :
    specimen.Ordered ∧ specimen.SizesBelow (Nat.pow 2 32) ∧ specimen.nesting ≤ 1020 ∧
      deserialize .messagePack (specimen.serialize .messagePack ++ [0xc1]) = .ok specimen := by
  have ordered : specimen.Ordered := by
    apply ordered_ofList
    decide +kernel
  have sizes : specimen.SizesBelow (Nat.pow 2 32) := by decide +kernel
  have nesting : specimen.nesting ≤ 1020 := by decide +kernel
  exact ⟨ordered, sizes, nesting, deserialize_messagePack specimen ordered sizes nesting [0xc1]⟩

end SessionNet.Message
