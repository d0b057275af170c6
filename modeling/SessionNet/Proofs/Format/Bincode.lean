import SessionNet.Format
import SessionNet.Proofs.Bytes
import SessionNet.Proofs.Message

/-!
# Reading the fixed layout undoes writing it

Nothing in the layout says where a value ends, so every field has to take exactly the bytes that
were written for it. It does, whatever follows: a value is read back from its bytes as long as its
lengths fit in eight bytes, however deep it nests. What stands behind a message is ignored, hence
the bytes of a message are not the beginning of those of another one.
-/

namespace SessionNet.Format.Bincode

/-! ## Fields -/

theorem readLittle?_encodeLength {n : Nat} (h : n < Nat.pow 256 8) (rest : Bytes) :
    Bytes.readLittle? 8 (encodeLength n ++ rest) = some (n, rest) :=
  Bytes.readLittle?_littleEndian h rest

theorem readLittle?_encodeKind (kind : Nat) (h : kind < Nat.pow 256 4) (rest : Bytes) :
    Bytes.readLittle? 4 (encodeKind kind ++ rest) = some (kind, rest) :=
  Bytes.readLittle?_littleEndian h rest

theorem decodeBytes?_encodeBytes {bs : Bytes} (short : bs.length < Nat.pow 256 8) (rest : Bytes) :
    decodeBytes? (encodeBytes bs ++ rest) = some (bs, rest) := by
  rw [encodeBytes, List.append_assoc, decodeBytes?, readLittle?_encodeLength short]
  exact Bytes.takeExactly?_append rfl rest

theorem decodeText?_encodeText {s : String} (short : (Text.utf8 s).length < Nat.pow 256 8)
    (rest : Bytes) : decodeText? (encodeText s ++ rest) = some (s, rest) := by
  simp only [encodeText, decodeText?, decodeBytes?_encodeBytes short, Text.ofUtf8?_utf8,
    Option.bind_eq_bind, Option.bind_some]

/-! ## Values -/

/-- A value is read back from its bytes, given that much fuel. -/
def Restores (v : Value) : Prop :=
  ∀ fuel rest, (encodeValue v).length ≤ fuel →
    decodeValue? fuel (encodeValue v ++ rest) = some (v, rest)

theorem length_encodeKind (kind : Nat) : (encodeKind kind).length = 4 :=
  Bytes.length_littleEndian 4 kind

theorem length_encodeValue_pos (v : Value) : 0 < (encodeValue v).length := by
  cases v with
  | null => exact Nat.lt_of_lt_of_eq (by decide) (length_encodeKind 0).symm
  | bool | int | float | text | bytes | list | map =>
    simp only [encodeValue, List.append_assoc, List.length_append, length_encodeKind]
    omega

theorem decodeItems?_encodeItems {items : List Value} (restores : ∀ v ∈ items, Restores v)
    {fuel : Nat} (enough : (encodeItems items).length < fuel) (read : List Value) (rest : Bytes) :
    decodeItems? fuel items.length read (encodeItems items ++ rest) =
      some (read.reverse ++ items, rest) := by
  induction items generalizing fuel read with
  | nil => simp [decodeItems?, encodeItems]
  | cons v vs ih =>
    -- a value has bytes of its own, so the step that it takes leaves enough for the others
    have nonempty := length_encodeValue_pos v
    rw [encodeItems, List.length_append] at enough
    obtain ⟨fuel, rfl⟩ : ∃ less, fuel = less + 1 := ⟨fuel - 1, by omega⟩
    have first := restores v List.mem_cons_self fuel (encodeItems vs ++ rest) (by omega)
    have left : (encodeItems vs).length < fuel := by omega
    have others := ih (fun v hmem => restores v (List.mem_cons_of_mem _ hmem)) left (v :: read)
    rw [encodeItems, List.append_assoc, List.length_cons, decodeItems?, first]
    simp only [others, List.reverse_cons, List.append_assoc, List.singleton_append]

theorem decodeEntries?_encodeEntries {entries : Entries}
    (restores : ∀ entry ∈ entries, Restores entry.2)
    (short : ∀ entry ∈ entries, (Text.utf8 entry.1).length < Nat.pow 256 8) (before : Entries)
    (ascending : Entries.Ascending (before ++ entries)) {fuel : Nat}
    (enough : (encodeEntries entries).length < fuel) (rest : Bytes) :
    decodeEntries? fuel entries.length before (encodeEntries entries ++ rest) =
      some (before ++ entries, rest) := by
  induction entries generalizing fuel before with
  | nil => simp [decodeEntries?, encodeEntries]
  | cons entry entries ih =>
    obtain ⟨key, v⟩ := entry
    have nonempty := length_encodeValue_pos v
    rw [encodeEntries, List.length_append, List.length_append] at enough
    obtain ⟨fuel, rfl⟩ : ∃ less, fuel = less + 1 := ⟨fuel - 1, by omega⟩
    have restored : Restores v := restores (key, v) List.mem_cons_self
    have first := restored fuel (encodeEntries entries ++ rest) (by omega)
    -- the key is beyond all keys before it, so its entry is put last
    have inserted := Entries.insert_of_ascending ascending
    rw [List.append_cons] at ascending
    have left : (encodeEntries entries).length < fuel := by omega
    have others := ih (fun entry hmem => restores entry (List.mem_cons_of_mem _ hmem))
      (fun entry hmem => short entry (List.mem_cons_of_mem _ hmem)) _ ascending left
    rw [encodeEntries, List.append_assoc, List.append_assoc, List.length_cons, decodeEntries?,
      decodeText?_encodeText (short _ List.mem_cons_self)]
    simp only [first, inserted, others, List.append_assoc, List.singleton_append]

/-- Who spends a step of fuel on the number of the kind has enough left for the rest. -/
theorem restores_of_content {v : Value} {kind : Nat} {content : Bytes}
    (written : encodeValue v = encodeKind kind ++ content)
    (h : ∀ fuel rest, content.length < fuel →
      decodeValue? (fuel + 1) (encodeKind kind ++ (content ++ rest)) = some (v, rest)) :
    Restores v := by
  intro fuel rest enough
  rw [written, List.length_append, length_encodeKind] at enough
  obtain ⟨fuel, rfl⟩ : ∃ less, fuel = less + 1 := ⟨fuel - 1, by omega⟩
  rw [written, List.append_assoc]
  exact h fuel rest (by omega)

theorem restores_int (n : Int64) : Restores (.int n) := by
  refine restores_of_content rfl fun fuel rest _ => ?_
  have read : Bytes.readLittle? 8 (Bytes.littleEndian 8 n.toUInt64.toNat ++ rest) =
      some (n.toUInt64.toNat, rest) := Bytes.readLittle?_littleEndian n.toUInt64.toNat_lt rest
  simp only [decodeValue?, readLittle?_encodeKind 2 (by decide), read,
    Option.bind_eq_bind, Option.bind_some, UInt64.ofNat_toNat, Int64.toInt64_toUInt64]

theorem restores_float (bits : UInt64) : Restores (.float bits) := by
  refine restores_of_content rfl fun fuel rest _ => ?_
  have read : Bytes.readLittle? 8 (Bytes.littleEndian 8 bits.toNat ++ rest) =
      some (bits.toNat, rest) := Bytes.readLittle?_littleEndian bits.toNat_lt rest
  simp only [decodeValue?, readLittle?_encodeKind 3 (by decide), read,
    Option.bind_eq_bind, Option.bind_some, UInt64.ofNat_toNat]

theorem restores_list {items : List Value} (restores : ∀ v ∈ items, Restores v)
    (short : items.length < Nat.pow 256 8) : Restores (.list items) := by
  refine restores_of_content (List.append_assoc _ _ _) fun fuel rest enough => ?_
  rw [List.length_append] at enough
  have left : (encodeItems items).length < fuel := by omega
  have all := decodeItems?_encodeItems restores left [] rest
  simp only [List.append_assoc, decodeValue?, readLittle?_encodeKind 6 (by decide),
    readLittle?_encodeLength short, all, Option.bind_eq_bind, Option.bind_some, List.reverse_nil,
    List.nil_append]

theorem restores_map {entries : Entries} (restores : ∀ entry ∈ entries, Restores entry.2)
    (ascending : Entries.Ascending entries)
    (short : (Value.map entries).Short (Nat.pow 256 8)) : Restores (.map entries) := by
  refine restores_of_content (List.append_assoc _ _ _) fun fuel rest enough => ?_
  rw [List.length_append] at enough
  have left : (encodeEntries entries).length < fuel := by omega
  have all := decodeEntries?_encodeEntries restores short.2 [] ascending left rest
  simp only [List.append_assoc, decodeValue?, readLittle?_encodeKind 7 (by decide),
    readLittle?_encodeLength short.1, all, Option.bind_eq_bind, Option.bind_some, List.nil_append]

/-- Every value whose maps are in order and whose lengths fit in eight bytes is read back. -/
theorem restores_of_ordered {v : Value} (ordered : v.Ordered)
    (sizes : v.SizesBelow (Nat.pow 256 8)) : Restores v := by
  induction v using Value.nestedInduction with
  | null =>
    refine restores_of_content (List.append_nil _).symm fun fuel rest _ => ?_
    simp only [decodeValue?, readLittle?_encodeKind 0 (by decide), Option.bind_eq_bind,
      Option.bind_some, List.nil_append]
  | bool b =>
    refine restores_of_content rfl fun fuel rest _ => ?_
    simp only [decodeValue?, readLittle?_encodeKind 1 (by decide), Option.bind_eq_bind,
      Option.bind_some]
    cases b <;> rfl
  | int n => exact restores_int n
  | float bits => exact restores_float bits
  | text s =>
    refine restores_of_content rfl fun fuel rest _ => ?_
    simp only [decodeValue?, readLittle?_encodeKind 4 (by decide),
      decodeText?_encodeText sizes.here, Option.bind_eq_bind, Option.bind_some]
  | bytes bs =>
    refine restores_of_content rfl fun fuel rest _ => ?_
    simp only [decodeValue?, readLittle?_encodeKind 5 (by decide),
      decodeBytes?_encodeBytes sizes.here, Option.bind_eq_bind, Option.bind_some]
  | list items ih =>
    exact restores_list (fun v hmem => ih v hmem (ordered.of_mem_list hmem)
      (sizes.of_mem_list hmem)) sizes.here
  | map entries ih =>
    exact restores_map (fun entry hmem => ih entry hmem (ordered.of_mem_map hmem)
      (sizes.of_mem_map hmem)) ordered.here sizes.here

/-! ## Messages -/

theorem decode?_encode {m : Message} (ordered : m.Ordered) (sizes : m.SizesBelow (Nat.pow 256 8))
    (more : Bytes) : decode? (encode m ++ more) = some m := by
  have restores : ∀ entry ∈ m.entries, Restores entry.2 := fun entry hmem =>
    restores_of_ordered (Value.AllParts.of_mem_map ordered hmem)
      (Value.AllParts.of_mem_map sizes hmem)
  obtain ⟨count, keys⟩ := sizes.here
  have enough : (encodeEntries m.entries).length <
      (encodeEntries m.entries ++ more).length + 1 := by
    rw [List.length_append]
    omega
  have all := decodeEntries?_encodeEntries restores keys [] ordered.here enough more
  simp only [encode, List.append_assoc, decode?, readLittle?_encodeLength count, all,
    Option.bind_eq_bind, Option.bind_some, List.nil_append]

end SessionNet.Format.Bincode

namespace SessionNet.Message

/--
A message is read back from its bytes, and what follows them makes no difference; so its bytes are
the beginning of no other message's bytes. Its maps are in order, as all maps are that were built by
insertion, and its texts and collections have lengths below 2^64; it may nest to any depth.
Floating-point numbers come back with every bit.
-/
theorem deserialize_bincode (m : Message) (ordered : m.Ordered)
    (sizes : m.SizesBelow (Nat.pow 2 64)) :
    (∀ more, deserialize .bincode (m.serialize .bincode ++ more) = .ok m) ∧
      ∀ other : Message, other.Ordered → other.SizesBelow (Nat.pow 2 64) →
        m.serialize .bincode <+: other.serialize .bincode → other = m := by
  have reads : ∀ m : Message, m.Ordered → m.SizesBelow (Nat.pow 2 64) → ∀ more,
      deserialize .bincode (m.serialize .bincode ++ more) = .ok m := by
    intro m ordered sizes more
    simp only [deserialize, serialize, Format.Bincode.decode?_encode ordered sizes more]
  refine ⟨reads m ordered sizes, ?_⟩
  rintro other ordered' sizes' ⟨more, longer⟩
  have whole := reads other ordered' sizes' []
  rw [List.append_nil, ← longer, reads m ordered sizes more] at whole
  exact (Except.ok.inj whole).symm

/-- A value of every kind, and more lists in each other than JSON reads. -/
def deepSpecimen : Message :=
  .ofList [("ß\n😀", .text ""), ("bytes", .bytes [0, 255]), ("nan", .float 0x7ff8000000000001),
    ("", .map [("", .null), ("k", .bool true)]),
    ("deep", (List.range 70).foldl (fun v _ => .list [v]) (.int Int64.minValue))]

theorem deserialize_bincode_deepSpecimen :
    let longer := deepSpecimen.insert "more" .null
    (deepSpecimen.Ordered ∧ deepSpecimen.SizesBelow (Nat.pow 2 64) ∧ deepSpecimen.nesting = 70) ∧
      (longer.Ordered ∧ longer.SizesBelow (Nat.pow 2 64)) ∧
      deserialize .bincode (deepSpecimen.serialize .bincode ++ [0xc1]) = .ok deepSpecimen ∧
      ¬ deepSpecimen.serialize .bincode <+: longer.serialize .bincode := by
  intro longer
  have ordered : deepSpecimen.Ordered := by decide +kernel
  have sizes : deepSpecimen.SizesBelow (Nat.pow 2 64) := by decide +kernel
  have nesting : deepSpecimen.nesting = 70 := by decide +kernel
  have ordered' : longer.Ordered := ordered.insert (by decide +kernel) "more"
  have sizes' : longer.SizesBelow (Nat.pow 2 64) := by decide +kernel
  obtain ⟨reads, alone⟩ := deserialize_bincode deepSpecimen ordered sizes
  refine ⟨⟨ordered, sizes, nesting⟩, ⟨ordered', sizes'⟩, reads [0xc1], ?_⟩
  intro shorter
  have counts : longer.size = deepSpecimen.size := by rw [alone longer ordered' sizes' shorter]
  exact absurd counts (by decide +kernel)

end SessionNet.Message
