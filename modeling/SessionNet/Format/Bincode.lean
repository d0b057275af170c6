import SessionNet.Message
import SessionNet.Text.Utf8

/-!
# The fixed-layout binary format

A compact layout that both peers have to know: little-endian integers, eight-byte lengths and a
four-byte number for the kind of a value. It is not self-describing, so reading follows the layout
exactly and ignores what comes after the message.
-/

namespace SessionNet.Format.Bincode

/-! ## Writing -/

def encodeLength (n : Nat) : Bytes := Bytes.littleEndian 8 n

/-- A length and that many bytes. -/
def encodeBytes (bs : Bytes) : Bytes := encodeLength bs.length ++ bs

/-- A text by its UTF-8 bytes. -/
def encodeText (s : String) : Bytes := encodeBytes (Text.utf8 s)

/-- The number of a kind of value. -/
def encodeKind (kind : Nat) : Bytes := Bytes.littleEndian 4 kind

mutual

def encodeValue : Value → Bytes
  | .null => encodeKind 0
  | .bool b => encodeKind 1 ++ [UInt8.ofNat b.toNat]
  | .int n => encodeKind 2 ++ Bytes.littleEndian 8 n.toUInt64.toNat
  | .float bits => encodeKind 3 ++ Bytes.littleEndian 8 bits.toNat
  | .text s => encodeKind 4 ++ encodeText s
  | .bytes bs => encodeKind 5 ++ encodeBytes bs
  | .list items => encodeKind 6 ++ encodeLength items.length ++ encodeItems items
  | .map entries => encodeKind 7 ++ encodeLength entries.length ++ encodeEntries entries

/-- Values one after the other. -/
def encodeItems : List Value → Bytes
  | [] => []
  | v :: vs => encodeValue v ++ encodeItems vs

def encodeEntries : List (String × Value) → Bytes
  | [] => []
  | (k, v) :: rest => encodeText k ++ encodeValue v ++ encodeEntries rest

end

def encode (m : Message) : Bytes := encodeLength m.entries.length ++ encodeEntries m.entries

/-! ## Reading -/

/-- A length and that many bytes. -/
def decodeBytes? (bs : Bytes) : Option (Bytes × Bytes) := do
  let (length, bs) ← Bytes.readLittle? 8 bs
  Bytes.takeExactly? length bs

/-- A text by its UTF-8 bytes. -/
def decodeText? (bs : Bytes) : Option (String × Bytes) := do
  let (raw, bs) ← decodeBytes? bs
  let text ← Text.ofUtf8? raw
  some (text, bs)

mutual

/-- A value; `fuel` bounds the steps and is never short when it is the number of bytes. -/
def decodeValue? : (fuel : Nat) → Bytes → Option (Value × Bytes)
  | 0, _ => none
  | fuel + 1, bs => do
    let (kind, bs) ← Bytes.readLittle? 4 bs
    match kind with
    | 0 => some (.null, bs)
    | 1 =>
      match bs with
      | 0 :: bs => some (.bool false, bs)
      | 1 :: bs => some (.bool true, bs)
      | _ => none
    | 2 =>
      let (n, bs) ← Bytes.readLittle? 8 bs
      some (.int (UInt64.ofNat n).toInt64, bs)
    | 3 =>
      let (n, bs) ← Bytes.readLittle? 8 bs
      some (.float (UInt64.ofNat n), bs)
    | 4 =>
      let (text, bs) ← decodeText? bs
      some (.text text, bs)
    | 5 =>
      let (raw, bs) ← decodeBytes? bs
      some (.bytes raw, bs)
    | 6 =>
      let (count, bs) ← Bytes.readLittle? 8 bs
      let (items, bs) ← decodeItems? fuel count [] bs
      some (.list items, bs)
    | 7 =>
      let (count, bs) ← Bytes.readLittle? 8 bs
      let (entries, bs) ← decodeEntries? fuel count [] bs
      some (.map entries, bs)
    | _ => none

/-- `count` values behind those already read, which are newest first. -/
def decodeItems? : (fuel count : Nat) → List Value → Bytes → Option (List Value × Bytes)
  | _, 0, items, bs => some (items.reverse, bs)
  | 0, _ + 1, _, _ => none
  | fuel + 1, count + 1, items, bs =>
    match decodeValue? fuel bs with
    | none => none
    | some (value, bs) => decodeItems? fuel count (value :: items) bs

/-- `count` entries inserted into those already read. -/
def decodeEntries? : (fuel count : Nat) → Entries → Bytes → Option (Entries × Bytes)
  | _, 0, entries, bs => some (entries, bs)
  | 0, _ + 1, _, _ => none
  | fuel + 1, count + 1, entries, bs =>
    match decodeText? bs with
    | none => none
    | some (key, bs) =>
      match decodeValue? fuel bs with
      | none => none
      | some (value, bs) => decodeEntries? fuel count (entries.insert key value) bs

end

/-- The message at the front of `bs`; what follows it is ignored. -/
def decode? (bs : Bytes) : Option Message := do
  let (count, bs) ← Bytes.readLittle? 8 bs
  let (entries, _) ← decodeEntries? (bs.length + 1) count [] bs
  some ⟨entries⟩

end SessionNet.Format.Bincode
