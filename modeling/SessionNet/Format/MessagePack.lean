import SessionNet.Message
import SessionNet.Number.Floating
import SessionNet.Text.Utf8

/-!
# MessagePack

Messages in MessagePack. A message is an array of one element, its map of entries; a value is a map
of one entry from the name of its kind to its content, and the null value is the name alone. Numbers
are written in the shortest form. Reading is more liberal than writing: every width of a number is
accepted, kinds may be given by position, raw bytes may stand for texts and for arrays of bytes, the
message may be a map keyed by field, and bytes after the message are ignored.
-/

namespace SessionNet.Format.MessagePack

/-! ## Writing -/

/-- A number that is not negative, in the fewest bytes. -/
def encodeUnsigned (n : Nat) : Bytes :=
  if n < 0x80 then [UInt8.ofNat n]
  else if n < 0x100 then 0xcc :: Bytes.bigEndian 1 n
  else if n < 0x10000 then 0xcd :: Bytes.bigEndian 2 n
  else if n < 0x100000000 then 0xce :: Bytes.bigEndian 4 n
  else 0xcf :: Bytes.bigEndian 8 n

/-- A negative number by its distance from zero, in the fewest bytes. -/
def encodeNegative (distance : Nat) : Bytes :=
  if distance ≤ 0x20 then [UInt8.ofNat (0x100 - distance)]
  else if distance ≤ 0x80 then 0xd0 :: Bytes.bigEndian 1 (0x100 - distance)
  else if distance ≤ 0x8000 then 0xd1 :: Bytes.bigEndian 2 (0x10000 - distance)
  else if distance ≤ 0x80000000 then 0xd2 :: Bytes.bigEndian 4 (0x100000000 - distance)
  else 0xd3 :: Bytes.bigEndian 8 (0x10000000000000000 - distance)

/-- An integer in the fewest bytes. -/
def encodeInt (n : Int) : Bytes :=
  if 0 ≤ n then encodeUnsigned n.toNat else encodeNegative n.natAbs

/-- The head of a text of `n` bytes. -/
def encodeTextHead (n : Nat) : Bytes :=
  if n < 0x20 then [UInt8.ofNat (0xa0 + n)]
  else if n < 0x100 then 0xd9 :: Bytes.bigEndian 1 n
  else if n < 0x10000 then 0xda :: Bytes.bigEndian 2 n
  else 0xdb :: Bytes.bigEndian 4 n

/-- The head of an array of `n` elements. -/
def encodeArrayHead (n : Nat) : Bytes :=
  if n < 0x10 then [UInt8.ofNat (0x90 + n)]
  else if n < 0x10000 then 0xdc :: Bytes.bigEndian 2 n
  else 0xdd :: Bytes.bigEndian 4 n

/-- The head of a map of `n` entries. -/
def encodeMapHead (n : Nat) : Bytes :=
  if n < 0x10 then [UInt8.ofNat (0x80 + n)]
  else if n < 0x10000 then 0xde :: Bytes.bigEndian 2 n
  else 0xdf :: Bytes.bigEndian 4 n

def encodeText (s : String) : Bytes :=
  let raw := Text.utf8 s
  encodeTextHead raw.length ++ raw

/-- The map head and kind name in front of a content. -/
def encodeKind (name : String) : Bytes := encodeMapHead 1 ++ encodeText name

mutual

def encodeValue : Value → Bytes
  | .null => encodeText "Null"
  | .bool b => encodeKind "Bool" ++ [if b then 0xc3 else 0xc2]
  | .int n => encodeKind "Int" ++ encodeInt n.toInt
  | .float bits => encodeKind "Float" ++ 0xcb :: Bytes.bigEndian 8 bits.toNat
  | .text s => encodeKind "Str" ++ encodeText s
  | .bytes bs =>
    encodeKind "Bytes" ++ encodeArrayHead bs.length ++ bs.flatMap fun b => encodeUnsigned b.toNat
  | .list items => encodeKind "List" ++ encodeArrayHead items.length ++ encodeItems items
  | .map entries => encodeKind "Map" ++ encodeMapHead entries.length ++ encodeEntries entries

/-- Values one after the other. -/
def encodeItems : List Value → Bytes
  | [] => []
  | v :: vs => encodeValue v ++ encodeItems vs

def encodeEntries : List (String × Value) → Bytes
  | [] => []
  | (k, v) :: rest => encodeText k ++ encodeValue v ++ encodeEntries rest

end

def encode (m : Message) : Bytes :=
  encodeArrayHead 1 ++ encodeMapHead m.entries.length ++ encodeEntries m.entries

/-! ## Heads -/

/-- What stands at the front of an item: a scalar, or the kind and length of what follows. -/
inductive Head where
  | nil
  | bool (value : Bool)
  | unsigned (value : Nat)
  | signed (value : Int)
  | single (bits : Nat)
  | double (bits : Nat)
  | text (length : Nat)
  | raw (length : Nat)
  | array (length : Nat)
  | map (length : Nat)
  | extension (length : Nat)
  deriving DecidableEq, Repr

/-- A two's complement number of `width` bytes. -/
def toSigned (width n : Nat) : Int :=
  if n < Nat.pow 256 width / 2 then n else (n : Int) - Nat.pow 256 width

def readHead? : Bytes → Option (Head × Bytes)
  | [] => none
  | marker :: bs =>
    let m := marker.toNat
    let sized (width : Nat) (head : Nat → Head) : Option (Head × Bytes) :=
      (Bytes.readBig? width bs).map fun (n, bs) => (head n, bs)
    if m < 0x80 then some (.unsigned m, bs)
    else if m < 0x90 then some (.map (m - 0x80), bs)
    else if m < 0xa0 then some (.array (m - 0x90), bs)
    else if m < 0xc0 then some (.text (m - 0xa0), bs)
    else if 0xe0 ≤ m then some (.signed ((m : Int) - 0x100), bs)
    else
      match m with
      | 0xc0 => some (.nil, bs)
      | 0xc2 => some (.bool false, bs)
      | 0xc3 => some (.bool true, bs)
      | 0xc4 => sized 1 .raw
      | 0xc5 => sized 2 .raw
      | 0xc6 => sized 4 .raw
      | 0xc7 => sized 1 .extension
      | 0xc8 => sized 2 .extension
      | 0xc9 => sized 4 .extension
      | 0xca => sized 4 .single
      | 0xcb => sized 8 .double
      | 0xcc => sized 1 .unsigned
      | 0xcd => sized 2 .unsigned
      | 0xce => sized 4 .unsigned
      | 0xcf => sized 8 .unsigned
      | 0xd0 => sized 1 fun n => .signed (toSigned 1 n)
      | 0xd1 => sized 2 fun n => .signed (toSigned 2 n)
      | 0xd2 => sized 4 fun n => .signed (toSigned 4 n)
      | 0xd3 => sized 8 fun n => .signed (toSigned 8 n)
      | 0xd4 => some (.extension 1, bs)
      | 0xd5 => some (.extension 2, bs)
      | 0xd6 => some (.extension 4, bs)
      | 0xd7 => some (.extension 8, bs)
      | 0xd8 => some (.extension 16, bs)
      | 0xd9 => sized 1 .text
      | 0xda => sized 2 .text
      | 0xdb => sized 4 .text
      | 0xdc => sized 2 .array
      | 0xdd => sized 4 .array
      | 0xde => sized 2 .map
      | 0xdf => sized 4 .map
      | _ => none

/-! ## Reading scalars -/

/-- How deep arrays and maps may nest, the outermost included. -/
def depthLimit : Nat := 1023

/-- An integer of a signed 64-bit range. -/
def decodeInt? (bs : Bytes) : Option (Int64 × Bytes) :=
  match readHead? bs with
  | some (.unsigned n, bs) => if n < Nat.pow 2 63 then some (Int64.ofNat n, bs) else none
  | some (.signed n, bs) => some (Int64.ofInt n, bs)
  | _ => none

/-- A number, rounded to double precision. -/
def decodeFloat? (bs : Bytes) : Option (UInt64 × Bytes) :=
  let double := Number.Floating.double
  match readHead? bs with
  | some (.unsigned n, bs) => some (UInt64.ofNat (double.ofNat n), bs)
  | some (.signed n, bs) =>
    some (UInt64.ofNat (double.signed (n < 0) (double.ofNat n.natAbs)), bs)
  | some (.single bits, bs) =>
    some (UInt64.ofNat (Number.Floating.convert .single .double bits), bs)
  | some (.double bits, bs) => some (UInt64.ofNat bits, bs)
  | _ => none

/-- A text, also from raw bytes. -/
def decodeText? (bs : Bytes) : Option (String × Bytes) :=
  match readHead? bs with
  | some (.text length, bs) | some (.raw length, bs) =>
    match Bytes.takeExactly? length bs with
    | some (raw, bs) => (Text.ofUtf8? raw).map fun s => (s, bs)
    | none => none
  | _ => none

/-- `count` numbers below 256 behind those already read, which are newest first. -/
def decodeByteItems? : (count : Nat) → Bytes → Bytes → Option (Bytes × Bytes)
  | 0, items, bs => some (items.reverse, bs)
  | count + 1, items, bs =>
    match readHead? bs with
    | some (.unsigned n, bs) =>
      if n < 256 then decodeByteItems? count (UInt8.ofNat n :: items) bs else none
    | some (.signed n, bs) =>
      if 0 ≤ n ∧ n < 256 then decodeByteItems? count (UInt8.ofNat n.toNat :: items) bs else none
    | _ => none

/-- Bytes as an array of numbers, with the depth left for it, or as raw bytes. -/
def decodeBytes? (depth : Nat) (bs : Bytes) : Option (Bytes × Bytes) :=
  match readHead? bs with
  | some (.array count, bs) => if depth = 0 then none else decodeByteItems? count [] bs
  | some (.raw length, bs) => Bytes.takeExactly? length bs
  | _ => none

/-- A name given by text, by raw bytes or by position. -/
inductive Name where
  | bytes (raw : Bytes)
  | position (index : Nat)

def decodeName? (bs : Bytes) : Option (Name × Bytes) :=
  match readHead? bs with
  | some (.unsigned n, bs) => some (.position n, bs)
  | some (.text length, bs) | some (.raw length, bs) =>
    (Bytes.takeExactly? length bs).map fun (raw, bs) => (.bytes raw, bs)
  | _ => none

/-- The names of the kinds of value, in order of their positions. -/
def kindNames : List String := ["Null", "Bool", "Int", "Float", "Str", "Bytes", "List", "Map"]

/-- The position of a kind given by name. -/
def kindIndex? : Name → Option Nat
  | .position n => if n < kindNames.length then some n else none
  | .bytes raw => kindNames.findIdx? fun name => Text.utf8 name == raw

/-! ## Reading values -/

mutual

/-- A value; `depth` arrays and maps may still nest, and `fuel` is never short when it is the number
of bytes. -/
def decodeValue? : (fuel depth : Nat) → Bytes → Option (Value × Bytes)
  | 0, _, _ => none
  | fuel + 1, depth, bs =>
    match readHead? bs with
    | none => none
    | some (.map 1, bs) =>
      match decodeName? bs with
      | none => none
      | some (name, bs) =>
        match kindIndex? name with
        | some 0 =>
          match bs with
          | 0xc0 :: bs => some (.null, bs)
          | _ => none
        | some 1 =>
          match readHead? bs with
          | some (.bool b, bs) => some (.bool b, bs)
          | _ => none
        | some 2 => (decodeInt? bs).map fun (n, bs) => (.int n, bs)
        | some 3 => (decodeFloat? bs).map fun (bits, bs) => (.float bits, bs)
        | some 4 => (decodeText? bs).map fun (s, bs) => (.text s, bs)
        | some 5 => (decodeBytes? depth bs).map fun (raw, bs) => (.bytes raw, bs)
        | some 6 =>
          match readHead? bs, depth with
          | some (.array count, bs), depth + 1 =>
            (decodeItems? fuel depth count [] bs).map fun (items, bs) => (.list items, bs)
          | some (.raw 0, bs), _ => some (.list [], bs)
          | _, _ => none
        | some 7 =>
          match readHead? bs, depth with
          | some (.map count, bs), depth + 1 =>
            (decodeEntries? fuel depth count [] bs).map fun (entries, bs) => (.map entries, bs)
          | _, _ => none
        | _ => none
    | some (.map _, _) => none
    | some _ =>
      match decodeName? bs with
      | none => none
      | some (name, bs) => if kindIndex? name = some 0 then some (.null, bs) else none

/-- `count` values behind those already read, which are newest first. -/
def decodeItems? : (fuel depth count : Nat) → List Value → Bytes → Option (List Value × Bytes)
  | _, _, 0, items, bs => some (items.reverse, bs)
  | 0, _, _ + 1, _, _ => none
  | fuel + 1, depth, count + 1, items, bs =>
    match decodeValue? fuel depth bs with
    | none => none
    | some (value, bs) => decodeItems? fuel depth count (value :: items) bs

/-- `count` entries inserted into those already read. -/
def decodeEntries? : (fuel depth count : Nat) → Entries → Bytes → Option (Entries × Bytes)
  | _, _, 0, entries, bs => some (entries, bs)
  | 0, _, _ + 1, _, _ => none
  | fuel + 1, depth, count + 1, entries, bs =>
    match decodeText? bs with
    | none => none
    | some (key, bs) =>
      match decodeValue? fuel depth bs with
      | none => none
      | some (value, bs) => decodeEntries? fuel depth count (entries.insert key value) bs

end

mutual

/-- Pass over one item of any kind; `fuel` is never short when it is twice the number of bytes and
two. -/
def skip? : (fuel depth : Nat) → Bytes → Option Bytes
  | 0, _, _ => none
  | fuel + 1, depth, bs =>
    match readHead? bs with
    | none => none
    | some (.text length, bs) | some (.raw length, bs) =>
      (Bytes.takeExactly? length bs).map Prod.snd
    | some (.array count, bs) =>
      match depth with
      | 0 => none
      | depth + 1 => skipItems? fuel depth count bs
    | some (.map count, bs) =>
      match depth with
      | 0 => none
      | depth + 1 => skipItems? fuel depth (2 * count) bs
    | some (.extension length, bs) =>
      if depth = 0 then none else (Bytes.takeExactly? (length + 1) bs).map Prod.snd
    | some (_, bs) => some bs

/-- Pass over `count` items. -/
def skipItems? : (fuel depth count : Nat) → Bytes → Option Bytes
  | _, _, 0, bs => some bs
  | 0, _, _ + 1, _ => none
  | fuel + 1, depth, count + 1, bs =>
    match skip? fuel depth bs with
    | none => none
    | some bs => skipItems? fuel depth count bs

end

/-! ## Reading messages -/

def decodeEntryMap? (depth : Nat) (bs : Bytes) : Option (Entries × Bytes) :=
  match readHead? bs, depth with
  | some (.map count, bs), depth + 1 => decodeEntries? (bs.length + 1) depth count [] bs
  | _, _ => none

/-- `count` fields of a message given as a map; the entries must be among them, and only once. -/
def decodeFields? (depth : Nat) : (count : Nat) → Option Entries → Bytes → Option (Entries × Bytes)
  | 0, found, bs => found.map fun entries => (entries, bs)
  | count + 1, found, bs =>
    match decodeName? bs with
    | none => none
    | some (name, bs) =>
      let isEntries :=
        match name with
        | .position n => n == 0
        | .bytes raw => Text.utf8 "entries" == raw
      if isEntries then
        if found.isSome then none
        else
          match decodeEntryMap? depth bs with
          | none => none
          | some (entries, bs) => decodeFields? depth count (some entries) bs
      else
        match skip? (2 * bs.length + 2) depth bs with
        | none => none
        | some bs => decodeFields? depth count found bs

/-- The message at the front of `bs`; what follows it is ignored. -/
def decode? (bs : Bytes) : Option Message :=
  match readHead? bs with
  | some (.array 1, bs) =>
    (decodeEntryMap? (depthLimit - 1) bs).map fun (entries, _) => ⟨entries⟩
  | some (.map count, bs) =>
    (decodeFields? (depthLimit - 1) count none bs).map fun (entries, _) => ⟨entries⟩
  | _ => none

end SessionNet.Format.MessagePack
