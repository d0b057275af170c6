import SessionNet.Message
import SessionNet.Number.Text
import SessionNet.Text.Utf8

/-!
# JSON

Messages as JSON text. A message is an object with the field `entries`; a value is an object from
the name of its kind to its content, and the null value is the name alone. Writing uses no spaces
and escapes quotes, backslashes and control characters. Reading takes white space around every
token, passes over unknown fields, and lets objects and arrays nest to a fixed depth. Both work on
bytes: a text is the bytes between its quotes, and they have to be valid UTF-8 where a text is
wanted.
-/

namespace SessionNet.Format.Json

/-! ## Writing -/

def ascii (s : String) : Bytes := Text.utf8 s

/-- A byte of a text, escaped where it has to be. -/
def escapeByte (b : UInt8) : Bytes :=
  if b = 0x22 then [0x5c, 0x22]
  else if b = 0x5c then [0x5c, 0x5c]
  else if b = 0x08 then [0x5c, 0x62]
  else if b = 0x09 then [0x5c, 0x74]
  else if b = 0x0a then [0x5c, 0x6e]
  else if b = 0x0c then [0x5c, 0x66]
  else if b = 0x0d then [0x5c, 0x72]
  else if b < 0x20 then [0x5c, 0x75, 0x30, 0x30, hexDigit (b / 16), hexDigit (b % 16)]
  else [b]
where
  /-- A lower-case hexadecimal digit. -/
  hexDigit (n : UInt8) : UInt8 := if n < 10 then 0x30 + n else 0x57 + n

def encodeText (s : String) : Bytes := 0x22 :: ((Text.utf8 s).flatMap escapeByte ++ [0x22])

def encodeInt (n : Int) : Bytes :=
  if 0 ≤ n then ascii (Number.natText n.toNat) else 0x2d :: ascii (Number.natText n.natAbs)

/--
Floating-point numbers have the fewest digits that read back, at least one of them after the point,
and an exponent below 1e-5 and from 1e16 on.
-/
def floatStyle : Number.FloatStyle := ⟨.toEven, 1, some (-5, 16), "null", "null"⟩

/-- A floating-point number; those that are no finite number become `null`. -/
def encodeFloat (bits : UInt64) : Bytes :=
  match Number.Floating.double.parts bits.toNat with
  | .finite .. => ascii (floatStyle.write .double bits.toNat)
  | _ => ascii "null"

/-- A value's content behind its kind. -/
def encodeKind (name : String) (content : Bytes) : Bytes :=
  0x7b :: (encodeText name ++ 0x3a :: (content ++ [0x7d]))

/-- Numbers between brackets. -/
def encodeByteItems (bs : Bytes) : Bytes :=
  0x5b :: (bs.flatMap (fun b => 0x2c :: ascii (Number.natText b.toNat))).drop 1 ++ [0x5d]

mutual

def encodeValue : Value → Bytes
  | .null => encodeText "Null"
  | .bool b => encodeKind "Bool" (ascii (if b then "true" else "false"))
  | .int n => encodeKind "Int" (encodeInt n.toInt)
  | .float bits => encodeKind "Float" (encodeFloat bits)
  | .text s => encodeKind "Str" (encodeText s)
  | .bytes bs => encodeKind "Bytes" (encodeByteItems bs)
  | .list items => encodeKind "List" (0x5b :: ((encodeItems items).drop 1 ++ [0x5d]))
  | .map entries => encodeKind "Map" (0x7b :: ((encodeEntries entries).drop 1 ++ [0x7d]))

/-- Values, a comma before each. -/
def encodeItems : List Value → Bytes
  | [] => []
  | v :: vs => 0x2c :: (encodeValue v ++ encodeItems vs)

/-- Entries, a comma before each. -/
def encodeEntries : List (String × Value) → Bytes
  | [] => []
  | (k, v) :: rest => 0x2c :: (encodeText k ++ 0x3a :: (encodeValue v ++ encodeEntries rest))

end

def encode (m : Message) : Bytes :=
  0x7b :: (encodeText "entries"
    ++ 0x3a :: 0x7b :: ((encodeEntries m.entries).drop 1 ++ [0x7d, 0x7d]))

/-! ## Tokens -/

/-- Whether a byte is white space between tokens. -/
def isSpace (b : UInt8) : Bool := b == 0x20 || b == 0x0a || b == 0x09 || b == 0x0d

/-- Pass over white space. -/
def skipSpace (bs : Bytes) : Bytes := bs.dropWhile isSpace

/-- Pass over white space and one given byte. -/
def expect? (b : UInt8) (bs : Bytes) : Option Bytes :=
  match skipSpace bs with
  | c :: bs => if c = b then some bs else none
  | [] => none

/-- Pass over a given word. -/
def word? (w : String) (bs : Bytes) : Option Bytes :=
  let w := ascii w
  if w.isPrefixOf bs then some (bs.drop w.length) else none

def isDigit (b : UInt8) : Bool := 0x30 ≤ b && b ≤ 0x39

def hexValue? (b : UInt8) : Option Nat :=
  if isDigit b then some (b.toNat - 0x30)
  else if 0x61 ≤ b && b ≤ 0x66 then some (b.toNat - 0x57)
  else if 0x41 ≤ b && b ≤ 0x46 then some (b.toNat - 0x37)
  else none

/-- Four hexadecimal digits. -/
def codeUnit? : Bytes → Option (Nat × Bytes)
  | a :: b :: c :: d :: bs => do
    let a ← hexValue? a
    let b ← hexValue? b
    let c ← hexValue? c
    let d ← hexValue? d
    some (((a * 16 + b) * 16 + c) * 16 + d, bs)
  | _ => none

/-- The character of an escape whose first code unit was read; a pair of surrogates is one. -/
def escapedChar? (unit : Nat) (bs : Bytes) : Option (Char × Bytes) :=
  if unit < 0xd800 ∨ 0xe000 ≤ unit then some (Char.ofNat unit, bs)
  else if 0xdc00 ≤ unit then none
  else
    match bs with
    | 0x5c :: 0x75 :: bs =>
      match codeUnit? bs with
      | some (low, bs) =>
        if 0xdc00 ≤ low ∧ low < 0xe000 then
          some (Char.ofNat (0x10000 + (unit - 0xd800) * 0x400 + (low - 0xdc00)), bs)
        else none
      | none => none
    | _ => none

def shortEscape? (b : UInt8) : Option UInt8 :=
  if b = 0x22 ∨ b = 0x5c ∨ b = 0x2f then some b
  else if b = 0x62 then some 0x08
  else if b = 0x66 then some 0x0c
  else if b = 0x6e then some 0x0a
  else if b = 0x72 then some 0x0d
  else if b = 0x74 then some 0x09
  else none

/--
The rest of a quoted text behind the bytes already `read`, which are newest first; `fuel` is never
short when it is the number of bytes.
-/
def readQuoted? : (fuel : Nat) → (read : Bytes) → Bytes → Option (Bytes × Bytes)
  | 0, _, _ => none
  | _, _, [] => none
  | fuel + 1, read, b :: bs =>
    if b = 0x22 then some (read.reverse, bs)
    else if b = 0x5c then
      match bs with
      | 0x75 :: bs =>
        match codeUnit? bs with
        | none => none
        | some (unit, bs) =>
          match escapedChar? unit bs with
          | none => none
          | some (c, bs) => readQuoted? fuel ((String.utf8EncodeChar c).reverse ++ read) bs
      | e :: bs =>
        match shortEscape? e with
        | none => none
        | some b => readQuoted? fuel (b :: read) bs
      | [] => none
    else if b < 0x20 then none
    else readQuoted? fuel (b :: read) bs

def readText? (bs : Bytes) : Option (String × Bytes) :=
  match expect? 0x22 bs with
  | none => none
  | some bs =>
    match readQuoted? (bs.length + 1) [] bs with
    | none => none
    | some (raw, bs) => (Text.ofUtf8? raw).map fun s => (s, bs)

/-! ## Numbers -/

/-- A number as it was written. -/
inductive Numeral where
  | unsigned (value : Nat)
  | negative (distance : Nat)
  | float (bits : Nat)
  deriving DecidableEq, Repr

/-- Integers beyond this are read as floating-point numbers. -/
def maxUnsigned : Nat := Nat.pow 2 64 - 1

/-- `significand * 10 ^ exponent` by at most `steps` divisions of a rounded significand. -/
def scaleDown : (steps : Nat) → (magnitude : Nat) → (exponent : Nat) → Nat
  | 0, magnitude, _ => magnitude
  | steps + 1, magnitude, exponent =>
    let double := Number.Floating.double
    if exponent ≤ 308 then double.divMagnitude magnitude (double.ofRatio (Nat.pow 10 exponent) 1)
    else if magnitude = 0 then 0
    else
      let scaled := double.divMagnitude magnitude (double.ofRatio (Nat.pow 10 308) 1)
      scaleDown steps scaled (exponent - 308)

/--
The number `significand * 10 ^ exponent`: the significand is rounded first, then multiplied by or
divided by a rounded power of ten, so the result may differ from the nearest number in its last
place. Numbers too large are refused.
-/
def fromParts? (negative : Bool) (significand : Nat) (exponent : Int) : Option Numeral :=
  let double := Number.Floating.double
  let magnitude := double.ofNat significand
  if exponent < 0 then
    some (.float (double.signed negative (scaleDown 8 magnitude exponent.natAbs)))
  else if significand = 0 then some (.float (double.signed negative 0))
  else if 308 < exponent then none
  else
    let product := double.mulMagnitude magnitude (double.ofRatio (Nat.pow 10 exponent.toNat) 1)
    if product = double.infinityBits then none
    else some (.float (double.signed negative product))

def takeDigits (bs : Bytes) : Bytes × Bytes := bs.span isDigit

/-- Add digits to a significand while it stays a 64-bit number; the digits left over come second. -/
def accumulate (significand : Nat) : Bytes → Nat × Bytes
  | [] => (significand, [])
  | d :: ds =>
    let next := significand * 10 + (d.toNat - 0x30)
    if maxUnsigned < next then (significand, d :: ds) else accumulate next ds

def readExponent? (negative : Bool) (significand : Nat) (start : Int) (bs : Bytes) :
    Option (Numeral × Bytes) :=
  let (down, bs) :=
    match bs with
    | 0x2b :: bs => (false, bs)
    | 0x2d :: bs => (true, bs)
    | _ => (false, bs)
  let (ds, bs) := takeDigits bs
  if ds.isEmpty then none
  else
    let size : Nat := ds.foldl (fun n d => min (n * 10 + (d.toNat - 0x30)) (Nat.pow 2 31)) 0
    if size = Nat.pow 2 31 then
      -- an exponent that no number reaches
      if significand ≠ 0 ∧ !down then none
      else some (.float (Number.Floating.double.signed negative 0), bs)
    else
      let exponent : Int := if down then start - size else start + size
      (fromParts? negative significand exponent).map fun n => (n, bs)

/-- What may follow the digits after the point. -/
def finishDecimal? (negative : Bool) (significand : Nat) (exponent : Int) (bs : Bytes) :
    Option (Numeral × Bytes) :=
  match bs with
  | 0x65 :: bs | 0x45 :: bs => readExponent? negative significand exponent bs
  | _ => (fromParts? negative significand exponent).map fun n => (n, bs)

/-- The digits after the point; once the significand is full the others are ignored. -/
def readDecimal? (negative : Bool) (significand : Nat) (before : Int) (bs : Bytes) :
    Option (Numeral × Bytes) :=
  let (ds, bs) := takeDigits bs
  if ds.isEmpty then none
  else
    let (significand, ignored) := accumulate significand ds
    finishDecimal? negative significand (before - (ds.length - ignored.length : Nat)) bs

/-- A number after its sign. -/
def readUnsigned? (negative : Bool) (bs : Bytes) : Option (Numeral × Bytes) :=
  let (ds, bs) := takeDigits bs
  match ds with
  | [] => none
  -- no digit follows a leading zero
  | 0x30 :: _ :: _ => none
  | ds =>
    let (significand, ignored) := accumulate 0 ds
    let before : Int := ignored.length
    match bs with
    | 0x2e :: bs => readDecimal? negative significand before bs
    | 0x65 :: bs | 0x45 :: bs => readExponent? negative significand before bs
    | _ =>
      if !ignored.isEmpty then
        (fromParts? negative significand before).map fun n => (n, bs)
      else if !negative then some (.unsigned significand, bs)
      -- a negative zero and what is below the signed range are no integers
      else if significand = 0 ∨ Nat.pow 2 63 < significand then
        let double := Number.Floating.double
        some (.float (double.signed true (double.ofNat significand)), bs)
      else some (.negative significand, bs)

def readNumeral? (bs : Bytes) : Option (Numeral × Bytes) :=
  match skipSpace bs with
  | 0x2d :: bs => readUnsigned? true bs
  | bs => readUnsigned? false bs

/-- A number of the signed 64-bit range. -/
def readInt? (bs : Bytes) : Option (Int64 × Bytes) :=
  match readNumeral? bs with
  | some (.unsigned n, bs) => if n < Nat.pow 2 63 then some (Int64.ofNat n, bs) else none
  | some (.negative n, bs) => some (Int64.ofInt (-n), bs)
  | _ => none

def readFloat? (bs : Bytes) : Option (UInt64 × Bytes) :=
  let double := Number.Floating.double
  match readNumeral? bs with
  | some (.unsigned n, bs) => some (UInt64.ofNat (double.ofNat n), bs)
  | some (.negative n, bs) => some (UInt64.ofNat (double.signed true (double.ofNat n)), bs)
  | some (.float bits, bs) => some (UInt64.ofNat bits, bs)
  | none => none

/-- A number below 256. -/
def readByte? (bs : Bytes) : Option (UInt8 × Bytes) :=
  match readNumeral? bs with
  | some (.unsigned n, bs) => if n < 256 then some (UInt8.ofNat n, bs) else none
  | _ => none

/-! ## Passing over values -/

/-- The digits of an exponent after its letter. -/
def skipExponent? (bs : Bytes) : Option Bytes :=
  let bs :=
    match bs with
    | 0x2b :: bs | 0x2d :: bs => bs
    | bs => bs
  let (ds, bs) := takeDigits bs
  if ds.isEmpty then none else some bs

def skipNumber? (bs : Bytes) : Option Bytes :=
  let (ds, bs) := takeDigits bs
  match ds with
  | [] => none
  | 0x30 :: _ :: _ => none
  | _ =>
    match bs with
    | 0x2e :: bs =>
      let (ds, bs) := takeDigits bs
      if ds.isEmpty then none
      else
        match bs with
        | 0x65 :: bs | 0x45 :: bs => skipExponent? bs
        | _ => some bs
    | 0x65 :: bs | 0x45 :: bs => skipExponent? bs
    | _ => some bs

/-- The rest of a quoted text whose characters do not matter. -/
def skipQuoted? : (fuel : Nat) → Bytes → Option Bytes
  | 0, _ => none
  | _, [] => none
  | fuel + 1, b :: bs =>
    if b = 0x22 then some bs
    else if b = 0x5c then
      match bs with
      | 0x75 :: bs =>
        match codeUnit? bs with
        | none => none
        | some (_, bs) => skipQuoted? fuel bs
      | e :: bs => if (shortEscape? e).isSome then skipQuoted? fuel bs else none
      | [] => none
    else if b < 0x20 then none
    else skipQuoted? fuel bs

/-- An array or an object that is being passed over. -/
inductive Enclosing where
  | array
  | object
  deriving DecidableEq, Repr

/-- The key and colon in front of an object's value. -/
def skipKey? (bs : Bytes) : Option Bytes :=
  match expect? 0x22 bs with
  | none => none
  | some bs =>
    match skipQuoted? (bs.length + 1) bs with
    | none => none
    | some bs => expect? 0x3a bs

/-- A value that is neither an array nor an object, behind white space. -/
def skipScalar? (bs : Bytes) : Option Bytes :=
  match bs with
  | 0x6e :: _ => word? "null" bs
  | 0x74 :: _ => word? "true" bs
  | 0x66 :: _ => word? "false" bs
  | 0x2d :: bs => skipNumber? bs
  | 0x22 :: bs => skipQuoted? (bs.length + 1) bs
  | _ => skipNumber? bs

/-- What comes next inside the enclosing arrays and objects. -/
inductive Expecting where
  /-- A value. -/
  | value
  /-- The first element, or the end. -/
  | first
  /-- A comma and another element, or the end. -/
  | more
  deriving DecidableEq, Repr

/-- Pass over a value inside `enclosing`, innermost first, to any depth. -/
def skipNested? : (fuel : Nat) → Expecting → (enclosing : List Enclosing) → Bytes → Option Bytes
  | 0, _, _, _ => none
  | fuel + 1, .value, enclosing, bs =>
    match skipSpace bs with
    | 0x5b :: bs => skipNested? fuel .first (.array :: enclosing) bs
    | 0x7b :: bs => skipNested? fuel .first (.object :: enclosing) bs
    | bs =>
      match skipScalar? bs with
      | none => none
      | some bs => if enclosing.isEmpty then some bs else skipNested? fuel .more enclosing bs
  | _ + 1, _, [], bs => some bs
  | fuel + 1, expecting, around :: outer, bs =>
    let closing : UInt8 := if around = .array then 0x5d else 0x7d
    let element (bs : Bytes) : Option Bytes :=
      if around = .array then some bs else skipKey? bs
    match skipSpace bs with
    | [] => none
    | b :: rest =>
      if b = closing then
        if outer.isEmpty then some rest else skipNested? fuel .more outer rest
      else if expecting = .first then
        match element (b :: rest) with
        | none => none
        | some bs => skipNested? fuel .value (around :: outer) bs
      else if b = 0x2c then
        match element rest with
        | none => none
        | some bs => skipNested? fuel .value (around :: outer) bs
      else none

def skipValue? (bs : Bytes) : Option Bytes := skipNested? (2 * bs.length + 2) .value [] bs

/-! ## Reading values -/

/-- How deep arrays and objects may nest, the outermost included. -/
def depthLimit : Nat := 127

/-- Numbers between brackets behind those already read, which are newest first. -/
def readByteItems? : (fuel : Nat) → (items : Bytes) → Bytes → Option (Bytes × Bytes)
  | 0, _, _ => none
  | fuel + 1, items, bs =>
    match skipSpace bs with
    | 0x5d :: bs => some (items.reverse, bs)
    | bs =>
      match (if items.isEmpty then some bs else expect? 0x2c bs) with
      | none => none
      | some bs =>
        match readByte? bs with
        | none => none
        | some (b, bs) => readByteItems? fuel (b :: items) bs

mutual

/-- A value; `depth` arrays and objects may still nest, and `fuel` is never short when it is the
number of bytes. -/
def readValue? : (fuel depth : Nat) → Bytes → Option (Value × Bytes)
  | 0, _, _ => none
  | fuel + 1, depth, bs =>
    match skipSpace bs with
    | 0x22 :: rest =>
      match readText? (0x22 :: rest) with
      | some (name, bs) => if name = "Null" then some (.null, bs) else none
      | none => none
    | 0x7b :: bs =>
      match depth with
      | 0 => none
      | depth + 1 =>
        match readText? bs with
        | none => none
        | some (name, bs) =>
          match expect? 0x3a bs with
          | none => none
          | some bs =>
            match readContent? fuel depth name bs with
            | none => none
            | some (value, bs) =>
              match expect? 0x7d bs with
              | none => none
              | some bs => some (value, bs)
    | _ => none

/-- The content of a value of the kind called `name`. -/
def readContent? : (fuel depth : Nat) → (name : String) → Bytes → Option (Value × Bytes)
  | 0, _, _, _ => none
  | fuel + 1, depth, name, bs =>
    match name with
    | "Null" => (word? "null" (skipSpace bs)).map fun bs => (.null, bs)
    | "Bool" =>
      match word? "true" (skipSpace bs) with
      | some bs => some (.bool true, bs)
      | none => (word? "false" (skipSpace bs)).map fun bs => (.bool false, bs)
    | "Int" => (readInt? bs).map fun (n, bs) => (.int n, bs)
    | "Float" => (readFloat? bs).map fun (bits, bs) => (.float bits, bs)
    | "Str" => (readText? bs).map fun (s, bs) => (.text s, bs)
    | "Bytes" =>
      match expect? 0x5b bs, depth with
      | some bs, _ + 1 =>
        (readByteItems? (bs.length + 1) [] bs).map fun (raw, bs) => (.bytes raw, bs)
      | _, _ => none
    | "List" =>
      match expect? 0x5b bs, depth with
      | some bs, depth + 1 =>
        (readItems? fuel depth [] bs).map fun (items, bs) => (.list items, bs)
      | _, _ => none
    | "Map" =>
      match expect? 0x7b bs, depth with
      | some bs, depth + 1 =>
        (readEntries? fuel depth true [] bs).map fun (entries, bs) => (.map entries, bs)
      | _, _ => none
    | _ => none

/-- Values up to the closing bracket, behind those already read, which are newest first. -/
def readItems? : (fuel depth : Nat) → (items : List Value) → Bytes → Option (List Value × Bytes)
  | 0, _, _, _ => none
  | fuel + 1, depth, items, bs =>
    match skipSpace bs with
    | 0x5d :: bs => some (items.reverse, bs)
    | bs =>
      match (if items.isEmpty then some bs else expect? 0x2c bs) with
      | none => none
      | some bs =>
        match readValue? fuel depth bs with
        | none => none
        | some (value, bs) => readItems? fuel depth (value :: items) bs

/-- Entries up to the closing brace, inserted into those already read. -/
def readEntries? :
    (fuel depth : Nat) → (isFirst : Bool) → Entries → Bytes → Option (Entries × Bytes)
  | 0, _, _, _, _ => none
  | fuel + 1, depth, isFirst, entries, bs =>
    match skipSpace bs with
    | 0x7d :: bs => some (entries, bs)
    | bs =>
      match (if isFirst then some bs else expect? 0x2c bs) with
      | none => none
      | some bs =>
        match readText? bs with
        | none => none
        | some (key, bs) =>
          match expect? 0x3a bs with
          | none => none
          | some bs =>
            match readValue? fuel depth bs with
            | none => none
            | some (value, bs) => readEntries? fuel depth false (entries.insert key value) bs

end

/-! ## Reading messages -/

def readEntryMap? (bs : Bytes) : Option (Entries × Bytes) :=
  match expect? 0x7b bs with
  | some bs => readEntries? (bs.length + 1) (depthLimit - 2) true [] bs
  | none => none

/-- The fields of a message up to the closing brace; the entries must be among them, and only
once. -/
def readFields? :
    (fuel : Nat) → (isFirst : Bool) → (found : Option Entries) → Bytes → Option (Entries × Bytes)
  | 0, _, _, _ => none
  | fuel + 1, isFirst, found, bs =>
    match skipSpace bs with
    | 0x7d :: bs => found.map fun entries => (entries, bs)
    | bs =>
      match (if isFirst then some bs else expect? 0x2c bs) with
      | none => none
      | some bs =>
        match readText? bs with
        | none => none
        | some (name, bs) =>
          match expect? 0x3a bs with
          | none => none
          | some bs =>
            if name = "entries" then
              if found.isSome then none
              else
                match readEntryMap? bs with
                | none => none
                | some (entries, bs) => readFields? fuel false (some entries) bs
            else
              match skipValue? bs with
              | none => none
              | some bs => readFields? fuel false found bs

/-- A message behind white space, as an object or as an array of its one field. -/
def readMessage? (bs : Bytes) : Option (Message × Bytes) :=
  match skipSpace bs with
  | 0x7b :: bs =>
    (readFields? (bs.length + 1) true none bs).map fun (entries, bs) => (⟨entries⟩, bs)
  | 0x5b :: bs =>
    match readEntryMap? bs with
    | none => none
    | some (entries, bs) => (expect? 0x5d bs).map fun bs => (⟨entries⟩, bs)
  | _ => none

/-- The message that the whole of `bs` is the text of. -/
def decode? (bs : Bytes) : Option Message :=
  match readMessage? bs with
  | some (message, rest) => if (skipSpace rest).isEmpty then some message else none
  | none => none

end SessionNet.Format.Json
