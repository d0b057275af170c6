import SessionNet.Number.Text

/-!
# Addresses

Internet addresses and socket addresses in their written forms. A text is read as a whole or not at
all. Addresses are written in one canonical way: the longest run of zero groups of a version 6
address, the first of equally long ones, is left out if it has at least two groups, and a mapped
version 4 address keeps its dots.
-/

namespace SessionNet

/-- An internet address. -/
inductive IpAddress where
  | v4 (octets : Vector UInt8 4)
  | v6 (groups : Vector UInt16 8)
  deriving DecidableEq, Repr

/-- An address and a port; a version 6 address may have a scope. -/
structure SocketAddress where
  ip : IpAddress
  port : UInt16
  scope : UInt32 := 0
  deriving DecidableEq, Repr

namespace AddressText

/-! ## Reading -/

/-- The value of a digit in a radix of at most 16. -/
def digit? (radix : Nat) (c : Char) : Option Nat :=
  let value? :=
    if '0' ≤ c ∧ c ≤ '9' then some (c.toNat - 48)
    else if 'a' ≤ c ∧ c ≤ 'f' then some (c.toNat - 87)
    else if 'A' ≤ c ∧ c ≤ 'F' then some (c.toNat - 55)
    else none
  value?.filter (· < radix)

/-- Read all digits there are: their value, their number and the rest. -/
def readDigits (radix : Nat) (value count : Nat) : List Char → Nat × Nat × List Char
  | [] => (value, count, [])
  | c :: rest =>
    match digit? radix c with
    | some d => readDigits radix (radix * value + d) (count + 1) rest
    | none => (value, count, c :: rest)

/-- Read a number below `bound` of at most `width` digits. -/
def readNumber? (radix bound : Nat) (width? : Option Nat) (zeroFirst : Bool) (cs : List Char) :
    Option (Nat × List Char) :=
  let (value, count, rest) := readDigits radix 0 0 cs
  let tooLong : Bool :=
    match width? with
    | some width => width < count
    | none => false
  let zeroLed := !zeroFirst && cs.head? == some '0' && 1 < count
  if count == 0 || tooLong || zeroLed || bound ≤ value then none else some (value, rest)

def readChar? (c : Char) : List Char → Option (List Char)
  | [] => none
  | first :: rest => if first = c then some rest else none

/-- Read the part with an index of a list with a separator. -/
def readPart? {α : Type} (separator : Char) (index : Nat)
    (read : List Char → Option (α × List Char)) (cs : List Char) : Option (α × List Char) :=
  if index = 0 then read cs else (readChar? separator cs).bind read

def readV4? (cs : List Char) : Option (Vector UInt8 4 × List Char) := do
  let octet := readNumber? 10 256 (some 3) false
  let (a, cs) ← octet cs
  let (b, cs) ← readPart? '.' 1 octet cs
  let (c, cs) ← readPart? '.' 1 octet cs
  let (d, cs) ← readPart? '.' 1 octet cs
  return (#v[UInt8.ofNat a, UInt8.ofNat b, UInt8.ofNat c, UInt8.ofNat d], cs)

/-- The two groups that four octets fill. -/
def groupsOfV4 (octets : Vector UInt8 4) : List UInt16 :=
  let pair (high low : UInt8) : UInt16 := (high.toUInt16 <<< 8) ||| low.toUInt16
  [pair octets[0] octets[1], pair octets[2] octets[3]]

/--
Read groups as long as there is room, newest first, and whether a version 4 address ended them. The
latter is tried first wherever two groups fit.
-/
def readGroups : (room index : Nat) → List UInt16 → List Char → List UInt16 × Bool × List Char
  | 0, _, groups, cs => (groups, false, cs)
  | room + 1, index, groups, cs =>
    match if 0 < room then readPart? ':' index readV4? cs else none with
    | some (octets, rest) => ((groupsOfV4 octets).reverse ++ groups, true, rest)
    | none =>
      match readPart? ':' index (readNumber? 16 65536 (some 4) true) cs with
      | some (group, rest) => readGroups room (index + 1) (UInt16.ofNat group :: groups) rest
      | none => (groups, false, cs)

/-- Eight groups: those at the head, those at the tail, and zeros between. -/
def fillGroups (head tail : List UInt16) : Vector UInt16 8 :=
  let all := head ++ List.replicate (8 - head.length - tail.length) 0 ++ tail
  Vector.ofFn fun i => all.getD i.val 0

/-- Read eight groups, of which a run of at least one may be left out. -/
def readV6? (cs : List Char) : Option (Vector UInt16 8 × List Char) := do
  let (head, endedByV4, cs) := readGroups 8 0 [] cs
  if head.length = 8 then return (fillGroups head.reverse [], cs)
  if endedByV4 then none
  let cs ← readChar? ':' cs
  let cs ← readChar? ':' cs
  let (tail, _, cs) := readGroups (7 - head.length) 0 [] cs
  return (fillGroups head.reverse tail.reverse, cs)

def readPort? (cs : List Char) : Option (UInt16 × List Char) := do
  let cs ← readChar? ':' cs
  let (port, cs) ← readNumber? 10 65536 none true cs
  return (UInt16.ofNat port, cs)

/-- Read a version 4 address and a port. -/
def readSocketV4? (cs : List Char) : Option (SocketAddress × List Char) := do
  let (octets, cs) ← readV4? cs
  let (port, cs) ← readPort? cs
  return (⟨.v4 octets, port, 0⟩, cs)

/-- Read a version 6 address in brackets, perhaps with a scope, and a port. -/
def readSocketV6? (cs : List Char) : Option (SocketAddress × List Char) := do
  let cs ← readChar? '[' cs
  let (groups, cs) ← readV6? cs
  let (scope, cs) :=
    match (readChar? '%' cs).bind (readNumber? 10 (Nat.pow 2 32) none true) with
    | some (scope, cs) => (UInt32.ofNat scope, cs)
    | none => (0, cs)
  let cs ← readChar? ']' cs
  let (port, cs) ← readPort? cs
  return (⟨.v6 groups, port, scope⟩, cs)

/-- What is read if nothing is left. -/
def whole? {α : Type} (read? : Option (α × List Char)) : Option α :=
  match read? with
  | some (a, []) => some a
  | _ => none

/-! ## Writing -/

def separated (separator : String) (parts : List String) : String := separator.intercalate parts

/-- Four octets with dots. -/
def writeV4 (octets : Vector UInt8 4) : String :=
  separated "." (octets.toList.map fun o => Number.natText o.toNat)

def writeGroups (groups : List UInt16) : String :=
  separated ":" (groups.map fun g => Number.hexPadded 1 g.toNat)

def leadingZeros (groups : List UInt16) : Nat := (groups.takeWhile (· == 0)).length

/-- Where the longest run of zeros starts and how long it is; the first of equally long ones. -/
def longestZeros (groups : List UInt16) : Nat × Nat :=
  (List.range groups.length).foldl (fun (best : Nat × Nat) i =>
    let length := leadingZeros (groups.drop i)
    if best.2 < length then (i, length) else best) (0, 0)

/-- Eight groups, or a mapped version 4 address. -/
def writeV6 (groups : Vector UInt16 8) : String :=
  match groups.toList with
  | [0, 0, 0, 0, 0, 0xffff, a, b] =>
    "::ffff:" ++ writeV4 #v[(a >>> 8).toUInt8, a.toUInt8, (b >>> 8).toUInt8, b.toUInt8]
  | all =>
    let (start, length) := longestZeros all
    if 1 < length then
      writeGroups (all.take start) ++ "::" ++ writeGroups (all.drop (start + length))
    else writeGroups all

end AddressText

def IpAddress.ofText? (text : String) : Option IpAddress :=
  let cs := text.toList
  match AddressText.whole? (AddressText.readV4? cs) with
  | some octets => some (.v4 octets)
  | none => (AddressText.whole? (AddressText.readV6? cs)).map .v6

def IpAddress.text : IpAddress → String
  | .v4 octets => AddressText.writeV4 octets
  | .v6 groups => AddressText.writeV6 groups

def SocketAddress.ofText? (text : String) : Option SocketAddress :=
  let cs := text.toList
  match AddressText.whole? (AddressText.readSocketV4? cs) with
  | some address => some address
  | none => AddressText.whole? (AddressText.readSocketV6? cs)

def SocketAddress.text (a : SocketAddress) : String :=
  let port := ":" ++ Number.natText a.port.toNat
  match a.ip with
  | .v4 octets => AddressText.writeV4 octets ++ port
  | .v6 groups =>
    let scope := if a.scope = 0 then "" else "%" ++ Number.natText a.scope.toNat
    "[" ++ AddressText.writeV6 groups ++ scope ++ "]" ++ port

example :
    (IpAddress.ofText? "2001:0db8::1:0:0:1").map IpAddress.text = some "2001:db8::1:0:0:1" := by
  decide +kernel
example : (IpAddress.ofText? "::ffff:0:0").map IpAddress.text = some "::ffff:0.0.0.0" := by
  decide +kernel
example : (IpAddress.ofText? "1:0:0:2::").map IpAddress.text = some "1:0:0:2::" := by decide +kernel
example : (SocketAddress.ofText? "[::1%7]:080").map SocketAddress.text = some "[::1%7]:80" := by
  decide +kernel
example : SocketAddress.ofText? "127.0.0.01:5" = none := by decide +kernel

end SessionNet
