import SessionNet.Bytes

/-!
# Messages

A message is a map from texts to dynamically typed values, the unit that handlers see and answer
with. Maps are lists of entries in strictly ascending order of their keys; `Entries.insert` keeps
that order. Floating-point values are kept as bit patterns, so that equality of messages is equality
of bits.
-/

namespace SessionNet

/-- A dynamically typed value. -/
inductive Value where
  | null
  | bool (value : Bool)
  | int (value : Int64)
  /-- A double-precision number by its bit pattern. -/
  | float (bits : UInt64)
  | text (value : String)
  | bytes (value : Bytes)
  | list (items : List Value)
  | map (entries : List (String × Value))
  deriving BEq, Repr, Inhabited

/-- The entries of a map. -/
abbrev Entries := List (String × Value)

namespace Entries

/-- Set `key` to `value`, keeping the keys in ascending order. -/
def insert (key : String) (value : Value) : Entries → Entries
  | [] => [(key, value)]
  | (k, v) :: rest =>
    if key < k then (key, value) :: (k, v) :: rest
    else if key = k then (key, value) :: rest
    else (k, v) :: insert key value rest

/-- The value of `key`. -/
def get? (entries : Entries) (key : String) : Option Value := entries.lookup key

/-- The map that arises from inserting `pairs` in order; of two equal keys the later one counts. -/
def ofList (pairs : List (String × Value)) : Entries :=
  pairs.foldl (fun entries (key, value) => insert key value entries) []

/-- Keys in strictly ascending order. -/
def Ascending : Entries → Prop
  | [] => True
  | [_] => True
  | (k, _) :: (k', v') :: rest => k < k' ∧ Ascending ((k', v') :: rest)

end Entries

namespace Value

def asText? : Value → Option String
  | .text s => some s
  | _ => none

/-- The number of an integer value. -/
def asInt? : Value → Option Int64
  | .int n => some n
  | _ => none

/-- The truth value of a boolean value. -/
def asBool? : Value → Option Bool
  | .bool b => some b
  | _ => none

end Value

/-- A message: a map from texts to values. -/
structure Message where
  entries : Entries := []
  deriving BEq, Repr, Inhabited

namespace Message

/-- The message without entries. -/
def empty : Message := ⟨[]⟩

/-- The message with `key` set to `value`. -/
def insert (m : Message) (key : String) (value : Value) : Message :=
  ⟨m.entries.insert key value⟩

/-- The value of `key`. -/
def get? (m : Message) (key : String) : Option Value := m.entries.get? key

/-- The text stored at `key`. -/
def text? (m : Message) (key : String) : Option String := (m.get? key).bind Value.asText?

/-- The integer stored at `key`. -/
def int? (m : Message) (key : String) : Option Int64 := (m.get? key).bind Value.asInt?

/-- The truth value stored at `key`. -/
def bool? (m : Message) (key : String) : Option Bool := (m.get? key).bind Value.asBool?

/-- Whether `key` has a value. -/
def contains (m : Message) (key : String) : Bool := (m.get? key).isSome

def size (m : Message) : Nat := m.entries.length

def isEmpty (m : Message) : Bool := m.entries.isEmpty

def keys (m : Message) : List String := m.entries.map Prod.fst

/-- The message that arises from inserting `pairs` in order. -/
def ofList (pairs : List (String × Value)) : Message := ⟨Entries.ofList pairs⟩

end Message

end SessionNet
