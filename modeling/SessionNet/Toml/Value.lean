/-!
# TOML values and tables

The values of a TOML document, and the rules by which keys and headers build up its tables. A table
comes into being in one of four ways, and that decides who may add to it: a table that a header
defined, or that is written inline, is not defined again; one that dotted keys made takes further
dotted keys; one that only leads to another table can still be defined by its own header.
-/

namespace SessionNet.Toml

/-- A value without parts. -/
inductive Scalar where
  | text (s : String)
  | integer (n : Int)
  /-- A double-precision bit pattern. -/
  | float (bits : Nat)
  | bool (b : Bool)
  deriving DecidableEq, Repr

/-- A value; dates and times are read but carry nothing that is used. -/
inductive Value where
  | scalar (s : Scalar)
  | moment
  | array (items : List Value)
  | table (entries : List (String × Value))
  deriving Repr

/-- How a table came into being. -/
inductive Origin where
  /-- By its own header, or as the document. -/
  | header
  /-- By the header of a table inside it. -/
  | path
  /-- By dotted keys. -/
  | dotted
  deriving DecidableEq, Repr

/-- What stands under a key while a document is read. -/
inductive Node where
  | value (v : Value)
  | table (origin : Origin) (entries : List (String × Node))
  /-- An array of tables, the latest first. -/
  | tables (elements : List (List (String × Node)))

/-- A table while it is built. -/
structure Table where
  origin : Origin := .header
  entries : List (String × Node) := []

namespace Table

/-- The node under a key. -/
def get? (t : Table) (key : String) : Option Node := t.entries.lookup key

/-- Put a node under a key, in its place if the key is there. -/
def put (t : Table) (key : String) (node : Node) : Table :=
  if (t.get? key).isSome then
    { t with entries := t.entries.map fun e => if e.1 == key then (key, node) else e }
  else { t with entries := t.entries ++ [(key, node)] }

/--
Change the table at the end of a path. Tables missing on the way are made, with origin `origin`; an
array of tables stands for its latest element. Dotted keys do not lead into a table with a header.
-/
def modifyAt (origin : Origin) (f : Table → Option Table) : (path : List String) → Table →
    Option Table
  | [], t => f t
  | key :: path, t =>
    match t.get? key with
    | none =>
      (modifyAt origin f path ⟨origin, []⟩).map fun u => t.put key (.table u.origin u.entries)
    | some (.value _) => none
    | some (.tables []) => none
    | some (.tables (latest :: earlier)) =>
      (modifyAt origin f path ⟨.header, latest⟩).map fun u =>
        t.put key (.tables (u.entries :: earlier))
    | some (.table known entries) =>
      if origin = .dotted ∧ known = .header then none
      else
        (modifyAt origin f path ⟨known, entries⟩).map fun u =>
          t.put key (.table u.origin u.entries)

/-- Add a value under a new key; dotted keys add to tables of dotted keys only. -/
def addValue (isDotted : Bool) (key : String) (v : Value) (t : Table) : Option Table :=
  if isDotted != (t.origin == .dotted) || (t.get? key).isSome then none
  else some (t.put key (.value v))

def define (key : String) (t : Table) : Option Table :=
  match t.get? key with
  | none => some (t.put key (.table .header []))
  | some (.table .path entries) => some (t.put key (.table .header entries))
  | some _ => none

/-- Begin another table of an array of tables. -/
def append (key : String) (t : Table) : Option Table :=
  match t.get? key with
  | none => some (t.put key (.tables [[]]))
  | some (.tables elements) => some (t.put key (.tables ([] :: elements)))
  | some _ => none

/-- Add a value under a dotted key, that is, under the last part of it. -/
def insert (t : Table) (front : List String) (last : String) (v : Value) : Option Table :=
  t.modifyAt .dotted (addValue (!front.isEmpty) last v) front

end Table

mutual

def Node.toValue : Node → Value
  | .value v => v
  | .table _ entries => .table (entriesToValues entries)
  | .tables elements => .array (tablesToValues elements).reverse

/-- The values that nodes under keys stand for. -/
def entriesToValues : List (String × Node) → List (String × Value)
  | [] => []
  | (key, node) :: rest => (key, node.toValue) :: entriesToValues rest

def tablesToValues : List (List (String × Node)) → List Value
  | [] => []
  | entries :: rest => .table (entriesToValues entries) :: tablesToValues rest

end

def Table.toValue (t : Table) : Value := .table (entriesToValues t.entries)

end SessionNet.Toml
