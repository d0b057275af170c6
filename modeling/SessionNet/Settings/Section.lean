import SessionNet.Settings.Numeral
import SessionNet.Toml.Text
import SessionNet.Toml.Value

/-!
# Sections of a settings file

A section is described by its options, in order. The same description reads the section from a TOML
table, or from an array that gives the options in order, and writes it. Options that are missing
keep their values, and entries that are no option are passed over.
-/

namespace SessionNet

/-- An option of a section: its name, how it is read, and its value if it is set. -/
structure Field (σ : Type) where
  name : String
  read : Toml.Value → σ → Option σ
  get? : σ → Option Toml.Scalar
  /-- Whether the machine decides on the value as long as it is not set. -/
  byMachine : Bool := false

namespace Field

variable {σ : Type}

/-- A whole number of at most `bound`. -/
def number (name : String) (bound : Nat) (get : σ → Nat) (put : Nat → σ → σ) : Field σ where
  name
  read v s :=
    match v with
    | .scalar (.integer n) => if 0 ≤ n ∧ n.toNat ≤ bound then some (put n.toNat s) else none
    | _ => none
  get? s := some (.integer (get s))

/-- A whole number that the machine decides on as long as it is not set. -/
def machineNumber (name : String) (get? : σ → Option Nat) (put : Nat → σ → σ) : Field σ where
  name
  read v s := (number name maxWord (fun _ => 0) put).read v s
  get? s := (get? s).map fun n => .integer n
  byMachine := true

/-- A truth value. -/
def flag (name : String) (get : σ → Bool) (put : Bool → σ → σ) : Field σ where
  name
  read v s :=
    match v with
    | .scalar (.bool b) => some (put b s)
    | _ => none
  get? s := some (.bool (get s))

/-- A string of a certain form. -/
def textual {α : Type} (name : String) (parse? : String → Option α) (show? : σ → Option String)
    (put : α → σ → σ) : Field σ where
  name
  read v s :=
    match v with
    | .scalar (.text t) => (parse? t).map fun a => put a s
    | _ => none
  get? s := (show? s).map .text

/-- A string. -/
def text (name : String) (get : σ → String) (put : String → σ → σ) : Field σ :=
  textual name some (fun s => some (get s)) put

/-- A string that may be left open. -/
def optionalText (name : String) (get? : σ → Option String) (put : String → σ → σ) : Field σ :=
  textual name some get? put

/-- The name of a choice: a string, or a table with that name over something empty. -/
def choiceName? : Toml.Value → Option String
  | .scalar (.text name) => some name
  | .table [(name, .table [])] => some name
  | .table [(name, .array [])] => some name
  | _ => none

/-- One of several named choices, which may be left open. -/
def optionalChoice {α : Type} [Keyed α] (name : String) (get? : σ → Option α) (put : α → σ → σ) :
    Field σ where
  name
  read v s := ((choiceName? v).bind Keyed.ofKey?).map fun a => put a s
  get? s := (get? s).map fun a => .text (Keyed.key a)

def choice {α : Type} [Keyed α] (name : String) (get : σ → α) (put : α → σ → σ) : Field σ :=
  optionalChoice name (fun s => some (get s)) put

/-- The single-precision number nearest to a whole number. -/
def singleOfInt (n : Int) : UInt32 :=
  let single := Number.Floating.single
  UInt32.ofNat (single.signed (n < 0) (single.ofNat n.natAbs))

/-- A number in single precision, given in double precision or whole. -/
def single (name : String) (get : σ → UInt32) (put : UInt32 → σ → σ) : Field σ where
  name
  read v s :=
    match v with
    | .scalar (.integer n) => some (put (singleOfInt n) s)
    | .scalar (.float bits) =>
      some (put (UInt32.ofNat (Number.Floating.convert .double .single bits)) s)
    | _ => none
  get? s := some (.float (Number.Floating.convert .single .double (get s).toNat))

end Field

/-- A section: its name and its options in order. -/
structure Section (σ : Type) where
  name : String
  fields : List (Field σ)

namespace Section

variable {σ : Type}

/-- Read the options that a value gives over those of `start`. -/
def read (sec : Section σ) (v : Toml.Value) (start : σ) : Option σ :=
  match v with
  | .table entries =>
    sec.fields.foldlM (fun s field =>
      match entries.lookup field.name with
      | some v => field.read v s
      | none => some s) start
  | .array items => (sec.fields.zip items).foldlM (fun s (field, v) => field.read v s) start
  | _ => none

/-- Read the section of a document, if it is there. -/
def readFrom (sec : Section σ) (entries : List (String × Toml.Value)) (start : σ) : Option σ :=
  match entries.lookup sec.name with
  | some v => sec.read v start
  | none => some start

/-- The text of an option's value; `machine` is what the machine decides on. -/
def valueText (machine : String) (field : Field σ) (s : σ) : Option String :=
  match field.get? s with
  | some value => some value.write
  | none => if field.byMachine then some machine else none

/-- The text of the section: its header and a line for each option that has a value. -/
def text (sec : Section σ) (machine : String) (s : σ) : String :=
  let lines := sec.fields.filterMap fun field =>
    (valueText machine field s).map fun value => field.name ++ " = " ++ value ++ "\n"
  "[" ++ sec.name ++ "]\n" ++ String.join lines

end Section

end SessionNet
