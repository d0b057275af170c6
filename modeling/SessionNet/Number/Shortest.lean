import SessionNet.Number.Floating

/-!
# Shortest decimal digits

The shortest decimal that reads back as a given floating-point number, and of those the nearest to
it. A number `m * 2 ^ q` is read back from every decimal between the midpoints to its two
neighbours, the midpoints included when `m` is even. Grids of one, two, … digits are tried in turn,
each through the two grid points beside the number, in exact arithmetic.
-/

namespace SessionNet.Number

/-- The decimal number `digits * 10 ^ exponent`. -/
structure Decimal where
  digits : Nat
  exponent : Int
  deriving DecidableEq, Repr

/-- `10 ^ exponent` as a fraction of natural numbers. -/
def powerOfTen (exponent : Int) : Nat × Nat :=
  if 0 ≤ exponent then (Nat.pow 10 exponent.toNat, 1) else (1, Nat.pow 10 (-exponent).toNat)

/-- The decimals that read back as one positive number: `low` to `high` over `den`. -/
structure ReadBack where
  value : Nat
  low : Nat
  high : Nat
  den : Nat
  closed : Bool
  deriving Repr

namespace ReadBack

/-- The interval of a positive finite number. -/
def ofParts (f : Floating) (mantissa : Nat) (exponent : Int) : ReadBack :=
  -- quarter units of the last place keep both midpoints whole
  let (unit, den) := powerOfTwo (exponent - 2)
  let lowGap := if mantissa = Nat.pow 2 f.mantissaBits ∧ f.leastExponent < exponent then 1 else 2
  { value := 4 * mantissa * unit
    low := (4 * mantissa - lowGap) * unit
    high := (4 * mantissa + 2) * unit
    den
    closed := mantissa % 2 == 0 }
where
  /-- `2 ^ exponent` as a fraction of natural numbers. -/
  powerOfTwo (exponent : Int) : Nat × Nat := Floating.ratio 1 exponent

/-- Whether `digits * 10 ^ exponent` lies in the interval. -/
def contains (r : ReadBack) (digits : Nat) (exponent : Int) : Bool :=
  let (num, den) := powerOfTen exponent
  let here := digits * num * r.den
  if r.closed then r.low * den ≤ here && here ≤ r.high * den
  else r.low * den < here && here < r.high * den

/-- The grid point of step `10 ^ exponent` at or below the number. -/
def gridFloor (r : ReadBack) (exponent : Int) : Nat :=
  let (num, den) := powerOfTen exponent
  r.value * den / (r.den * num)

/-- The best point of the grid of step `10 ^ exponent` in the interval. -/
def onGrid? (r : ReadBack) (tie : Tie) (exponent : Int) : Option Decimal :=
  let below := r.gridFloor exponent
  let above := below + 1
  match r.contains below exponent, r.contains above exponent with
  | true, false => some ⟨below, exponent⟩
  | false, true => some ⟨above, exponent⟩
  | false, false => none
  | true, true =>
    let (num, den) := powerOfTen exponent
    some ⟨roundDiv tie (r.value * den) (r.den * num), exponent⟩

/-- Try ever finer grids, at most `steps` of them. -/
def search (r : ReadBack) (tie : Tie) : (steps : Nat) → (exponent : Int) → Option Decimal
  | 0, _ => none
  | steps + 1, exponent =>
    match r.onGrid? tie exponent with
    | some decimal => some decimal
    | none => r.search tie steps (exponent - 1)

end ReadBack

/-- One more than the number of decimal digits before the point, or less by the zeros after it. -/
def decimalMagnitude (num den : Nat) : Int :=
  let guess : Int := ((Nat.log2 num : Int) - Nat.log2 den) * 30103 / 100000 + 2
  settle num den 4 guess
where
  /-- Lower the guess until `10 ^ (guess - 1)` is at most the number. -/
  settle (num den : Nat) : Nat → Int → Int
    | 0, guess => guess
    | steps + 1, guess =>
      let (p, q) := powerOfTen (guess - 1)
      if p * den ≤ num * q then guess else settle num den steps (guess - 1)

/-- Drop trailing zeros of the digits, at most `steps` of them. -/
def Decimal.trim (d : Decimal) : (steps : Nat) → Decimal
  | 0 => d
  | steps + 1 =>
    if d.digits ≠ 0 ∧ d.digits % 10 = 0 then
      Decimal.trim ⟨d.digits / 10, d.exponent + 1⟩ steps
    else d

/-- The shortest decimal that reads back as a positive finite number. -/
def shortest (f : Floating) (tie : Tie) (mantissa : Nat) (exponent : Int) : Decimal :=
  let interval := ReadBack.ofParts f mantissa exponent
  let magnitude := decimalMagnitude interval.value interval.den
  -- a grid one step coarser than the leading digit may already hold a power of ten
  match interval.search tie 20 magnitude with
  | some decimal => decimal.trim 20
  | none => ⟨mantissa, exponent⟩

example : shortest .double .toEven 1 (-1074) = ⟨5, -324⟩ := by decide +kernel
example : shortest .double .toEven 0x1999999999999a (-56) = ⟨1, -1⟩ := by decide +kernel
example : shortest .double .toEven (Nat.pow 2 52) (-76) = ⟨5960464477539063, -23⟩ := by
  decide +kernel
example : shortest .double .toEven (Nat.pow 2 52) 1 = ⟨9007199254740992, 0⟩ := by decide +kernel

end SessionNet.Number
