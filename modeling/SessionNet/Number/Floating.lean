import SessionNet.Number.Rounding

/-!
# Binary floating-point numbers

Floating-point numbers as bit patterns, with the arithmetic the library needs done exactly on
fractions and rounded once, to nearest with ties to even. A pattern is a natural number below
`2 ^ (1 + exponentBits + mantissaBits)`; `Floating.parts` takes it apart and `Floating.ofRatio`
rounds a fraction to one.
-/

namespace SessionNet.Number

/-- The widths that fix a binary interchange format. -/
structure Floating where
  mantissaBits : Nat
  exponentBits : Nat
  deriving DecidableEq, Repr

namespace Floating

def double : Floating := ⟨52, 11⟩

def single : Floating := ⟨23, 8⟩

/-- What a bit pattern stands for; a finite number is `mantissa * 2 ^ exponent`, negated or not. -/
inductive Parts where
  | nan
  | infinite (negative : Bool)
  | finite (negative : Bool) (mantissa : Nat) (exponent : Int)
  deriving DecidableEq, Repr

variable (f : Floating)

/-- The largest biased exponent, which marks infinities and NaN. -/
def topExponent : Nat := Nat.pow 2 f.exponentBits - 1

/-- The exponent of the least significant bit of the smallest numbers. -/
def leastExponent : Int := 2 - Nat.pow 2 (f.exponentBits - 1) - (f.mantissaBits : Int)

def signBit : Nat := Nat.pow 2 (f.exponentBits + f.mantissaBits)

def infinityBits : Nat := f.topExponent * Nat.pow 2 f.mantissaBits

/-- Take a bit pattern apart. -/
def parts (bits : Nat) : Parts :=
  let negative := bits / f.signBit % 2 == 1
  let exponent := bits / Nat.pow 2 f.mantissaBits % Nat.pow 2 f.exponentBits
  let fraction := bits % Nat.pow 2 f.mantissaBits
  if exponent = f.topExponent then
    if fraction = 0 then .infinite negative else .nan
  else if exponent = 0 then .finite negative fraction f.leastExponent
  else .finite negative (Nat.pow 2 f.mantissaBits + fraction) (f.leastExponent + exponent - 1)

/-- Set the sign of magnitude bits. -/
def signed (negative : Bool) (magnitude : Nat) : Nat :=
  if negative then f.signBit + magnitude else magnitude

/-- `num / den * 2 ^ exponent` as a fraction of natural numbers. -/
def scaled (num den : Nat) (exponent : Int) : Nat × Nat :=
  if 0 ≤ exponent then (num * Nat.pow 2 exponent.toNat, den)
  else (num, den * Nat.pow 2 (-exponent).toNat)

/--
The magnitude bits of the number nearest to `num / den`, of two equally near ones the one with an
even mantissa; infinity when the fraction is too large.
-/
def ofRatio (num den : Nat) : Nat :=
  if num = 0 then 0
  else
    let guess : Int := (Nat.log2 num : Int) - Nat.log2 den - f.mantissaBits - 1
    let low := max f.leastExponent guess
    let (n, d) := scaled num den (-low)
    let exponent := if n / d < Nat.pow 2 (f.mantissaBits + 1) then low else low + 1
    let (n, d) := scaled num den (-exponent)
    let magnitude :=
      (exponent - f.leastExponent).toNat * Nat.pow 2 f.mantissaBits + roundDiv .toEven n d
    min magnitude f.infinityBits

/-- The number nearest to a natural number. -/
def ofNat (n : Nat) : Nat := f.ofRatio n 1

/-- A finite magnitude as a fraction. -/
def ratio (mantissa : Nat) (exponent : Int) : Nat × Nat := scaled mantissa 1 exponent

/-- The product of two finite magnitudes, rounded. -/
def mulMagnitude (a b : Nat) : Nat :=
  match f.parts a, f.parts b with
  | .finite _ m e, .finite _ m' e' =>
    let (n, d) := ratio (m * m') (e + e')
    f.ofRatio n d
  | _, _ => f.infinityBits

/-- The quotient of two finite magnitudes, the divisor not zero, rounded. -/
def divMagnitude (a b : Nat) : Nat :=
  match f.parts a, f.parts b with
  | .finite _ m e, .finite _ m' e' =>
    let (n, d) := scaled m m' (e - e')
    f.ofRatio n d
  | _, _ => f.infinityBits

/-- Whether `a ≤ b` as numbers; false when either is NaN. -/
def le (a b : Nat) : Bool :=
  match f.parts a, f.parts b with
  | .nan, _ => false
  | _, .nan => false
  | .infinite negative, .infinite negative' => negative || !negative'
  | .infinite negative, .finite .. => negative
  | .finite .., .infinite negative => !negative
  | .finite negative m e, .finite negative' m' e' =>
    let (n, d) := ratio m e
    let (n', d') := ratio m' e'
    let left : Int := if negative then -(n * d' : Nat) else (n * d' : Nat)
    let right : Int := if negative' then -(n' * d : Nat) else (n' * d : Nat)
    left ≤ right

/-- Whether `a < b` as numbers; false when either is NaN. -/
def lt (a b : Nat) : Bool := f.le a b && !f.le b a

/-- The same number in another format, rounded; NaN keeps its sign and the top bits of its
payload. -/
def convert (f g : Floating) (bits : Nat) : Nat :=
  let negative := bits / f.signBit % 2 == 1
  match f.parts bits with
  | .nan =>
    let payload := bits % Nat.pow 2 f.mantissaBits
    let moved := payload * Nat.pow 2 g.mantissaBits / Nat.pow 2 f.mantissaBits
    let quiet := Nat.pow 2 (g.mantissaBits - 1)
    g.signed negative (g.infinityBits + (if moved < quiet then moved + quiet else moved))
  | .infinite negative => g.signed negative g.infinityBits
  | .finite negative m e =>
    let (n, d) := ratio m e
    g.signed negative (g.ofRatio n d)

example : double.ofRatio 1 10 = 0x3fb999999999999a := by decide +kernel
example : double.ofRatio 1 3 = 0x3fd5555555555555 := by decide +kernel
example : single.ofRatio 100 3 = 0x42055555 := by decide +kernel
example : double.ofRatio (Nat.pow 10 309) 1 = 0x7ff0000000000000 := by decide +kernel
example : double.ofRatio 5 (Nat.pow 10 324) = 1 := by decide +kernel
example : convert single double 0x3dcccccd = 0x3fb99999a0000000 := by decide +kernel

end Floating

end SessionNet.Number
