import SessionNet.Number.Shortest

/-!
# Number text

Decimal numbers in the written forms the library uses: positional, positional with a least number
of places, scientific, and rounded to a fixed number of places.
-/

namespace SessionNet.Number

/-- The decimal digits of a natural number. -/
def natText (n : Nat) : String := String.ofList (Nat.toDigits 10 n)

/-- A string of `n` zeros. -/
def zeros (n : Nat) : String := String.ofList (List.replicate n '0')

/-- `n` in hexadecimal, lower case, padded with zeros to `width` digits. -/
def hexPadded (width n : Nat) : String :=
  let text := Nat.toDigits 16 n
  String.ofList (List.replicate (width - text.length) '0' ++ text)

namespace Decimal

/-- Without an exponent; `places` is the least number of digits after the point. -/
def positional (d : Decimal) (places : Nat) : String :=
  if 0 ≤ d.exponent then
    let whole := natText d.digits ++ zeros d.exponent.toNat
    if places = 0 then whole else whole ++ "." ++ zeros places
  else
    let after := (-d.exponent).toNat
    let text := Nat.toDigits 10 d.digits
    let padded := List.replicate (after + 1 - text.length) '0' ++ text
    let split := padded.length - after
    String.ofList (padded.take split) ++ "." ++ String.ofList (padded.drop split)
      ++ zeros (places - after)

/-- One digit, the point and the other digits if there are any, then the signed exponent. -/
def scientific (d : Decimal) : String :=
  let text := Nat.toDigits 10 d.digits
  let exponent : Int := d.exponent + text.length - 1
  let mantissa :=
    match text with
    | first :: second :: rest => String.ofList (first :: '.' :: second :: rest)
    | _ => String.ofList text
  let sign := if exponent < 0 then "-" else "+"
  mantissa ++ "e" ++ sign ++ natText exponent.natAbs

end Decimal

/-- How a format writes its floating-point numbers. -/
structure FloatStyle where
  tie : Tie
  /-- Least number of digits after the point in positional form. -/
  places : Nat
  /-- Numbers below `10 ^ lowest` or from `10 ^ highest` on are written with an exponent. -/
  range : Option (Int × Int)
  nanText : String
  infinityText : String
  deriving Repr

/-- The text of a floating-point number in a style. -/
def FloatStyle.write (style : FloatStyle) (f : Floating) (bits : Nat) : String :=
  match f.parts bits with
  | .nan => style.nanText
  | .infinite negative => sign negative ++ style.infinityText
  | .finite negative mantissa exponent =>
    if mantissa = 0 then sign negative ++ Decimal.positional ⟨0, 0⟩ style.places
    else
      let decimal := shortest f style.tie mantissa exponent
      let leading : Int := decimal.exponent + (Nat.toDigits 10 decimal.digits).length - 1
      let positional :=
        match style.range with
        | none => true
        | some (lowest, highest) => decide (lowest ≤ leading) && decide (leading < highest)
      sign negative
        ++ (if positional then decimal.positional style.places else decimal.scientific)
where
  /-- The minus sign of a negative number. -/
  sign (negative : Bool) : String := if negative then "-" else ""

/--
The exact value of a floating-point number rounded to one place after the point, a half going to
the even neighbour.
-/
def onePlace (f : Floating) (bits : Nat) : String :=
  match f.parts bits with
  | .nan => "NaN"
  | .infinite negative => FloatStyle.write.sign negative ++ "inf"
  | .finite negative mantissa exponent =>
    let (num, den) := Floating.ratio mantissa exponent
    let tenths := roundDiv .toEven (10 * num) den
    FloatStyle.write.sign negative ++ Decimal.positional ⟨tenths, -1⟩ 1

example : Decimal.positional ⟨123, -5⟩ 0 = "0.00123" := by decide +kernel
example : Decimal.positional ⟨5, 2⟩ 1 = "500.0" := by decide +kernel
example : Decimal.scientific ⟨15, 299⟩ = "1.5e+300" := by decide +kernel

end SessionNet.Number
