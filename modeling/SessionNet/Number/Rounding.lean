/-!
# Rounding quotients

Division of natural numbers to the nearest whole number, with the tie rule as a parameter.
-/

namespace SessionNet.Number

/-- Which way a quotient that lies exactly between two whole numbers goes. -/
inductive Tie where
  | toEven
  | up
  deriving DecidableEq, Repr

/-- Whether `tie` sends a half above `floor` upwards. -/
def Tie.raises : Tie → (floor : Nat) → Bool
  | .toEven, floor => floor % 2 == 1
  | .up, _ => true

/-- `num / den` rounded to the nearest whole number. -/
def roundDiv (tie : Tie) (num den : Nat) : Nat :=
  let floor := num / den
  let rest := 2 * (num % den)
  if rest < den then floor
  else if den < rest then floor + 1
  else if tie.raises floor then floor + 1
  else floor

end SessionNet.Number
