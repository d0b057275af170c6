import SessionNet.Settings.Basic

/-!
# Numbers and levels in texts

Numbers as they stand alone in a text, with or without a plus sign, and names or numbers of log
levels.
-/

namespace SessionNet

/-- The number of a text of digits, at most `bound`. -/
def readNatural? (bound : Nat) (text : String) : Option Nat :=
  let digits :=
    match text.toList with
    | '+' :: cs => cs
    | cs => cs
  if digits.isEmpty || !digits.all Char.isDigit then none
  else
    let value := digits.foldl (fun n c => 10 * n + (c.toNat - 48)) 0
    if value ≤ bound then some value else none

/-- The largest number of a machine word. -/
def maxWord : Nat := Nat.pow 2 64 - 1

/-- A level by its name, in any case of its letters, or by its number. -/
def LogLevel.ofText? (text : String) : Option LogLevel :=
  match readNatural? maxWord text with
  | some n => (Keyed.all (α := LogLevel)).find? fun level => level.number == n
  | none => Keyed.ofKey? text.toLower

end SessionNet
