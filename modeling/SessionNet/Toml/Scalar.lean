import SessionNet.Number.Shortest

/-!
# TOML scalars

Reading strings, numbers, dates and times off the front of a text. A reader gives the value and the
text behind it, or nothing if the text does not begin with what it reads.
-/

namespace SessionNet.Toml

/-! ## Characters -/

/-- Whether a character can stand for itself: all but the controls, the tab excepted. -/
def isPlain (c : Char) : Bool := c == '\t' || ' ' ≤ c && c != '\x7f'

/-- Whether a character is a space or a tab. -/
def isSpace (c : Char) : Bool := c == ' ' || c == '\t'

/-- Pass over spaces and tabs. -/
def skipSpace (cs : List Char) : List Char := cs.dropWhile isSpace

/-- Pass over the end of a line. -/
def newline? : List Char → Option (List Char)
  | '\n' :: cs => some cs
  | '\r' :: '\n' :: cs => some cs
  | _ => none

/-- Pass over one given character. -/
def expect? (c : Char) : List Char → Option (List Char)
  | d :: cs => if c = d then some cs else none
  | [] => none

/-- Pass over a given word. -/
def word? (word : String) (cs : List Char) : Option (List Char) :=
  if word.toList.isPrefixOf cs then some (cs.drop word.length) else none

/-! ## Strings -/

/-- The value of a digit in a radix of at most sixteen. -/
def digit? (radix : Nat) (c : Char) : Option Nat :=
  let value :=
    if '0' ≤ c ∧ c ≤ '9' then c.toNat - 48
    else if 'a' ≤ c ∧ c ≤ 'f' then c.toNat - 87
    else if 'A' ≤ c ∧ c ≤ 'F' then c.toNat - 55
    else radix
  if value < radix then some value else none

/-- A number of exactly `width` digits. -/
def fixed? (radix : Nat) : (width value : Nat) → List Char → Option (Nat × List Char)
  | 0, value, cs => some (value, cs)
  | _ + 1, _, [] => none
  | width + 1, value, c :: cs =>
    match digit? radix c with
    | some d => fixed? radix width (radix * value + d) cs
    | none => none

/-- The character with a number, given by `width` hexadecimal digits; surrogates are none. -/
def codePoint? (width : Nat) (cs : List Char) : Option (Char × List Char) :=
  match fixed? 16 width 0 cs with
  | some (n, cs) => if n.isValidChar then some (Char.ofNat n, cs) else none
  | none => none

/-- The character that an escape stands for, behind its backslash. -/
def escape? : List Char → Option (Char × List Char)
  | 'b' :: cs => some ('\x08', cs)
  | 't' :: cs => some ('\t', cs)
  | 'n' :: cs => some ('\n', cs)
  | 'f' :: cs => some ('\x0c', cs)
  | 'r' :: cs => some ('\r', cs)
  | '"' :: cs => some ('"', cs)
  | '\\' :: cs => some ('\\', cs)
  | 'u' :: cs => codePoint? 4 cs
  | 'U' :: cs => codePoint? 8 cs
  | _ => none

/-- The rest of a string on one line, behind its opening quote. -/
def lineText? (quote : Char) : (fuel : Nat) → (read : List Char) → List Char →
    Option (String × List Char)
  | 0, _, _ => none
  | _ + 1, _, [] => none
  | fuel + 1, read, c :: cs =>
    if c = quote then some (String.ofList read.reverse, cs)
    else if c = '\\' ∧ quote = '"' then
      match escape? cs with
      | some (d, cs) => lineText? quote fuel (d :: read) cs
      | none => none
    else if isPlain c then lineText? quote fuel (c :: read) cs
    else none

/-- Behind a backslash: the end of the line and all white space that follows it. -/
def foldedLine? (cs : List Char) : Option (List Char) :=
  (newline? (skipSpace cs)).map fun cs => skipLines cs.length cs
where
  /-- Pass over white space and ends of lines. -/
  skipLines : Nat → List Char → List Char
    | 0, cs => cs
    | fuel + 1, cs =>
      match newline? (skipSpace cs) with
      | some cs => skipLines fuel cs
      | none => skipSpace cs

/-- The rest of a string of several lines, which ends with three quotes and may end in two more. -/
def blockText? (quote : Char) : (fuel : Nat) → (read : List Char) → List Char →
    Option (String × List Char)
  | 0, _, _ => none
  | fuel + 1, read, cs =>
    let quotes := cs.takeWhile (· == quote)
    let extra := min (quotes.length - 3) 2
    if 3 ≤ quotes.length then
      some (String.ofList (List.replicate extra quote ++ read).reverse, cs.drop (extra + 3))
    else if !quotes.isEmpty then blockText? quote fuel (quotes ++ read) (cs.drop quotes.length)
    else
      match newline? cs with
      | some cs => blockText? quote fuel ('\n' :: read) cs
      | none =>
        match cs with
        | [] => none
        | c :: cs =>
          if c = '\\' ∧ quote = '"' then
            match foldedLine? cs with
            | some cs => blockText? quote fuel read cs
            | none =>
              match escape? cs with
              | some (d, cs) => blockText? quote fuel (d :: read) cs
              | none => none
          else if isPlain c then blockText? quote fuel (c :: read) cs
          else none

def quoted? (cs : List Char) : Option (String × List Char) :=
  match cs with
  | '"' :: cs => lineText? '"' (cs.length + 1) [] cs
  | '\'' :: cs => lineText? '\'' (cs.length + 1) [] cs
  | _ => none

/-- A string in any of its four forms. -/
def text? (cs : List Char) : Option (String × List Char) :=
  match cs with
  | '"' :: '"' :: '"' :: cs => block '"' cs
  | '\'' :: '\'' :: '\'' :: cs => block '\'' cs
  | _ => quoted? cs
where
  /-- A string of several lines; a line that ends right behind the quotes is not part of it. -/
  block (quote : Char) (cs : List Char) : Option (String × List Char) :=
    blockText? quote (cs.length + 1) [] ((newline? cs).getD cs)

/-! ## Numbers -/

/-- Digits with single underscores between them, as the number they show and how many they are. -/
def digits? (radix : Nat) (cs : List Char) : Option ((Nat × Nat) × List Char) :=
  match cs with
  | [] => none
  | c :: cs => (digit? radix c).bind fun d => more d 1 cs
where
  /-- Further digits. -/
  more (value count : Nat) : List Char → Option ((Nat × Nat) × List Char)
    | '_' :: c :: cs => (digit? radix c).bind fun d => more (radix * value + d) (count + 1) cs
    | ['_'] => none
    | c :: cs =>
      match digit? radix c with
      | some d => more (radix * value + d) (count + 1) cs
      | none => some ((value, count), c :: cs)
    | [] => some ((value, count), [])

/-- A sign, if there is one; says whether it is a minus. -/
def sign (cs : List Char) : Bool × List Char :=
  match cs with
  | '+' :: cs => (false, cs)
  | '-' :: cs => (true, cs)
  | _ => (false, cs)

/-- A decimal number that does not begin with a zero unless it is zero. -/
def decimal? (cs : List Char) : Option (Nat × List Char) :=
  match cs with
  | '0' :: cs => some (0, cs)
  | _ => (digits? 10 cs).map fun ((value, _), cs) => (value, cs)

def inRange? (negative : Bool) (magnitude : Nat) : Option Int :=
  if negative then if magnitude ≤ Nat.pow 2 63 then some (-magnitude) else none
  else if magnitude < Nat.pow 2 63 then some magnitude else none

/-- A whole number; one without a sign may be hexadecimal, octal or binary. -/
def integer? (cs : List Char) : Option (Int × List Char) :=
  match cs with
  | '0' :: 'x' :: cs => unsigned 16 cs
  | '0' :: 'o' :: cs => unsigned 8 cs
  | '0' :: 'b' :: cs => unsigned 2 cs
  | _ =>
    let (negative, cs) := sign cs
    (decimal? cs).bind fun (magnitude, cs) => (inRange? negative magnitude).map (·, cs)
where
  /-- A number without a sign. -/
  unsigned (radix : Nat) (cs : List Char) : Option (Int × List Char) :=
    (digits? radix cs).bind fun ((magnitude, _), cs) => (inRange? false magnitude).map (·, cs)

/-- The magnitude bits of the double nearest to `significand * 10 ^ exponent`. -/
def nearest (significand : Nat) (exponent : Int) : Nat :=
  let double := Number.Floating.double
  let size : Int := exponent + (Nat.toDigits 10 significand).length
  if size < -400 then 0
  else if 400 < size then if significand = 0 then 0 else double.infinityBits
  else
    let (num, den) := Number.powerOfTen exponent
    double.ofRatio (significand * num) den

def exponent? (cs : List Char) : Option (Int × List Char) :=
  let (negative, cs) := sign cs
  (digits? 10 cs).map fun ((magnitude, _), cs) => (if negative then -magnitude else magnitude, cs)

/-- A number with a point, an exponent, or both; one above the largest is none. -/
def fraction? (cs : List Char) : Option (Nat × List Char) := do
  let (negative, cs) := sign cs
  let (whole, cs) ← decimal? cs
  let ((significand, places), cs) ←
    match cs with
    | '.' :: cs =>
      (digits? 10 cs).map fun ((part, count), cs) => ((whole * Nat.pow 10 count + part, count), cs)
    | 'e' :: _ => some ((whole, 0), cs)
    | 'E' :: _ => some ((whole, 0), cs)
    | _ => none
  let (exponent, cs) ←
    match cs with
    | 'e' :: cs => exponent? cs
    | 'E' :: cs => exponent? cs
    | _ => some (0, cs)
  let magnitude := nearest significand (exponent - places)
  if magnitude = Number.Floating.double.infinityBits ∧ !negative then none
  else some (Number.Floating.double.signed negative magnitude, cs)

def special? (cs : List Char) : Option (Nat × List Char) :=
  let double := Number.Floating.double
  let (negative, cs) := sign cs
  match word? "inf" cs with
  | some cs => some (double.signed negative double.infinityBits, cs)
  | none =>
    (word? "nan" cs).map fun cs =>
      (double.signed negative (double.infinityBits + Nat.pow 2 (double.mantissaBits - 1)), cs)

/-! ## Dates and times -/

/-- A number of exactly `width` decimal digits between two bounds. -/
def field? (width low high : Nat) (cs : List Char) : Option (Nat × List Char) :=
  match fixed? 10 width 0 cs with
  | some (n, cs) => if low ≤ n ∧ n ≤ high then some (n, cs) else none
  | none => none

/-- The number of days in a month. -/
def daysIn (year month : Nat) : Nat :=
  if month = 2 then
    if year % 4 = 0 ∧ (year % 100 ≠ 0 ∨ year % 400 = 0) then 29 else 28
  else if month = 4 ∨ month = 6 ∨ month = 9 ∨ month = 11 then 30
  else 31

def date? (cs : List Char) : Option (List Char) := do
  let (year, cs) ← field? 4 0 9999 cs
  let cs ← expect? '-' cs
  let (month, cs) ← field? 2 1 12 cs
  let cs ← expect? '-' cs
  let (_, cs) ← field? 2 1 (daysIn year month) cs
  some cs

/-- Pass over a time of day; its seconds may have a fraction. -/
def time? (cs : List Char) : Option (List Char) := do
  let (_, cs) ← field? 2 0 23 cs
  let cs ← expect? ':' cs
  let (_, cs) ← field? 2 0 59 cs
  let cs ← expect? ':' cs
  let (_, cs) ← field? 2 0 60 cs
  match cs with
  | '.' :: c :: rest =>
    if c.isDigit then some (rest.dropWhile Char.isDigit) else some cs
  | _ => some cs

/-- Pass over an offset from universal time, if there is one. -/
def offset? (cs : List Char) : Option (List Char) :=
  match cs with
  | 'Z' :: cs => some cs
  | 'z' :: cs => some cs
  | '+' :: cs => hours cs
  | '-' :: cs => hours cs
  | _ => some cs
where
  /-- Hours and minutes. -/
  hours (cs : List Char) : Option (List Char) := do
    let (_, cs) ← field? 2 0 23 cs
    let cs ← expect? ':' cs
    let (_, cs) ← field? 2 0 59 cs
    some cs

/-- Pass over a date, a time of day, or both. -/
def moment? (cs : List Char) : Option (List Char) :=
  match date? cs with
  | none => time? cs
  | some cs =>
    match cs with
    | c :: rest =>
      if c = 'T' ∨ c = 't' ∨ c = ' ' then
        match time? rest with
        | some rest => offset? rest
        | none => some cs
      else some cs
    | [] => some []

end SessionNet.Toml
