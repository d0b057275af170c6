import SessionNet.Number.Text
import SessionNet.Toml.Scalar
import SessionNet.Toml.Value

/-!
# Writing TOML scalars

A string is written between quotation marks on one line if it needs no escapes there, else between
apostrophes if it holds none. Failing both it is written as a block between tripled quotation marks
or apostrophes, and with escapes if no form does without them.
-/

namespace SessionNet.Toml

/-- How a string is delimited. -/
inductive StringForm where
  /-- Between quotation marks. -/
  | basic
  /-- Between apostrophes, without escapes. -/
  | literal
  /-- Between tripled quotation marks. -/
  | basicBlock
  /-- Between tripled apostrophes, without escapes. -/
  | literalBlock
  deriving DecidableEq, Repr

namespace StringForm

/-- The character that delimits a string. -/
def quote : StringForm → Char
  | basic | basicBlock => '"'
  | literal | literalBlock => '\''

/-- Whether a string may hold ends of lines. -/
def isBlock : StringForm → Bool
  | basic | literal => false
  | basicBlock | literalBlock => true

/-- Whether characters that cannot stand for themselves are escaped. -/
def escapes : StringForm → Bool
  | basic | basicBlock => true
  | literal | literalBlock => false

/-- What stands at either end of a string. -/
def delimiter (form : StringForm) : String :=
  String.ofList (List.replicate (if form.isBlock then 3 else 1) form.quote)

/-- The most delimiting characters in a row that a string may hold as they are. -/
def quotesInside (form : StringForm) : Nat := if form.isBlock then 2 else 0

/-- The most occurrences of a character in a row. -/
def longestRun (quote : Char) (cs : List Char) : Nat :=
  (cs.foldl (fun (longest, run) c =>
    let run := if c = quote then run + 1 else 0
    (max longest run, run)) (0, 0)).1

/-- Whether the characters can all stand for themselves in a string of this form. -/
def holdsPlainly (form : StringForm) (cs : List Char) : Bool :=
  cs.all (fun c => isPlain c || c == '\n')
    && (form.isBlock || !cs.contains '\n')
    && !(form.escapes && cs.contains '\\')
    && longestRun form.quote cs ≤ form.quotesInside

/-- The form in which a string is written: the first in which all its characters stand for
themselves, else one with escapes. -/
def choose (cs : List Char) : StringForm :=
  match [basic, literal, basicBlock, literalBlock].find? (·.holdsPlainly cs) with
  | some form => form
  | none => if cs.contains '\n' then basicBlock else basic

end StringForm

/-- The character `c` in a string with escapes; a quotation mark is not looked at. -/
def escapeChar (block : Bool) (c : Char) : String :=
  match c with
  | '\x08' => "\\b"
  | '\t' => "\\t"
  | '\n' => if block then "\n" else "\\n"
  | '\x0c' => "\\f"
  | '\r' => "\\r"
  | '\\' => "\\\\"
  | c =>
    if c ≤ '\x1f' ∨ c = '\x7f' then "\\u" ++ (Number.hexPadded 4 c.toNat).toUpper
    else String.singleton c

/-- The characters of a string with escapes; `run` counts the quotation marks just before. -/
def escapeChars (form : StringForm) : (run : Nat) → List Char → List String
  | _, [] => []
  | run, '"' :: cs =>
    if run < form.quotesInside then "\"" :: escapeChars form (run + 1) cs
    else "\\\"" :: escapeChars form 0 cs
  | _, c :: cs => escapeChar form.isBlock c :: escapeChars form 0 cs

/-- The written form of a string; a block with ends of lines begins on a line of its own. -/
def quote (s : String) : String :=
  let cs := s.toList
  let form := StringForm.choose cs
  let start := if form.isBlock && cs.contains '\n' then "\n" else ""
  let body := if form.escapes then String.join (escapeChars form 0 cs) else s
  form.delimiter ++ start ++ body ++ form.delimiter

/-- Numbers are written without an exponent, with at least one place. -/
def floatStyle : Number.FloatStyle := ⟨.toEven, 1, none, "nan", "inf"⟩

def Scalar.write : Scalar → String
  | .text s => quote s
  | .integer n => (if n < 0 then "-" else "") ++ Number.natText n.natAbs
  | .float bits => floatStyle.write .double bits
  | .bool b => if b then "true" else "false"

end SessionNet.Toml
