import SessionNet.Toml.Scalar
import SessionNet.Toml.Value

/-!
# TOML documents

A document is a sequence of lines, each with a key and its value or with the header of a table.
Arrays and inline tables nest to a limited depth, and a dotted key has as limited a number of parts.
-/

namespace SessionNet.Toml

/-- Nesting from this depth on is refused, and keys of as many parts. -/
def depthLimit : Nat := 80

/-! ## Keys -/

/-- Whether a character can be in a key without quotes. -/
def isKeyChar (c : Char) : Bool := c.isAlphanum || c == '-' || c == '_'

def keyPart? (cs : List Char) : Option (String × List Char) :=
  match cs with
  | '"' :: _ => quoted? cs
  | '\'' :: _ => quoted? cs
  | _ =>
    let bare := cs.takeWhile isKeyChar
    if bare.isEmpty then none else some (String.ofList bare, cs.drop bare.length)

/-- The parts of a key, separated by points. -/
def keyParts? : (fuel : Nat) → List Char → Option (List String × List Char)
  | 0, _ => none
  | fuel + 1, cs =>
    match keyPart? (skipSpace cs) with
    | none => none
    | some (part, cs) =>
      match skipSpace cs with
      | '.' :: cs => (keyParts? fuel cs).map fun (parts, cs) => (part :: parts, cs)
      | cs => some ([part], cs)

/-- A key: the parts in front and the last one. -/
def key? (cs : List Char) : Option ((List String × String) × List Char) :=
  match keyParts? depthLimit cs with
  | none => none
  | some (parts, cs) =>
    if depthLimit ≤ parts.length then none
    else parts.getLast?.map fun last => ((parts.dropLast, last), cs)

/-! ## White space -/

/-- Pass over a comment, if there is one. -/
def skipComment (cs : List Char) : List Char :=
  match cs with
  | '#' :: cs => cs.dropWhile isPlain
  | _ => cs

/-- Pass over the end of a line or of the text. -/
def lineEnd? (cs : List Char) : Option (List Char) := if cs.isEmpty then some [] else newline? cs

/-- Pass over what may follow a value or a header on its line. -/
def lineRest? (cs : List Char) : Option (List Char) := lineEnd? (skipComment (skipSpace cs))

/-- Pass over white space, comments and ends of lines; a comment must end its line. -/
def skipBlank : (fuel : Nat) → List Char → List Char
  | 0, cs => cs
  | fuel + 1, cs =>
    let cs := skipSpace cs
    match newline? (skipComment cs) with
    | some rest => skipBlank fuel rest
    | none => if (skipComment cs).isEmpty then [] else cs

/-! ## Values -/

mutual

/-- A value inside `depth` arrays and inline tables. -/
def value? : (fuel depth : Nat) → List Char → Option (Value × List Char)
  | 0, _, _ => none
  | fuel + 1, depth, cs =>
    match cs with
    | [] => none
    | c :: rest =>
      if c = '"' ∨ c = '\'' then (text? cs).map fun (s, cs) => (.scalar (.text s), cs)
      else if c = '[' then
        if depthLimit ≤ depth + 1 then none
        else (items? fuel (depth + 1) [] rest).map fun (items, cs) => (.array items, cs)
      else if c = '\x7b' then
        if depthLimit ≤ depth + 1 then none
        else (members? fuel (depth + 1) true {} rest).map fun (t, cs) => (t.toValue, cs)
      else if c = 't' then (word? "true" cs).map fun cs => (.scalar (.bool true), cs)
      else if c = 'f' then (word? "false" cs).map fun cs => (.scalar (.bool false), cs)
      else number? cs

def items? : (fuel depth : Nat) → (items : List Value) → List Char →
    Option (List Value × List Char)
  | 0, _, _, _ => none
  | fuel + 1, depth, items, cs =>
    match skipBlank cs.length cs with
    | ']' :: cs => some (items.reverse, cs)
    | cs =>
      match value? fuel depth cs with
      | none => none
      | some (v, cs) =>
        match skipBlank cs.length cs with
        | ',' :: cs => items? fuel depth (v :: items) cs
        | ']' :: cs => some ((v :: items).reverse, cs)
        | _ => none

/-- The rest of an inline table; only before its first member can it end at once. -/
def members? : (fuel depth : Nat) → (first : Bool) → Table → List Char →
    Option (Table × List Char)
  | 0, _, _, _, _ => none
  | fuel + 1, depth, first, t, cs =>
    match skipSpace cs, first with
    | '\x7d' :: cs, true => some (t, cs)
    | cs, _ =>
      match member? fuel depth cs with
      | none => none
      | some ((front, last, v), cs) =>
        match t.insert front last v, skipSpace cs with
        | some t, ',' :: cs => members? fuel depth false t cs
        | some t, '\x7d' :: cs => some (t, cs)
        | _, _ => none

def member? : (fuel depth : Nat) → List Char →
    Option ((List String × String × Value) × List Char)
  | 0, _, _ => none
  | fuel + 1, depth, cs =>
    match key? cs with
    | some ((front, last), '=' :: cs) =>
      (value? fuel depth (skipSpace cs)).map fun (v, cs) => ((front, last, v), cs)
    | _ => none

/-- A date, a time or a number. -/
def number? (cs : List Char) : Option (Value × List Char) :=
  match moment? cs with
  | some rest => some (.moment, rest)
  | none =>
    match fraction? cs with
    | some (bits, rest) => some (.scalar (.float bits), rest)
    | none =>
      match special? cs with
      | some (bits, rest) => some (.scalar (.float bits), rest)
      | none => (integer? cs).map fun (n, rest) => (.scalar (.integer n), rest)

end

/-! ## Lines -/

/-- A document while it is read: its tables, and the path of the header above. -/
structure Draft where
  root : Table := {}
  path : List String := []

namespace Draft

/-- Add a value under a key, in the table of the header above. -/
def addValue? (d : Draft) (front : List String) (last : String) (v : Value) : Option Draft :=
  (d.root.modifyAt .path (fun t => t.insert front last v) d.path).map fun root => { d with root }

def header? (d : Draft) (isArray : Bool) (front : List String) (last : String) : Option Draft :=
  let begin := if isArray then Table.append last else Table.define last
  (d.root.modifyAt .path begin front).map fun root => ⟨root, front ++ [last]⟩

/-- Read a header behind its first bracket. -/
def headerLine? (d : Draft) (cs : List Char) : Option (Draft × List Char) :=
  match cs with
  | '[' :: cs =>
    match key? cs with
    | some ((front, last), ']' :: ']' :: cs) =>
      (d.header? true front last).bind fun d => (lineRest? cs).map (d, ·)
    | _ => none
  | _ =>
    match key? cs with
    | some ((front, last), ']' :: cs) =>
      (d.header? false front last).bind fun d => (lineRest? cs).map (d, ·)
    | _ => none

/-- Read a key and its value. -/
def memberLine? (d : Draft) (cs : List Char) : Option (Draft × List Char) :=
  match member? (2 * cs.length + 2) 0 cs with
  | some ((front, last, v), cs) =>
    (d.addValue? front last v).bind fun d => (lineRest? cs).map (d, ·)
  | none => none

/-- Read lines to the end of the text. -/
def lines? : (fuel : Nat) → Draft → List Char → Option Draft
  | 0, _, _ => none
  | fuel + 1, d, cs =>
    match skipSpace cs with
    | [] => some d
    | '[' :: cs => (d.headerLine? cs).bind fun (d, cs) => lines? fuel d cs
    | '#' :: cs => (lineEnd? (skipComment ('#' :: cs))).bind fun cs => lines? fuel d cs
    | '\n' :: cs => lines? fuel d cs
    | '\r' :: '\n' :: cs => lines? fuel d cs
    | cs => (d.memberLine? cs).bind fun (d, cs) => lines? fuel d cs

end Draft

/-- The entries of a document; a byte order mark at its start is no part of it. -/
def read? (text : String) : Option (List (String × Value)) :=
  let cs :=
    match text.toList with
    | '\ufeff' :: cs => cs
    | cs => cs
  (Draft.lines? (cs.length + 1) {} cs).map fun d => entriesToValues d.root.entries

end SessionNet.Toml
