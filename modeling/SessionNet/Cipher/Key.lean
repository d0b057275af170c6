import SessionNet.Cipher.XChaCha
import SessionNet.Text.Blank
import SessionNet.Text.Utf8

/-!
# Keys in configuration files

A key is written as 64 hexadecimal digits, blanks around it aside. The length is counted in bytes,
and the digits are taken two bytes at a time; a pair may also be a plus sign and one digit. A pair
that would cut a character in two does not come back as a failure: it brings the caller down.
-/

namespace SessionNet

/-- How a computation can end without a value: with a failure to handle, or by bringing down its
caller. -/
inductive Abort where
  | failed (error : NetError)
  | crashed
  deriving DecidableEq, Repr

namespace Cipher

/-- The value of a hexadecimal digit in either case. -/
def digitValue? (b : UInt8) : Option Nat :=
  let n := b.toNat
  if 48 ≤ n ∧ n ≤ 57 then some (n - 48)
  else if 65 ≤ n ∧ n ≤ 70 then some (n - 55)
  else if 97 ≤ n ∧ n ≤ 102 then some (n - 87)
  else none

/-- The byte that a pair stands for. -/
def pairValue? (first second : UInt8) : Option UInt8 :=
  match digitValue? first, digitValue? second with
  | some high, some low => some (UInt8.ofNat (16 * high + low))
  | none, some low => if first = 0x2b then some (UInt8.ofNat low) else none
  | _, none => none

/-- Read pairs behind those already `read`, newest first. -/
def readPairs (read : Bytes) : Bytes → Except Abort Bytes
  | first :: second :: rest =>
    let cutsCharacter :=
      Text.isContinuation first || (rest.head?.map Text.isContinuation).getD false
    if cutsCharacter then .error .crashed
    else
      match pairValue? first second with
      | some byte => readPairs (byte :: read) rest
      | none =>
        let pair := (Text.ofUtf8? [first, second]).getD ""
        .error (.failed (.configuration ("Invalid hex in encryption key: " ++ pair)))
  | _ => .ok read.reverse

def SecretKey.ofHex (text : String) : Except Abort SecretKey :=
  let bytes := Text.utf8 (Text.trim text)
  if bytes.length ≠ 64 then
    .error (.failed (.configuration
      ("Encryption key must be 64 hex characters, got " ++ Number.natText bytes.length)))
  else
    match readPairs [] bytes with
    | .error abort => .error abort
    | .ok key => if h : key.length = 32 then .ok ⟨key, h⟩ else .error .crashed

end Cipher

end SessionNet
