import SessionNet.Bytes
import SessionNet.Error

/-!
# Writing without waiting

Bytes are offered to a stream until it has taken all of them, takes no more for now, or fails. How
the stream behaves is a list of outcomes, one for each attempt; after the last of them it takes
everything. An interrupted attempt is repeated.
-/

namespace SessionNet

/-- What a stream does with the bytes offered to it. -/
inductive WriteOutcome where
  /-- Takes at most that many bytes. -/
  | takes (count : Nat)
  | blocks
  | interrupted
  | fails (detail : String)
  deriving DecidableEq, Repr

/-- The outcome of offering bytes: how many were taken, and those left when the stream blocked. -/
structure Written where
  count : Nat
  rest? : Option Bytes
  deriving DecidableEq, Repr

/-- A round of attempts: its result, the bytes taken, the attempts made and the outcomes left. -/
structure WriteRound where
  result : Except NetError Written
  taken : Bytes
  calls : Nat
  script : List WriteOutcome

/-- Offer bytes until a stream that behaves as scripted has taken them, blocks or fails. -/
def offer (script : List WriteOutcome) (bytes : Bytes) (taken : Bytes) (calls : Nat) : WriteRound :=
  if bytes = [] then ⟨.ok ⟨taken.length, none⟩, taken, calls, script⟩
  else
    match script with
    | [] => ⟨.ok ⟨taken.length + bytes.length, none⟩, taken ++ bytes, calls + 1, []⟩
    | .takes 0 :: rest => ⟨.error (.io "write zero"), taken, calls + 1, rest⟩
    | .takes count :: rest => offer rest (bytes.drop count) (taken ++ bytes.take count) (calls + 1)
    | .blocks :: rest => ⟨.ok ⟨taken.length, some bytes⟩, taken, calls + 1, rest⟩
    | .interrupted :: rest => offer rest bytes taken (calls + 1)
    | .fails detail :: rest => ⟨.error (.io detail), taken, calls + 1, rest⟩

/-- Write bytes to a stream that behaves as scripted. -/
def writeAvailable (script : List WriteOutcome) (bytes : Bytes) : WriteRound :=
  offer script bytes [] 0

end SessionNet
