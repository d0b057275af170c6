import SessionNet.Error

/-!
# Time

Instants are microseconds after a fixed moment. Waiting is modelled by what the awaited work does:
it is ready with a result, or it never completes and the deadline passes.
-/

namespace SessionNet

/-- Microseconds after a fixed moment. -/
abbrev Instant := Nat

/-- Microseconds in a millisecond. -/
def microsPerMilli : Nat := 1000

/-- The time from `since` to `now`, zero if `now` is earlier. -/
def elapsed (since now : Instant) : Nat := now - since

/-- The result of work under a deadline; work without a result never completes. -/
def awaitWithin {α : Type} (work? : Option (Except NetError α)) : Except NetError α :=
  work?.getD (.error .timeout)

end SessionNet
