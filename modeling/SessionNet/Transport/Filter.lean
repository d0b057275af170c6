import SessionNet.Error
import SessionNet.Transport.Address

/-!
# Admission by address

A filter keeps a list of banned addresses and counts the connections of each address. A connection
takes a slot of its address before a session exists, and gives it back when the session closes. No
address is kept with a count of zero.
-/

namespace SessionNet

/-- Banned addresses and the slots taken by each address; a limit of zero is no limit. -/
structure ConnectionFilter where
  maxPerAddress : Nat := 0
  banned : List IpAddress := []
  active : List (IpAddress × Nat) := []
  deriving DecidableEq, Repr

namespace ConnectionFilter

def isBanned (f : ConnectionFilter) (ip : IpAddress) : Bool := f.banned.contains ip

/-- The slots taken by an address. -/
def connectionsFrom (f : ConnectionFilter) (ip : IpAddress) : Nat := (f.active.lookup ip).getD 0

def ban (f : ConnectionFilter) (ip : IpAddress) : ConnectionFilter :=
  if f.isBanned ip then f else { f with banned := ip :: f.banned }

/-- Lift a ban; says whether there was one. -/
def unban (f : ConnectionFilter) (ip : IpAddress) : Bool × ConnectionFilter :=
  (f.isBanned ip, { f with banned := f.banned.filter (· != ip) })

/-- Set the number of slots of an address; none are kept as no entry. -/
def setCount (f : ConnectionFilter) (ip : IpAddress) (count : Nat) : ConnectionFilter :=
  let others := f.active.filter (·.1 != ip)
  { f with active := if count = 0 then others else (ip, count) :: others }

/-- Take a slot, unless the address is banned or has no slot left. -/
def reserve (f : ConnectionFilter) (ip : IpAddress) : Except NetError ConnectionFilter :=
  let count := f.connectionsFrom ip
  if f.isBanned ip || (0 < f.maxPerAddress && f.maxPerAddress ≤ count) then
    .error (.connectionRefused ip.text)
  else .ok (f.setCount ip (count + 1))

/-- Give a slot back. -/
def release (f : ConnectionFilter) (ip : IpAddress) : ConnectionFilter :=
  f.setCount ip (f.connectionsFrom ip - 1)

end ConnectionFilter

end SessionNet
