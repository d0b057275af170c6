import SessionNet.Session.Basic
import SessionNet.Transport.Filter

/-!
# The roster of sessions

All sessions of a server and the ways to find them: by number while they are registered, by
conveyance id, by tunnel id and by identity. An entry is only ever removed by the session it points
to. The number of bound identities is kept beside the index of identities, because the cap on it is
checked before an entry is made.
-/

namespace SessionNet

/-- What every new session is created with. -/
structure SessionSettings where
  queueCapacity : Nat := 512
  queuePolicy : QueuePolicy := QueuePolicy.standard
  /-- In microseconds. -/
  maxIdle : Nat := 180000 * microsPerMilli
  /-- In microseconds. -/
  orphanAllowance : Nat := 30000 * microsPerMilli
  tunnelEnabled : Bool := false
  /-- The most identities bound at a time; zero is no limit. -/
  maxIdentities : Nat := 0

/-- The sessions of a server, by number in order of creation, and the indexes over them. -/
structure Roster where
  settings : SessionSettings := {}
  filter : ConnectionFilter := {}
  sessions : List Session := []
  registered : List SessionId := []
  byConveyance : List (UInt32 × SessionId) := []
  byTunnel : List (UInt32 × SessionId) := []
  byIdentity : List (String × SessionId) := []
  boundIdentities : Nat := 0
  conveyanceCounter : UInt32 := 1

/-- An index without the entry of `key` if that points to `id`. -/
def removeEntry {κ : Type} [BEq κ] (index : List (κ × SessionId)) (key : κ) (id : SessionId) :
    List (κ × SessionId) :=
  index.filter fun entry => !(entry.1 == key && entry.2 == id)

/-- An index in which `key` points to `id`. -/
def setEntry {κ : Type} [BEq κ] (index : List (κ × SessionId)) (key : κ) (id : SessionId) :
    List (κ × SessionId) :=
  (key, id) :: index.filter fun entry => !(entry.1 == key)

namespace Roster

/-! ## Sessions by number -/

/-- A session, registered or not. -/
def session? (r : Roster) (id : SessionId) : Option Session := r.sessions[id]?

def update (r : Roster) (id : SessionId) (f : Session → Session) : Roster :=
  { r with sessions := r.sessions.modify id f }

def isActive (r : Roster) (id : SessionId) : Bool := (r.session? id).any (·.isActive)

def association? (r : Roster) (id : SessionId) : Option AssociationState :=
  (r.session? id).map (·.association)

/-- Move a session to a state if its current one is `source`; says whether it was. -/
def transition (r : Roster) (id : SessionId) (source target : AssociationState) : Bool × Roster :=
  match r.session? id with
  | none => (false, r)
  | some s =>
    let (moved, s) := s.transition source target
    (moved, r.update id fun _ => s)

/-! ## Look-up -/

/-- The registered session with a number. -/
def find? (r : Roster) (id : SessionId) : Option SessionId :=
  if r.registered.contains id then some id else none

def findConveyance? (r : Roster) (id : UInt32) : Option SessionId := r.byConveyance.lookup id

def findTunnel? (r : Roster) (id : UInt32) : Option SessionId := r.byTunnel.lookup id

def findIdentity? (r : Roster) (identity : String) : Option SessionId :=
  r.byIdentity.lookup identity

/-- The number of registered sessions. -/
def size (r : Roster) : Nat := r.registered.length

def identityCount (r : Roster) : Nat := r.byIdentity.length

/-- Whether a new identity would be refused now. -/
def atCapacity (r : Roster) : Bool :=
  0 < r.settings.maxIdentities && r.settings.maxIdentities ≤ r.boundIdentities

/-- Registered sessions that meet a condition, in order of their numbers. -/
def registeredWhere (r : Roster) (p : Session → Bool) : List SessionId :=
  (List.range r.sessions.length).filter fun id =>
    r.registered.contains id && (r.session? id).any p

/-! ## Creation -/

/-- A session with the settings of the roster. -/
def freshSession (r : Roster) (remote? : Option SocketAddress) (now : Instant) : Session :=
  { remote?
    queue := ⟨r.settings.queueCapacity, r.settings.queuePolicy, []⟩
    maxIdle := r.settings.maxIdle
    orphanAllowance := r.settings.orphanAllowance
    createdAt := now
    isManaged := true }

/-- Add a session without registering it. -/
def add (r : Roster) (s : Session) : SessionId × Roster :=
  (r.sessions.length, { r with sessions := r.sessions ++ [s] })

/-- Add a session, activate and register it. -/
def register (r : Roster) (s : Session) : SessionId × Roster :=
  let (id, r) := r.add s.activate
  (id, { r with registered := id :: r.registered })

/-- Create a session for an accepted stream. -/
def createSocket (r : Roster) (stream : Stream) (remote : SocketAddress) (now : Instant) :
    Except NetError (SessionId × Roster) :=
  ((r.freshSession (some remote) now).attachSocket stream).map r.register

/-- Create a session for a channel of whole messages. -/
def createWebSocket (r : Roster) (sink : Sink) (remote : SocketAddress) (now : Instant) :
    Except NetError (SessionId × Roster) :=
  ((r.freshSession (some remote) now).attachWebSocket sink).map r.register

/-! ## Secondary transports -/

/-- Step a counter until it shows an id that is neither zero nor in use, at most `steps` times. -/
def searchConveyance (inUse : UInt32 → Bool) : (steps : Nat) → (counter : UInt32) →
    Option (UInt32 × UInt32)
  | 0, _ => none
  | steps + 1, counter =>
    if counter != 0 && !inUse counter then some (counter, counter + 1)
    else searchConveyance inUse steps (counter + 1)

def conveyanceInUse (r : Roster) (id : UInt32) : Bool := (r.findConveyance? id).isSome

/-- A conveyance id that is not in use; nothing only after a full turn of the counter without one. -/
def nextConveyance? (r : Roster) : Option (UInt32 × Roster) :=
  (searchConveyance r.conveyanceInUse UInt32.size r.conveyanceCounter).map fun (id, counter) =>
    (id, { r with conveyanceCounter := counter })

/-- Bind a datagram path to an active session. -/
def addDatagram (r : Roster) (id : SessionId) (channel : DatagramChannel) :
    Except NetError Roster :=
  match r.session? id with
  | none => .error (.illegalState .sessionInactive)
  | some s =>
    if !s.isActive then .error (.illegalState .sessionInactive)
    else
      match s.attachDatagram channel with
      | .error e => .error e
      | .ok s =>
        .ok { r.update id fun _ => s with
          byConveyance := setEntry r.byConveyance channel.conveyance id }

/-- Bind a tunnel to an active session, if tunnels are enabled. -/
def addTunnel (r : Roster) (id : SessionId) (channel : TunnelChannel) : Except NetError Roster :=
  if !r.settings.tunnelEnabled then .error (.illegalState .tunnelDisabled)
  else
    match r.session? id with
    | none => .error (.illegalState .sessionInactive)
    | some s =>
      if !s.isActive then .error (.illegalState .sessionInactive)
      else
        match s.attachTunnel channel with
        | .error e => .error e
        | .ok s =>
          .ok { r.update id fun _ => s with byTunnel := setEntry r.byTunnel channel.id id }

/-! ## Removal and closing -/

/-- Remove the entry of an identity if it points to the session. -/
def removeIdentity (r : Roster) (id : SessionId) (identity : String) : Roster :=
  if r.findIdentity? identity = some id then
    { r with
      byIdentity := removeEntry r.byIdentity identity id
      boundIdentities := r.boundIdentities - 1 }
  else r

/-- Remove a session from every index; says whether it was registered. -/
def remove (r : Roster) (id : SessionId) : Bool × Roster :=
  match r.session? id with
  | none => (false, r)
  | some s =>
    let found := r.registered.contains id
    let r := { r with registered := r.registered.filter (· != id) }
    let r :=
      match s.datagram? with
      | some channel =>
        { r with byConveyance := removeEntry r.byConveyance channel.conveyance id }
      | none => r
    let r :=
      match s.tunnel? with
      | some channel => { r with byTunnel := removeEntry r.byTunnel channel.id id }
      | none => r
    match s.identity? with
    | some identity => (found, r.removeIdentity id identity)
    | none => (found, r)

/-- Give back the slot that a session holds. -/
def releaseSlot (r : Roster) (s : Session) : Roster :=
  match s.holdsSlot, s.remote? with
  | true, some remote => { r with filter := r.filter.release remote.ip }
  | _, _ => r

/-- Close an active session; says whether this call did it. A managed session leaves every index. -/
def close (r : Roster) (id : SessionId) (reason : CloseReason) : Bool × Roster :=
  match r.session? id with
  | none => (false, r)
  | some s =>
    if !s.isActive then (false, r)
    else
      let r := (r.releaseSlot s).update id fun s => s.tearDown reason
      if s.isManaged then (true, (r.remove id).2) else (true, r)

/-! ## Identities -/

/-- Make room for one more identity, if the cap admits it. -/
def claimIdentity? (r : Roster) : Option Roster :=
  if r.settings.maxIdentities = 0 ∨ r.boundIdentities < r.settings.maxIdentities then
    some { r with boundIdentities := r.boundIdentities + 1 }
  else none

/-- Let an identity point to a session and the session bear it; an attempt under way is done. -/
def bind (r : Roster) (identity : String) (id : SessionId) : Roster :=
  let r := { r with byIdentity := setEntry r.byIdentity identity id }
  let r := r.update id fun s => { s with identity? := some identity }
  (r.transition id .doing .done).2

/--
Bind an identity to a session. A live holder keeps it, and the cap is checked only for an identity
without an entry; a refused attempt falls back to the state none.
-/
def associate (r : Roster) (identity : String) (id : SessionId) : AssociationResult × Roster :=
  match r.findIdentity? identity with
  | some holder =>
    if holder = id then (.alreadyAssociated, r)
    else if r.isActive holder then (.duplicated, (r.transition id .doing .none).2)
    else (.success, r.bind identity id)
  | none =>
    match r.claimIdentity? with
    | some r => (.success, r.bind identity id)
    | none => (.limitReached, (r.transition id .doing .none).2)

/-- Move an identity to a session, with the session that held it before. -/
def rebind (r : Roster) (identity : String) (id : SessionId) : Option SessionId × Roster :=
  let holder? := r.findIdentity? identity
  -- a takeover is never refused by the cap
  let r :=
    if holder?.isNone then { r with boundIdentities := r.boundIdentities + 1 } else r
  let r := r.bind identity id
  match holder?.filter (· != id) with
  | some old => (some old, r.update old fun s => { s with identity? := none })
  | none => (none, r)

end Roster

end SessionNet
