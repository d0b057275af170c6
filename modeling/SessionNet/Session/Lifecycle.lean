import SessionNet.Text.Keyed

/-!
# Life of a session

A session is associated with an application identity at most once and closed at most once. The
association state moves from none through doing to done, or back from doing to none when an attempt
fails.
-/

namespace SessionNet

/-- Whether a session has been bound to an identity. -/
inductive AssociationState where
  | none
  | doing
  | done
  deriving DecidableEq, Repr

namespace AssociationState

def key : AssociationState → String
  | .none => "None"
  | .doing => "Doing"
  | .done => "Done"

def number : AssociationState → Nat
  | .none => 0
  | .doing => 1
  | .done => 2

instance : Keyed AssociationState := ⟨[.none, .doing, .done], key⟩

end AssociationState

/-- The outcome of binding an identity to a session. -/
inductive AssociationResult where
  | success
  /-- Another live session holds the identity. -/
  | duplicated
  /-- The session is already bound to the identity. -/
  | alreadyAssociated
  /-- The most identities are already bound. -/
  | limitReached
  deriving DecidableEq, Repr

namespace AssociationResult

def key : AssociationResult → String
  | .success => "success"
  | .duplicated => "duplicated"
  | .alreadyAssociated => "already_associated"
  | .limitReached => "limit_reached"

instance : Keyed AssociationResult :=
  ⟨[.success, .duplicated, .alreadyAssociated, .limitReached], key⟩

end AssociationResult

/-- Why a session was closed. -/
inductive CloseReason where
  | peerClosed
  | readError
  | writeError
  | protocolViolation
  | idle
  | orphan
  /-- Its identity moved to a newer session. -/
  | reconnected
  | duplicated
  /-- The most identities are already bound. -/
  | rejected
  | shutdown
  | administrative
  deriving DecidableEq, Repr

namespace CloseReason

def key : CloseReason → String
  | .peerClosed => "peer_closed"
  | .readError => "read_error"
  | .writeError => "write_error"
  | .protocolViolation => "protocol_violation"
  | .idle => "idle"
  | .orphan => "orphan"
  | .reconnected => "reconnected"
  | .duplicated => "duplicated"
  | .rejected => "rejected"
  | .shutdown => "shutdown"
  | .administrative => "administrative"

instance : Keyed CloseReason :=
  ⟨[.peerClosed, .readError, .writeError, .protocolViolation, .idle, .orphan, .reconnected,
    .duplicated, .rejected, .shutdown, .administrative], key⟩

end CloseReason

end SessionNet
