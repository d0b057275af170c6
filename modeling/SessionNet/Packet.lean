import SessionNet.Bytes
import SessionNet.Text.Keyed

/-!
# Packets

A packet carries the bytes of one serialized message to the writer. Ids are given in order of
creation and are the order in which a session sends its packets.
-/

namespace SessionNet

/-- Sessions are known by number. -/
abbrev SessionId := Nat

/-- How much a packet matters when a queue fills up. -/
inductive Priority where
  | nonGuaranteed
  | normal
  | guaranteed
  | guaranteedQuickest
  deriving DecidableEq, Repr

namespace Priority

/-- The place in the order of priorities. -/
def rank : Priority → Nat
  | .nonGuaranteed => 0
  | .normal => 1
  | .guaranteed => 2
  | .guaranteedQuickest => 3

/-- Whether a packet of this priority must not be shed. -/
def mustDeliver (p : Priority) : Bool := Priority.guaranteed.rank ≤ p.rank

/-- The name used in data. -/
def key : Priority → String
  | .nonGuaranteed => "non_guaranteed"
  | .normal => "normal"
  | .guaranteed => "guaranteed"
  | .guaranteedQuickest => "guaranteed_quickest"

instance : Keyed Priority := ⟨[.nonGuaranteed, .normal, .guaranteed, .guaranteedQuickest], key⟩

end Priority

/-- The transport that a packet or a session travels over. -/
inductive TransportKind where
  | unknown
  | tcp
  | udp
  | webSocket
  deriving DecidableEq, Repr

namespace TransportKind

/-- The name used in data. -/
def key : TransportKind → String
  | .unknown => "unknown"
  | .tcp => "tcp"
  | .udp => "udp"
  | .webSocket => "web_socket"

def name : TransportKind → String
  | .unknown => "unknown"
  | .tcp => "tcp"
  | .udp => "udp"
  | .webSocket => "websocket"

instance : Keyed TransportKind := ⟨[.unknown, .tcp, .udp, .webSocket], key⟩

end TransportKind

/-- A unit of outbound data. -/
structure Packet where
  id : Nat
  payload : Bytes
  priority : Priority := .normal
  transport : TransportKind := .tcp
  /-- Whether to encrypt, given that there is a key. -/
  encrypted : Bool := false
  /-- The sessions to send copies to instead of the one it is handed to. -/
  recipients? : Option (List SessionId) := none
  deriving DecidableEq, Repr

end SessionNet
