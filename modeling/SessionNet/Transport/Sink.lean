import SessionNet.Bytes
import SessionNet.Error

/-!
# Message sinks

The outbound side of a channel of whole messages whose other side is driven from outside. A sink
refuses messages once it is closed or nobody receives any more; what was sent before can still be
received.
-/

namespace SessionNet

/-- Messages on their way to the receiver, oldest first. -/
structure Sink where
  sent : List Bytes := []
  closed : Bool := false
  received : Bool := true
  deriving DecidableEq, Repr

namespace Sink

def isClosed (s : Sink) : Bool := s.closed || !s.received

/-- Send a message. -/
def send (s : Sink) (data : Bytes) : Except NetError Sink :=
  if s.isClosed then .error .connectionClosed else .ok { s with sent := s.sent ++ [data] }

def receive (s : Sink) : Option Bytes × Sink :=
  match s.sent with
  | data :: rest => (some data, { s with sent := rest })
  | [] => (none, s)

/-- Accept no more messages. -/
def close (s : Sink) : Sink := { s with closed := true }

/-- The receiver goes away, and what it has not received with it. -/
def dropReceiver (s : Sink) : Sink := { s with received := false, sent := [] }

end Sink

end SessionNet
