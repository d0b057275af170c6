import SessionNet.Bytes
import SessionNet.Error

/-!
# Reliable tunnels

A tunnel carries whole messages between two ends. What one end sends waits in its outbox until that
end flushes, and then in the other end's inbox until it is received. Closing either end closes both;
messages that have arrived can still be received.
-/

namespace SessionNet

/-- One of the two ends. -/
inductive TunnelEnd where
  | near
  | far
  deriving DecidableEq, Repr

/-- The messages that one end has sent and those it can receive, oldest first. -/
structure TunnelBoxes where
  outbox : List Bytes := []
  inbox : List Bytes := []
  deriving DecidableEq, Repr

/-- The two ends of a tunnel. -/
structure Tunnel where
  near : TunnelBoxes := {}
  far : TunnelBoxes := {}
  closed : Bool := false
  deriving DecidableEq, Repr

namespace Tunnel

/-- Send a message from an end. -/
def send (t : Tunnel) (side : TunnelEnd) (data : Bytes) : Except NetError Tunnel :=
  if t.closed then .error .connectionClosed
  else
    match side with
    | .near => .ok { t with near := { t.near with outbox := t.near.outbox ++ [data] } }
    | .far => .ok { t with far := { t.far with outbox := t.far.outbox ++ [data] } }

/-- Hand the messages sent from an end over to the other end. -/
def flush (t : Tunnel) (side : TunnelEnd) : Except NetError Tunnel :=
  if t.closed then .error .connectionClosed
  else
    match side with
    | .near =>
      .ok { t with
        near := { t.near with outbox := [] }
        far := { t.far with inbox := t.far.inbox ++ t.near.outbox } }
    | .far =>
      .ok { t with
        far := { t.far with outbox := [] }
        near := { t.near with inbox := t.near.inbox ++ t.far.outbox } }

/-- Receive the oldest message at an end. -/
def receive (t : Tunnel) (side : TunnelEnd) : Option Bytes × Tunnel :=
  match side, t.near.inbox, t.far.inbox with
  | .near, data :: rest, _ => (some data, { t with near := { t.near with inbox := rest } })
  | .far, _, data :: rest => (some data, { t with far := { t.far with inbox := rest } })
  | _, _, _ => (none, t)

def close (t : Tunnel) : Tunnel := { t with closed := true }

end Tunnel

end SessionNet
