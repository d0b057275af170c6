import SessionNet.Proofs.Session.Intake
import SessionNet.Session.WritePass

/-!
# What writing leaves alone

A write pass changes the queue, the pending write, the transports and the counters of a session. Its
standing and its slot stay, and so does all that comes in on it, however the pass ends. No transport
is shut by it, and a session with nothing to write stays as it is.
-/

namespace SessionNet

/-- Whether a transport was shut down or closed, if there is one. -/
def Transport.shut? : Transport → Option Bool
  | .detached => none
  | .socket stream => some stream.shut
  | .webSocket sink => some sink.closed

/-- What a sink takes does not close it. -/
theorem Sink.closed_of_send {sink sink' : Sink} {bytes : Bytes} (sent : sink.send bytes = .ok sink') :
    sink'.closed = sink.closed := by
  unfold send at sent
  split at sent
  · cases sent
  · cases sent
    rfl

namespace Session

/-- Whether the tunnel of a session was closed, if there is one. -/
def tunnelShut? (s : Session) : Option Bool := s.tunnel?.map (·.tunnel.closed)

/-- What is left of a session by some writing: its standing, what comes in on it, whether its primary
transport is shut, its slot and its address. -/
structure Served (s t : Session) : Prop where
  standing : t.standing = s.standing
  intake : t.intake = s.intake
  shut : t.transport.shut? = s.transport.shut?
  holdsSlot : t.holdsSlot = s.holdsSlot
  remote : t.remote? = s.remote?

namespace Served

variable {s t u : Session}

theorem refl (s : Session) : s.Served s := ⟨rfl, rfl, rfl, rfl, rfl⟩

theorem trans (first : s.Served t) (second : t.Served u) : s.Served u where
  standing := second.standing.trans first.standing
  intake := second.intake.trans first.intake
  shut := second.shut.trans first.shut
  holdsSlot := second.holdsSlot.trans first.holdsSlot
  remote := second.remote.trans first.remote

/-- What comes in on a session tells whether its tunnel was closed. -/
theorem tunnelShut (served : s.Served t) : t.tunnelShut? = s.tunnelShut? := by
  have closed : ∀ u : Session, u.tunnelShut? = u.intake.inlet?.map (·.closed) := by
    intro u
    simp [tunnelShut?, Session.intake, Option.map_map, Function.comp_def, TunnelChannel.inlet]
  rw [closed, closed, served.intake]

end Served

theorem served_writeToStream (s : Session) (bytes : Bytes) : s.Served (s.writeToStream bytes).1 := by
  unfold writeToStream
  split
  · rename_i stream own
    have shut : s.transport.shut? = some stream.shut := by rw [own, Transport.shut?]
    dsimp only
    split <;> exact ⟨rfl, rfl, shut.symm, rfl, rfl⟩
  · exact .refl s

theorem served_writePacketBytes (s : Session) (packet : Packet) (bytes : Bytes) :
    s.Served (s.writePacketBytes packet bytes).1 := by
  have written := served_writeToStream s bytes
  unfold writePacketBytes
  split <;> rename_i t _ heq <;> rw [heq] at written <;>
    exact written.trans ⟨rfl, rfl, rfl, rfl, rfl⟩

theorem served_resume (s : Session) : s.Served s.resume.1 := by
  unfold resume
  split
  · exact .refl s
  · rename_i pending _
    have taken : s.Served { s with pending? := none } := ⟨rfl, rfl, rfl, rfl, rfl⟩
    exact taken.trans (served_writePacketBytes _ pending.packet pending.rest)

/-- What is sent through a tunnel goes to the far end, and nothing comes in by that. -/
theorem inlet_of_send (id : UInt32) {tunnel tunnel' : Tunnel} {bytes : Bytes}
    (sent : tunnel.send .near bytes = .ok tunnel') :
    TunnelChannel.inlet ⟨id, tunnel'⟩ = TunnelChannel.inlet ⟨id, tunnel⟩ := by
  unfold Tunnel.send at sent
  split at sent
  · cases sent
  · cases sent
    rfl

theorem inlet_of_flush (id : UInt32) {tunnel tunnel' : Tunnel}
    (flushed : tunnel.flush .near = .ok tunnel') :
    TunnelChannel.inlet ⟨id, tunnel'⟩ = TunnelChannel.inlet ⟨id, tunnel⟩ := by
  unfold Tunnel.flush at flushed
  split at flushed
  · cases flushed
  · cases flushed
    rfl

theorem served_sendTunnel {s : Session} {channel : TunnelChannel} (own : s.tunnel? = some channel)
    (bytes : Bytes) : s.Served (s.sendTunnel channel bytes).1 := by
  have replaced : ∀ tunnel : Tunnel, TunnelChannel.inlet { channel with tunnel } = channel.inlet →
      s.Served { s with tunnel? := some { channel with tunnel } } := by
    intro tunnel same
    refine ⟨rfl, ?_, rfl, rfl, rfl⟩
    simp [intake, own, same]
  unfold sendTunnel
  split
  · exact .refl s
  · rename_i sent hsend
    have unchanged := inlet_of_send channel.id hsend
    split
    · exact replaced sent unchanged
    · rename_i flushed hflush
      have still := inlet_of_flush channel.id hflush
      exact (replaced flushed (still.trans unchanged)).trans ⟨rfl, rfl, rfl, rfl, rfl⟩

theorem served_deliverUnordered (s : Session) (supply : Supply) (packet : Packet) :
    s.Served (s.deliverUnordered supply packet).session := by
  unfold deliverUnordered
  split
  · rename_i channel _ own
    split
    · exact .refl s
    · exact served_sendTunnel own _
  · split
    · exact .refl s
    · split <;> exact ⟨rfl, rfl, rfl, rfl, rfl⟩
  · exact .refl s

theorem served_deliverPrimary (s : Session) (supply : Supply) (packet : Packet) :
    s.Served (s.deliverPrimary supply packet).session := by
  unfold deliverPrimary
  split
  · exact .refl s
  · split
    · exact served_writePacketBytes s packet _
    · rename_i sink own
      split
      · exact .refl s
      · rename_i sink' hsend
        have shut : s.transport.shut? = some sink'.closed := by
          rw [own, Transport.shut?, Sink.closed_of_send hsend]
        exact ⟨rfl, rfl, shut.symm, rfl, rfl⟩
    · exact .refl s

theorem served_deliver (s : Session) (supply : Supply) (packet : Packet) :
    s.Served (s.deliver supply packet).session := by
  unfold deliver
  split
  · have aside := served_deliverUnordered s supply packet
    split
    · -- without a tunnel or a datagram path the primary transport has to do
      rename_i t _ heq
      rw [heq] at aside
      exact aside.trans (served_deliverPrimary t _ packet)
    · exact aside
  · exact served_deliverPrimary s supply packet

theorem served_writeQueued (budget : Nat) :
    ∀ (s : Session) (supply : Supply), s.Served (s.writeQueued budget supply).session := by
  -- for every session, because each packet leaves another one for the rest of the budget
  induction budget with
  | zero =>
    intro s supply
    exact .refl s
  | succ budget ih =>
    intro s supply
    unfold writeQueued
    split
    · exact .refl s
    · rename_i packet queue _
      have taken : s.Served { s with queue } := ⟨rfl, rfl, rfl, rfl, rfl⟩
      have delivered := taken.trans (served_deliver { s with queue } supply
        { packet with recipients? := none })
      split <;> rename_i t _ heq <;> rw [heq] at delivered
      · exact delivered.trans (ih t _)
      · exact delivered
      · exact delivered

theorem served_writePass (s : Session) (budget : Nat) (supply : Supply) :
    s.Served (s.writePass budget supply).session := by
  have resumed := served_resume s
  unfold writePass
  split <;> rename_i t heq <;> rw [heq] at resumed
  · exact resumed.trans (served_writeQueued budget t supply)
  · exact resumed
  · exact resumed

/-- A pass over a session with nothing to write changes nothing. -/
theorem writePass_of_empty {s : Session} (queue : s.queue.packets = []) (pending : s.pending? = none)
    (budget : Nat) (supply : Supply) : s.writePass budget supply = ⟨s, supply, .ok .drained⟩ := by
  have resumed : s.resume = (s, .ok true) := by simp [resume, pending]
  simp only [writePass, resumed]
  cases budget with
  | zero => simp [writeQueued, PacketQueue.isEmpty, queue]
  | succ budget => simp [writeQueued, PacketQueue.take, queue]

end Session

end SessionNet
