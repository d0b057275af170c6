import SessionNet.Proofs.PacketQueue
import SessionNet.Session.WritePass

/-!
# How a write pass ends

A pass takes packets off the front of the queue, no more than its budget, and leaves the marks for
the writer and the reader alone. Its result says what is left: a drained pass leaves nothing to
write, one that yielded leaves packets but no rest of any, and one that was blocked leaves the rest
of a packet.
-/

namespace SessionNet

/-- What is left of a session by a pass that ended so. -/
def WritePass.Leaves (s : Session) : WritePass → Prop
  | .drained => s.queue.packets = [] ∧ s.pending? = none
  | .yielded => s.queue.packets ≠ [] ∧ s.pending? = none
  | .blocked => s.pending?.isSome = true

namespace Session

/-! ## One packet -/

/-- A packet, or the rest of one, was written from a session with nothing pending. -/
structure Wrote (s t : Session) (result : Except NetError Bool) : Prop where
  queue : t.queue = s.queue
  scheduled : t.writeScheduled = s.writeScheduled
  awaits : t.awaitsWritable = s.awaitsWritable
  packets : t.counters.packetsWritten ≤ s.counters.packetsWritten + 1
  finished : result = .ok true → t.pending? = none
  blocked : result = .ok false → t.pending?.isSome = true

namespace Wrote

variable {s t : Session} {error : NetError}

/-- Nothing was written, and the failure is reported. -/
theorem failed (s : Session) (error : NetError) : s.Wrote s (.error error) :=
  ⟨rfl, rfl, rfl, Nat.le_succ _, nofun, nofun⟩

/-- All of a packet went out at once. -/
theorem sent (queue : t.queue = s.queue) (scheduled : t.writeScheduled = s.writeScheduled)
    (awaits : t.awaitsWritable = s.awaitsWritable)
    (packets : t.counters.packetsWritten ≤ s.counters.packetsWritten + 1)
    (clear : t.pending? = none) : s.Wrote t (.ok true) :=
  ⟨queue, scheduled, awaits, packets, fun _ => clear, nofun⟩

end Wrote

variable {s : Session}

theorem wrote_writePacketBytes (clear : s.pending? = none) (packet : Packet) (bytes : Bytes) :
    s.Wrote (s.writePacketBytes packet bytes).1 (s.writePacketBytes packet bytes).2 := by
  unfold writePacketBytes writeToStream
  cases htransport : s.transport with
  | detached => exact .failed s _
  | webSocket sink => exact .failed s _
  | socket stream =>
    dsimp only
    -- the stream takes everything, keeps a rest back, or fails
    cases hresult : (writeAvailable stream.script bytes).result with
    | error e => exact ⟨rfl, rfl, rfl, Nat.le_succ _, nofun, nofun⟩
    | ok written =>
      rcases written with ⟨count, _ | rest⟩
      · exact .sent rfl rfl rfl (Nat.le_refl _) clear
      · exact ⟨rfl, rfl, rfl, Nat.le_succ _, nofun, fun _ => rfl⟩

theorem wrote_sendTunnel (clear : s.pending? = none) (channel : TunnelChannel) (bytes : Bytes) :
    s.Wrote (s.sendTunnel channel bytes).1 ((s.sendTunnel channel bytes).2.map fun _ => true) := by
  unfold sendTunnel
  cases channel.tunnel.send .near bytes with
  | error e => exact .failed s e
  | ok tunnel =>
    dsimp only
    cases tunnel.flush .near with
    | error e => exact ⟨rfl, rfl, rfl, Nat.le_succ _, nofun, nofun⟩
    | ok flushed => exact .sent rfl rfl rfl (Nat.le_refl _) clear

/-- A session with neither a tunnel nor a datagram path is left for its primary transport. -/
theorem deliverUnordered_cases (clear : s.pending? = none) (supply : Supply) (packet : Packet) :
    s.deliverUnordered supply packet = ⟨s, supply, .ok false⟩ ∨
      (s.deliverUnordered supply packet).result ≠ .ok false ∧
        s.Wrote (s.deliverUnordered supply packet).session
          (s.deliverUnordered supply packet).result := by
  unfold deliverUnordered
  cases s.tunnel? with
  | some channel =>
    refine .inr ?_
    dsimp only
    rcases supply.encodePacket packet with ⟨e | bytes, supply'⟩
    · exact ⟨nofun, .failed s e⟩
    · refine ⟨?_, wrote_sendTunnel clear channel bytes⟩
      cases hsent : (s.sendTunnel channel bytes).2 <;> simp [hsent, Except.map]
  | none =>
    cases s.datagram? with
    | none => exact .inl rfl
    | some channel =>
      refine .inr ?_
      dsimp only
      rcases supply.encodeDatagram channel.conveyance packet with ⟨e | bytes, supply'⟩
      · exact ⟨nofun, .failed s e⟩
      · dsimp only
        -- a datagram that is lost is no failure
        rcases supply'.send channel.peer bytes with ⟨_ | _ | detail, supply''⟩
        · exact ⟨nofun, .sent rfl rfl rfl (Nat.le_refl _) clear⟩
        · exact ⟨nofun, .sent rfl rfl rfl (Nat.le_succ _) clear⟩
        · exact ⟨nofun, .failed s _⟩

theorem wrote_deliverPrimary (clear : s.pending? = none) (supply : Supply) (packet : Packet) :
    s.Wrote (s.deliverPrimary supply packet).session (s.deliverPrimary supply packet).result := by
  unfold deliverPrimary
  rcases supply.encodePacket packet with ⟨e | bytes, supply'⟩
  · exact .failed s e
  · dsimp only
    split
    · exact wrote_writePacketBytes clear packet bytes
    · rename_i sink _
      rcases sink.send bytes with e | sink
      · exact .failed s e
      · exact .sent rfl rfl rfl (Nat.le_refl _) clear
    · exact .failed s _

theorem wrote_deliver (clear : s.pending? = none) (supply : Supply) (packet : Packet) :
    s.Wrote (s.deliver supply packet).session (s.deliver supply packet).result := by
  unfold deliver
  split
  · rcases deliverUnordered_cases clear supply packet with aside | ⟨served, wrote⟩
    · rw [aside]
      exact wrote_deliverPrimary clear supply packet
    · rcases hdelivered : s.deliverUnordered supply packet with ⟨t, supply', result⟩
      rw [hdelivered] at served wrote
      rcases result with e | _ | _
      · exact wrote
      · exact absurd rfl served
      · exact wrote
  · exact wrote_deliverPrimary clear supply packet

/-! ## A pass -/

/-- A pass finished what was pending, took some packets, at most so many, and ended with a result. -/
structure Passed (budget : Nat) (s t : Session) (result : Except NetError WritePass) : Prop where
  scheduled : t.writeScheduled = s.writeScheduled
  awaits : t.awaitsWritable = s.awaitsWritable
  taken : ∃ count ≤ budget, t.queue.packets = s.queue.packets.drop count ∧
    t.counters.packetsWritten ≤ s.counters.packetsWritten + s.pending?.toList.length + count
  leaves : ∀ pass, result = .ok pass → pass.Leaves t

namespace Passed

variable {s t u : Session} {budget : Nat} {result : Except NetError WritePass}
variable {packet : Packet} {queue : PacketQueue} {written : Except NetError Bool}

/-- A pass that ended with its first packet. -/
theorem of_wrote (taken : s.queue.take = some (packet, queue))
    (wrote : ({ s with queue } : Session).Wrote t written)
    (leaves : ∀ pass, result = .ok pass → pass.Leaves t) : Passed (budget + 1) s t result := by
  have one : t.counters.packetsWritten ≤ s.counters.packetsWritten + 1 := wrote.packets
  refine ⟨wrote.scheduled, wrote.awaits, ⟨1, Nat.le_add_left 1 budget, ?_, by omega⟩, leaves⟩
  rw [wrote.queue, (PacketQueue.take_eq_some.mp taken).1]
  rfl

/-- One packet and the rest of the pass after it. -/
theorem cons (taken : s.queue.take = some (packet, queue))
    (wrote : ({ s with queue } : Session).Wrote t written) (clear : t.pending? = none)
    (rest : Passed budget t u result) : Passed (budget + 1) s u result := by
  rcases rest.taken with ⟨count, bounded, packets, counted⟩
  have one : t.counters.packetsWritten ≤ s.counters.packetsWritten + 1 := wrote.packets
  simp only [clear, Option.toList_none, List.length_nil] at counted
  refine ⟨rest.scheduled.trans wrote.scheduled, rest.awaits.trans wrote.awaits,
    ⟨count + 1, by omega, ?_, by omega⟩, rest.leaves⟩
  rw [packets, wrote.queue, (PacketQueue.take_eq_some.mp taken).1]
  rfl

/-- The rest of a pending packet and the pass after it. -/
theorem resumed {pending : PendingWrite} (present : s.pending? = some pending)
    (wrote : ({ s with pending? := none } : Session).Wrote t written) (clear : t.pending? = none)
    (rest : Passed budget t u result) : Passed budget s u result := by
  rcases rest.taken with ⟨count, bounded, packets, counted⟩
  have one : t.counters.packetsWritten ≤ s.counters.packetsWritten + 1 := wrote.packets
  simp only [clear, Option.toList_none, List.length_nil] at counted
  refine ⟨rest.scheduled.trans wrote.scheduled, rest.awaits.trans wrote.awaits,
    ⟨count, bounded, by rw [packets, wrote.queue], ?_⟩, rest.leaves⟩
  simp only [present, Option.toList_some, List.length_singleton]
  omega

/-- A pass that ended with the rest of a pending packet. -/
theorem of_resumed {pending : PendingWrite} (present : s.pending? = some pending)
    (wrote : ({ s with pending? := none } : Session).Wrote t written)
    (leaves : ∀ pass, result = .ok pass → pass.Leaves t) : Passed budget s t result := by
  have one : t.counters.packetsWritten ≤ s.counters.packetsWritten + 1 := wrote.packets
  refine ⟨wrote.scheduled, wrote.awaits, ⟨0, Nat.zero_le _, by rw [wrote.queue]; rfl, ?_⟩,
    leaves⟩
  simpa only [present, Option.toList_some, List.length_singleton] using one

end Passed

theorem passed_writeQueued (budget : Nat) :
    ∀ (s : Session) (supply : Supply), s.pending? = none →
      Passed budget s (s.writeQueued budget supply).session
        (s.writeQueued budget supply).result := by
  -- for every session, because each packet leaves another one for the rest of the budget
  induction budget with
  | zero =>
    intro s supply clear
    refine ⟨rfl, rfl, ⟨0, Nat.le_refl 0, rfl, by simp [clear, writeQueued]⟩, ?_⟩
    rintro pass ⟨⟩
    cases hqueue : s.queue.packets with
    | nil => simp [PacketQueue.isEmpty, hqueue, WritePass.Leaves, writeQueued, clear]
    | cons packet rest => simp [PacketQueue.isEmpty, hqueue, WritePass.Leaves, writeQueued, clear]
  | succ budget ih =>
    intro s supply clear
    unfold writeQueued
    cases htaken : s.queue.take with
    | none =>
      refine ⟨rfl, rfl, ⟨0, Nat.zero_le _, rfl, by simp [clear]⟩, ?_⟩
      rintro pass ⟨⟩
      exact ⟨PacketQueue.take_eq_none.mp htaken, clear⟩
    | some taken =>
      rcases taken with ⟨packet, queue⟩
      have wrote := wrote_deliver (s := { s with queue }) clear supply
        { packet with recipients? := none }
      dsimp only
      rcases hdelivered : ({ s with queue } : Session).deliver supply
        { packet with recipients? := none } with ⟨t, supply', result⟩
      rw [hdelivered] at wrote
      -- the pass goes on only if all of the packet was taken
      rcases result with e | _ | _
      · exact .of_wrote htaken wrote nofun
      · refine .of_wrote htaken wrote ?_
        rintro pass ⟨⟩
        exact wrote.blocked rfl
      · exact .cons htaken wrote (wrote.finished rfl) (ih t supply' (wrote.finished rfl))

/-- The rest of a packet comes first; only if all of it is taken are packets taken off the queue. -/
theorem passed_writePass (s : Session) (budget : Nat) (supply : Supply) :
    Passed budget s (s.writePass budget supply).session (s.writePass budget supply).result := by
  unfold writePass resume
  cases hpending : s.pending? with
  | none => exact passed_writeQueued budget s supply hpending
  | some pending =>
    have wrote := wrote_writePacketBytes (s := { s with pending? := none }) rfl pending.packet
      pending.rest
    dsimp only
    rcases hwritten : ({ s with pending? := none } : Session).writePacketBytes pending.packet
      pending.rest with ⟨t, e | _ | _⟩ <;> rw [hwritten] at wrote
    · exact .of_resumed hpending wrote nofun
    · refine .of_resumed hpending wrote ?_
      rintro pass ⟨⟩
      exact wrote.blocked rfl
    · exact .resumed hpending wrote (wrote.finished rfl)
        (passed_writeQueued budget t supply (wrote.finished rfl))

end Session

end SessionNet
