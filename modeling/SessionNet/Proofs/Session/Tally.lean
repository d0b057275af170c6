import SessionNet.Proofs.Session.Passes

/-!
# Which packets are accounted for

A packet that a session took on is queued, written in part, or counted as written or as dropped.
Their number (`tally`) grows by one with every packet that is handed over. A pass moves packets
from the queue into a counter, through the pending slot perhaps. When a pass fails, the packet it was
about has left the queue and the slot, and reaches neither counter.
-/

namespace SessionNet

/-- How many packets writing with this result loses: the one it was about, if it failed. -/
def lost {α : Type} : Except NetError α → Nat
  | .ok _ => 0
  | .error _ => 1

@[simp] theorem lost_ok {α : Type} (a : α) : lost (.ok a : Except NetError α) = 0 := rfl

@[simp] theorem lost_error {α : Type} (e : NetError) : lost (.error e : Except NetError α) = 1 := rfl

@[simp] theorem lost_map {α β : Type} (f : α → β) (result : Except NetError α) :
    lost (result.map f) = lost result := by
  cases result <;> rfl

namespace Session

/-- The packets that are counted, as written or as dropped, or still to be written. -/
def tally (s : Session) : Nat :=
  s.counters.packetsWritten + s.counters.packetsDropped + s.unsent

variable {s t : Session}

theorem tally_eq (s : Session) : s.tally = s.counters.packetsWritten + s.counters.packetsDropped +
    s.queue.packets.length + s.pending?.toList.length := (Nat.add_assoc ..).symm

@[simp] theorem tally_recordWritten (s : Session) (count : Nat) :
    (s.recordWritten count).tally = s.tally := rfl

@[simp] theorem tally_recordSent (s : Session) : s.recordSent.tally = s.tally + 1 := by
  simp only [tally_eq, recordSent]
  omega

@[simp] theorem tally_recordDropped (s : Session) : s.recordDropped.tally = s.tally + 1 := by
  simp only [tally_eq, recordDropped]
  omega

/-! ### One packet -/

/-- A packet that is neither queued nor pending is written, and counted unless that fails. -/
theorem tally_writePacketBytes (clear : s.pending? = none) (packet : Packet) (bytes : Bytes) :
    (s.writePacketBytes packet bytes).1.tally + lost (s.writePacketBytes packet bytes).2 =
      s.tally + 1 := by
  unfold writePacketBytes writeToStream
  cases s.transport with
  | detached => rfl
  | webSocket sink => rfl
  | socket stream =>
    dsimp only
    cases (writeAvailable stream.script bytes).result with
    | error e => rfl
    | ok written =>
      rcases written with ⟨count, _ | rest⟩
      · exact tally_recordSent _
      · -- the packet is in the slot that was empty
        simp [tally_eq, clear, recordWritten]

theorem tally_sendTunnel (s : Session) (channel : TunnelChannel) (bytes : Bytes) :
    (s.sendTunnel channel bytes).1.tally + lost (s.sendTunnel channel bytes).2 = s.tally + 1 := by
  unfold sendTunnel
  cases channel.tunnel.send .near bytes with
  | error e => rfl
  | ok tunnel =>
    dsimp only
    cases tunnel.flush .near with
    | error e => rfl
    | ok flushed => exact tally_recordSent _

/-- Over a tunnel or a datagram path the packet is sent, dropped or lost; without either it is left
for the primary transport. -/
theorem tally_deliverUnordered (supply : Supply) (packet : Packet) :
    s.deliverUnordered supply packet = ⟨s, supply, .ok false⟩ ∨
      (s.deliverUnordered supply packet).result ≠ .ok false ∧
      (s.deliverUnordered supply packet).session.tally +
        lost (s.deliverUnordered supply packet).result = s.tally + 1 := by
  unfold deliverUnordered
  cases s.tunnel? with
  | some channel =>
    refine .inr ?_
    dsimp only
    rcases supply.encodePacket packet with ⟨e | bytes, supply'⟩
    · exact ⟨nofun, rfl⟩
    · refine ⟨?_, (lost_map _ _).symm ▸ tally_sendTunnel s channel bytes⟩
      cases hsent : (s.sendTunnel channel bytes).2 <;> simp [hsent, Except.map]
  | none =>
    cases s.datagram? with
    | none => exact .inl rfl
    | some channel =>
      refine .inr ?_
      dsimp only
      rcases supply.encodeDatagram channel.conveyance packet with ⟨e | bytes, supply'⟩
      · exact ⟨nofun, rfl⟩
      · dsimp only
        rcases supply'.send channel.peer bytes with ⟨_ | _ | detail, supply''⟩
        · exact ⟨nofun, tally_recordSent _⟩
        · exact ⟨nofun, tally_recordDropped s⟩
        · exact ⟨nofun, rfl⟩

theorem tally_deliverPrimary (clear : s.pending? = none) (supply : Supply) (packet : Packet) :
    (s.deliverPrimary supply packet).session.tally +
      lost (s.deliverPrimary supply packet).result = s.tally + 1 := by
  unfold deliverPrimary
  rcases supply.encodePacket packet with ⟨e | bytes, supply'⟩
  · rfl
  · dsimp only
    split
    · exact tally_writePacketBytes clear packet bytes
    · rename_i sink _
      rcases sink.send bytes with e | sink
      · rfl
      · exact tally_recordSent _
    · rfl

theorem tally_deliver (clear : s.pending? = none) (supply : Supply) (packet : Packet) :
    (s.deliver supply packet).session.tally + lost (s.deliver supply packet).result =
      s.tally + 1 := by
  unfold deliver
  split
  · rcases tally_deliverUnordered (s := s) supply packet with aside | ⟨served, counted⟩
    · rw [aside]
      exact tally_deliverPrimary clear supply packet
    · rcases hdelivered : s.deliverUnordered supply packet with ⟨t, supply', result⟩
      rw [hdelivered] at served counted
      rcases result with e | _ | _
      · exact counted
      · exact absurd rfl served
      · exact counted
  · exact tally_deliverPrimary clear supply packet

/-! ### A pass -/

theorem tally_of_take {packet : Packet} {queue : PacketQueue}
    (taken : s.queue.take = some (packet, queue)) : ({ s with queue } : Session).tally + 1 = s.tally := by
  simp only [tally_eq, (PacketQueue.take_eq_some.mp taken).1, List.length_cons]
  omega

theorem tally_writeQueued (budget : Nat) :
    ∀ (s : Session) (supply : Supply), s.pending? = none →
      (s.writeQueued budget supply).session.tally + lost (s.writeQueued budget supply).result =
        s.tally := by
  -- for every session, because each packet leaves another one for the rest of the budget
  induction budget with
  | zero => exact fun _ _ _ => rfl
  | succ budget ih =>
    intro s supply clear
    unfold writeQueued
    cases htaken : s.queue.take with
    | none => rfl
    | some taken =>
      rcases taken with ⟨packet, queue⟩
      have left := tally_of_take htaken
      have counted := tally_deliver (s := { s with queue }) clear supply
        { packet with recipients? := none }
      have wrote := wrote_deliver (s := { s with queue }) clear supply
        { packet with recipients? := none }
      dsimp only
      rcases hdelivered : ({ s with queue } : Session).deliver supply
        { packet with recipients? := none } with ⟨t, supply', result⟩
      rw [hdelivered] at counted wrote
      rcases result with e | _ | _
      · exact counted.trans left
      · exact counted.trans left
      · exact (ih t supply' (wrote.finished rfl)).trans (counted.trans left)

/-- A pass accounts for every packet, except the one it fails with. -/
theorem tally_writePass (s : Session) (budget : Nat) (supply : Supply) :
    (s.writePass budget supply).session.tally + lost (s.writePass budget supply).result =
      s.tally := by
  unfold writePass resume
  cases hpending : s.pending? with
  | none => exact tally_writeQueued budget s supply hpending
  | some pending =>
    have left : ({ s with pending? := none } : Session).tally + 1 = s.tally := by
      simp [tally_eq, hpending]
    have counted := tally_writePacketBytes (s := { s with pending? := none }) rfl pending.packet
      pending.rest
    have wrote := wrote_writePacketBytes (s := { s with pending? := none }) rfl pending.packet
      pending.rest
    dsimp only
    rcases hwritten : ({ s with pending? := none } : Session).writePacketBytes pending.packet
      pending.rest with ⟨t, e | _ | _⟩ <;> rw [hwritten] at counted wrote
    · exact counted.trans left
    · exact counted.trans left
    · exact (tally_writeQueued budget t supply (wrote.finished rfl)).trans (counted.trans left)

/-! ### Handing over and closing -/

/-- A packet whose id is not queued is one more, whether it is admitted or refused. -/
theorem tally_enqueue {packet : Packet} (active : s.isActive = true)
    (fresh : ∀ other ∈ s.queue.packets, other.id ≠ packet.id) :
    (s.enqueue packet).1.tally = s.tally + 1 := by
  unfold enqueue
  rw [active]
  cases hput : s.queue.put packet with
  | error fault => exact tally_recordDropped s
  | ok queue =>
    obtain ⟨-, -, rfl⟩ := PacketQueue.put_eq_ok.mp hput
    have one := (PacketQueue.insertSorted_perm_of_fresh fresh).length_eq
    rw [List.length_cons] at one
    simp only [Bool.not_true, Bool.false_eq_true, if_false, tally_eq, one]
    omega

theorem enqueue_of_inactive (packet : Packet) (inactive : s.isActive = false) :
    (s.enqueue packet).1 = s := by
  simp [enqueue, inactive]

/-- Closing counts what was not sent as dropped. -/
theorem tally_tearDown (s : Session) (reason : CloseReason) : (s.tearDown reason).tally = s.tally := by
  simp [tally, unsent, tearDown, PacketQueue.clear, PacketQueue.length, Nat.add_assoc]

end Session

end SessionNet
