import SessionNet.Proofs.Session.PartialWrites

/-!
# What writing puts out

Whatever leaves a session was encoded from a packet of its queue: the bytes on its stream are such
encodings one behind the other, up to where writing failed or stopped, and each message on its sink
or in its tunnel and each datagram is one of them.
-/

namespace SessionNet

/-- A packet of which every encoding meets a condition, and every datagram another one. -/
structure Packet.Yields (codec : CodecConfig) (P D : Bytes → Prop) (packet : Packet) : Prop where
  encoded : ∀ nonce bytes, codec.encodePacket nonce packet = .ok bytes → P bytes
  datagram : packet.transport = .udp → ∀ nonce conveyance bytes,
    codec.encodeDatagram nonce conveyance packet.payload packet.encrypted = .ok bytes → D bytes

namespace Supply

variable {s s' : Supply} {packet : Packet} {bytes : Bytes} {result : Except NetError Bytes}

/-- Encoding draws a nonce, and neither changes the codec nor sends anything. -/
theorem encodePacket_eq (encoded : s.encodePacket packet = (result, s')) :
    s.codec.encodePacket (Nonce.ofNat s.nonces) packet = result ∧ s'.codec = s.codec ∧
      s'.port = s.port := by
  cases encoded
  exact ⟨rfl, rfl, rfl⟩

theorem encodeDatagram_eq {conveyance : UInt32}
    (encoded : s.encodeDatagram conveyance packet = (result, s')) :
    s.codec.encodeDatagram (Nonce.ofNat s.nonces) conveyance packet.payload packet.encrypted =
        result ∧
      s'.codec = s.codec ∧ s'.port = s.port := by
  cases encoded
  exact ⟨rfl, rfl, rfl⟩

/-- At most the datagram that is sent is sent. -/
theorem mem_of_send {peer : DatagramPeer} {outcome : DatagramOutcome}
    (sent : s.send peer bytes = (outcome, s')) :
    s'.codec = s.codec ∧ ∀ datagram ∈ s'.port.sent,
      datagram ∈ s.port.sent ∨ datagram = (peer, bytes) := by
  unfold send DatagramPort.send at sent
  dsimp only at sent
  split at sent
  · cases sent
    refine ⟨rfl, ?_⟩
    intro datagram member
    simpa using member
  · cases sent
    exact ⟨rfl, fun datagram member => .inl member⟩

end Supply

namespace Session

/-- Whole messages that left over the sink and the tunnel, or are about to. -/
def messagesOut (s : Session) : List Bytes :=
  let overSink :=
    match s.transport with
    | .webSocket sink => sink.sent
    | _ => []
  overSink ++ s.tunnel?.elim [] fun channel =>
    channel.tunnel.near.outbox ++ channel.tunnel.far.inbox

/-- What some writing put out, and whether it left the stream at the end of what it put there. -/
structure Emits (P D : Bytes → Prop) (s : Session) (supply : Supply) (t : Session)
    (supply' : Supply) (intact : Prop) : Prop where
  codec : supply'.codec = supply.codec
  messages : ∀ bytes ∈ t.messagesOut, bytes ∈ s.messagesOut ∨ P bytes
  datagrams : ∀ sent ∈ supply'.port.sent, sent ∈ supply.port.sent ∨ D sent.2
  stream : ∃ frames : List Bytes, (∀ bytes ∈ frames, P bytes) ∧
    t.wire <+: s.wire ++ s.remainder ++ frames.flatten ∧
    (intact → t.wire ++ t.remainder = s.wire ++ s.remainder ++ frames.flatten)

namespace Emits

variable {P D : Bytes → Prop} {s t u : Session} {supply supply' supply'' : Supply}
variable {intact intact' : Prop}

/-- Nothing was put out, whatever was drawn from the supply. -/
theorem nothing (codec : supply'.codec = supply.codec) (port : supply'.port.sent = supply.port.sent)
    (wire : t.wire = s.wire) (remainder : t.remainder = s.remainder)
    (messages : t.messagesOut = s.messagesOut) : Emits P D s supply t supply' intact := by
  refine ⟨codec, ?_, ?_, [], List.forall_mem_nil _, ?_, ?_⟩
  · intro bytes member
    exact .inl (messages ▸ member)
  · intro sent member
    exact .inl (port ▸ member)
  · rw [wire, List.append_assoc]
    exact List.prefix_append _ _
  · intro _
    simp [wire, remainder]

theorem trans (first : Emits P D s supply t supply' True)
    (second : Emits P D t supply' u supply'' intact) : Emits P D s supply u supply'' intact := by
  rcases first.stream with ⟨frames, here, -, whole⟩
  rcases second.stream with ⟨more, there, before, whole'⟩
  have joined : s.wire ++ s.remainder ++ (frames ++ more).flatten =
      t.wire ++ t.remainder ++ more.flatten := by
    rw [whole trivial, List.flatten_append, List.append_assoc _ frames.flatten]
  refine ⟨second.codec.trans first.codec, ?_, ?_, frames ++ more, ?_, ?_, ?_⟩
  · intro bytes member
    rcases second.messages bytes member with old | new
    · exact first.messages bytes old
    · exact .inr new
  · intro sent member
    rcases second.datagrams sent member with old | new
    · exact first.datagrams sent old
    · exact .inr new
  · intro bytes member
    exact (List.mem_append.mp member).elim (here bytes) (there bytes)
  · rwa [joined]
  · rwa [joined]

theorem mono (emits : Emits P D s supply t supply' intact) (weaker : intact' → intact) :
    Emits P D s supply t supply' intact' := by
  rcases emits.stream with ⟨frames, here, before, whole⟩
  exact ⟨emits.codec, emits.messages, emits.datagrams, frames, here, before,
    fun h => whole (weaker h)⟩

end Emits

variable {P D : Bytes → Prop} {s : Session} {supply : Supply} {packet : Packet}

/-! ## One packet -/

/-- Bytes written to a stream are on the wire up to the rest that is pending, unless that failed. -/
theorem wire_writePacketBytes (clear : s.pending? = none) (packet : Packet) (bytes : Bytes) :
    (s.writePacketBytes packet bytes).1.wire <+: s.wire ++ bytes ∧
      ((∃ all, (s.writePacketBytes packet bytes).2 = .ok all) →
        (s.writePacketBytes packet bytes).1.wire ++ (s.writePacketBytes packet bytes).1.remainder =
          s.wire ++ bytes) ∧
      (s.writePacketBytes packet bytes).1.messagesOut = s.messagesOut := by
  unfold writePacketBytes writeToStream
  cases htransport : s.transport with
  | detached => exact ⟨List.prefix_append _ _, by rintro ⟨all, ⟨⟩⟩, rfl⟩
  | webSocket sink => exact ⟨List.prefix_append _ _, by rintro ⟨all, ⟨⟩⟩, rfl⟩
  | socket stream =>
    rcases offer_prefix stream.script bytes [] 0 with ⟨fresh, left, took, split, kept⟩
    have front : fresh <+: bytes := ⟨left, split⟩
    have taken : (writeAvailable stream.script bytes).taken = fresh := took
    have wire : s.wire = stream.wire := by simp only [Session.wire, htransport]
    have messages : s.messagesOut = s.tunnel?.elim [] fun channel =>
        channel.tunnel.near.outbox ++ channel.tunnel.far.inbox := by
      simp only [messagesOut, htransport, List.nil_append]
    rw [wire, messages]
    dsimp only
    cases hresult : (writeAvailable stream.script bytes).result with
    | error e =>
      refine ⟨?_, by rintro ⟨all, ⟨⟩⟩, rfl⟩
      simpa [Session.wire, taken] using front
    | ok written =>
      have rest := kept written hresult
      rcases written with ⟨count, _ | unwritten⟩
      · simp only [Option.getD_none] at rest
        subst rest
        rw [List.append_nil] at split
        simp [Session.wire, remainder, recordSent, recordWritten, clear, taken, split, messagesOut]
      · simp only [Option.getD_some] at rest
        subst rest
        simp [Session.wire, remainder, recordWritten, taken, front, split, messagesOut]

/-- What is in the boxes of a tunnel after sending was there before or is the message sent. -/
theorem emits_sendTunnel {channel : TunnelChannel} {bytes : Bytes} (present : s.tunnel? = some channel)
    (yields : P bytes) : Emits P D s supply (s.sendTunnel channel bytes).1 supply True := by
  have unchanged : Emits P D s supply s supply True := .nothing rfl rfl rfl rfl rfl
  unfold sendTunnel Tunnel.send
  cases closed : channel.tunnel.closed with
  | true => exact unchanged
  | false =>
    simp only [Tunnel.flush, Bool.false_eq_true, if_false]
    refine ⟨rfl, ?_, fun _ member => .inl member, [], List.forall_mem_nil _, ?_, fun _ => by
      simp [Session.wire, remainder, recordSent, recordWritten]⟩
    · intro other member
      simp only [messagesOut, recordSent, recordWritten, Option.elim_some, List.nil_append,
        List.mem_append, List.mem_singleton] at member
      simp only [messagesOut, present, Option.elim_some, List.mem_append]
      rcases member with overSink | inbox | outbox | rfl
      · exact .inl (.inl overSink)
      · exact .inl (.inr (.inr inbox))
      · exact .inl (.inr (.inl outbox))
      · exact .inr yields
    · simp [Session.wire, recordSent, recordWritten]

/-- Over a tunnel a packet is a message, over a datagram path a datagram, and otherwise nothing. -/
theorem emits_deliverUnordered (yields : packet.Yields supply.codec P D)
    (unordered : packet.transport = .udp) :
    Emits P D s supply (s.deliverUnordered supply packet).session
      (s.deliverUnordered supply packet).supply True := by
  unfold deliverUnordered
  cases tunnel : s.tunnel? with
  | some channel =>
    dsimp only
    rcases hencoded : supply.encodePacket packet with ⟨result, supply'⟩
    rcases Supply.encodePacket_eq hencoded with ⟨encoded, codec, port⟩
    cases result with
    | error e => exact .nothing codec (congrArg DatagramPort.sent port) rfl rfl rfl
    | ok bytes =>
      have sent : Emits P D s supply (s.sendTunnel channel bytes).1 supply True :=
        emits_sendTunnel tunnel (yields.encoded _ bytes encoded)
      refine ⟨codec, sent.messages, ?_, sent.stream⟩
      rw [port]
      exact sent.datagrams
  | none =>
    cases s.datagram? with
    | none => exact .nothing rfl rfl rfl rfl rfl
    | some channel =>
      dsimp only
      rcases hencoded : supply.encodeDatagram channel.conveyance packet with ⟨result, supply'⟩
      rcases Supply.encodeDatagram_eq hencoded with ⟨encoded, codec, port⟩
      cases result with
      | error e => exact .nothing codec (congrArg DatagramPort.sent port) rfl rfl rfl
      | ok bytes =>
        dsimp only
        rcases hsent : supply'.send channel.peer bytes with ⟨outcome, supply''⟩
        rcases Supply.mem_of_send hsent with ⟨codec', members⟩
        have datagrams : ∀ sent ∈ supply''.port.sent, sent ∈ supply.port.sent ∨ D sent.2 := by
          intro sent member
          rcases members sent member with old | rfl
          · exact .inl (port ▸ old)
          · exact .inr (yields.datagram unordered _ _ bytes encoded)
        -- the counters tell a datagram that was sent from one that was lost, the stream does not
        have unchanged : ∀ t : Session, t.wire = s.wire → t.remainder = s.remainder →
            t.messagesOut = s.messagesOut → Emits P D s supply t supply'' True := by
          intro t wire remainder messages
          have nothing : Emits P D s supply t supply True := .nothing rfl rfl wire remainder messages
          exact ⟨codec'.trans codec, nothing.messages, datagrams, nothing.stream⟩
        cases outcome with
        | sent => exact unchanged _ rfl rfl rfl
        | blocked => exact unchanged _ rfl rfl rfl
        | failed detail => exact unchanged _ rfl rfl rfl

theorem emits_deliverPrimary (clear : s.pending? = none) (yields : packet.Yields supply.codec P D) :
    Emits P D s supply (s.deliverPrimary supply packet).session
      (s.deliverPrimary supply packet).supply
      (∃ all, (s.deliverPrimary supply packet).result = .ok all) := by
  unfold deliverPrimary
  rcases hencoded : supply.encodePacket packet with ⟨result, supply'⟩
  rcases Supply.encodePacket_eq hencoded with ⟨encoded, codec, port⟩
  have sent : supply'.port.sent = supply.port.sent := congrArg DatagramPort.sent port
  cases result with
  | error e => exact .nothing codec sent rfl rfl rfl
  | ok bytes =>
    have yielded := yields.encoded _ bytes encoded
    have remainder : s.remainder = [] := by simp [Session.remainder, clear]
    dsimp only
    cases htransport : s.transport with
    | detached => exact .nothing codec sent rfl rfl rfl
    | socket stream =>
      rcases wire_writePacketBytes clear packet bytes with ⟨front, whole, messages⟩
      have frame : s.wire ++ s.remainder ++ [bytes].flatten = s.wire ++ bytes := by simp [remainder]
      refine ⟨codec, ?_, ?_, [bytes], ?_, ?_, ?_⟩
      · intro other member
        exact .inl (messages ▸ member)
      · intro datagram member
        exact .inl (sent ▸ member)
      · simpa using yielded
      · rwa [frame]
      · rwa [frame]
    | webSocket sink =>
      dsimp only
      cases hsent : sink.send bytes with
      | error e => exact .nothing codec sent rfl rfl rfl
      | ok sink' =>
        have grown : sink'.sent = sink.sent ++ [bytes] := by
          unfold Sink.send at hsent
          split at hsent <;> cases hsent
          rfl
        have wire : s.wire = [] := by simp [Session.wire, htransport]
        refine ⟨codec, ?_, ?_, [], List.forall_mem_nil _, ?_, fun _ => ?_⟩
        · intro other member
          simp only [messagesOut, recordSent, recordWritten, grown, List.mem_append,
            List.mem_singleton] at member
          simp only [messagesOut, htransport, List.mem_append]
          rcases member with (old | rfl) | tunnel
          · exact .inl (.inl old)
          · exact .inr yielded
          · exact .inl (.inr tunnel)
        · intro datagram member
          exact .inl (sent ▸ member)
        · simp [Session.wire, recordSent, recordWritten]
        · rw [wire, remainder]
          simp [Session.wire, Session.remainder, recordSent, recordWritten, clear]

theorem emits_deliver (clear : s.pending? = none) (yields : packet.Yields supply.codec P D) :
    Emits P D s supply (s.deliver supply packet).session (s.deliver supply packet).supply
      (∃ all, (s.deliver supply packet).result = .ok all) := by
  unfold deliver
  split
  · rename_i unordered
    rcases deliverUnordered_cases clear supply packet with aside | ⟨served, -⟩
    · rw [aside]
      exact emits_deliverPrimary clear yields
    · have emits := emits_deliverUnordered (s := s) yields unordered
      rcases hdelivered : s.deliverUnordered supply packet with ⟨t, supply', result⟩
      rw [hdelivered] at served emits
      rcases result with e | _ | _
      · exact emits.mono fun _ => trivial
      · exact absurd rfl served
      · exact emits.mono fun _ => trivial
  · exact emits_deliverPrimary clear yields

/-! ## A pass -/

theorem emits_writeQueued (budget : Nat) :
    ∀ {s : Session} {supply : Supply}, s.pending? = none →
      (∀ packet ∈ s.queue.packets, packet.Yields supply.codec P D) →
      Emits P D s supply (s.writeQueued budget supply).session (s.writeQueued budget supply).supply
        (∃ pass, (s.writeQueued budget supply).result = .ok pass) := by
  induction budget with
  | zero =>
    intro s supply _ _
    exact .nothing rfl rfl rfl rfl rfl
  | succ budget ih =>
    intro s supply clear yields
    unfold writeQueued
    cases htaken : s.queue.take with
    | none => exact .nothing rfl rfl rfl rfl rfl
    | some taken =>
      rcases taken with ⟨packet, queue⟩
      have packets := (PacketQueue.take_eq_some.mp htaken).1
      have here : ({ packet with recipients? := none } : Packet).Yields supply.codec P D :=
        ⟨(yields packet (by simp [packets])).encoded, (yields packet (by simp [packets])).datagram⟩
      have wrote := wrote_deliver (s := { s with queue }) clear supply
        { packet with recipients? := none }
      have emits := emits_deliver (s := { s with queue }) clear here
      dsimp only
      rcases hdelivered : ({ s with queue } : Session).deliver supply
        { packet with recipients? := none } with ⟨t, supply', result⟩
      rw [hdelivered] at wrote emits
      -- taking a packet off the queue puts nothing out
      have first : Emits P D s supply t supply' (∃ all, result = .ok all) :=
        ⟨emits.codec, emits.messages, emits.datagrams, emits.stream⟩
      rcases result with e | _ | _
      · exact first.mono (by rintro ⟨pass, ⟨⟩⟩)
      · exact first.mono fun _ => ⟨false, rfl⟩
      · have others : ∀ other ∈ t.queue.packets, other.Yields supply'.codec P D := by
          intro other member
          rw [first.codec]
          rw [wrote.queue] at member
          exact yields other (by simp [packets, member])
        exact (first.mono fun _ => ⟨true, rfl⟩).trans (ih (wrote.finished rfl) others)

/-- Whatever a pass puts out was encoded from a packet that was in the queue. -/
theorem emits_writePass (budget : Nat)
    (yields : ∀ packet ∈ s.queue.packets, packet.Yields supply.codec P D) :
    Emits P D s supply (s.writePass budget supply).session (s.writePass budget supply).supply
      (∃ pass, (s.writePass budget supply).result = .ok pass) := by
  unfold writePass resume
  cases hpending : s.pending? with
  | none => exact emits_writeQueued budget hpending yields
  | some pending =>
    have wrote := wrote_writePacketBytes (s := { s with pending? := none }) rfl pending.packet
      pending.rest
    have written := wire_writePacketBytes (s := { s with pending? := none }) rfl pending.packet
      pending.rest
    have remainder : s.remainder = pending.rest := by simp [Session.remainder, hpending]
    dsimp only
    rcases hwritten : ({ s with pending? := none } : Session).writePacketBytes pending.packet
      pending.rest with ⟨t, result⟩
    rw [hwritten] at wrote written
    rcases written with ⟨front, whole, messages⟩
    -- the rest of the packet was accounted for when it became pending
    have first : Emits P D s supply t supply (∃ all, result = .ok all) := by
      refine ⟨rfl, ?_, fun _ member => .inl member, [], List.forall_mem_nil _, ?_, ?_⟩
      · intro bytes member
        exact .inl (messages ▸ member)
      · rw [remainder, List.flatten_nil, List.append_nil]
        exact front
      · rw [remainder, List.flatten_nil, List.append_nil]
        exact whole
    rcases result with e | _ | _
    · exact first.mono (by rintro ⟨pass, ⟨⟩⟩)
    · exact first.mono fun _ => ⟨false, rfl⟩
    · have others : ∀ packet ∈ t.queue.packets, packet.Yields supply.codec P D := by
        rw [wrote.queue]
        exact yields
      exact (first.mono fun _ => ⟨true, rfl⟩).trans
        (emits_writeQueued budget (wrote.finished rfl) others)

end Session

end SessionNet
