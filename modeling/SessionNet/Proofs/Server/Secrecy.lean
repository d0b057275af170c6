import SessionNet.Proofs.Codec.RoundTrip
import SessionNet.Proofs.Server.Traffic

/-!
# Messages are sent in clear

A packet says whether to encrypt it, and the packets that messages are sent in do not ask for it.
With or without a key, what leaves a session for a message is therefore what the encoder yields
without one; under a key the encoder itself yields something else, whatever the nonce. Packets that
are handed over directly leave as they ask to.
-/

namespace SessionNet

namespace CodecConfig

/-- The codec as it is without a key. -/
def withoutKey (c : CodecConfig) : CodecConfig := { c with encryptor? := none }

/-- Nothing is encrypted unasked, so neither the key nor the nonce makes a difference. -/
theorem sealPayload_unasked (c : CodecConfig) (nonce nonce' : Nonce) (payload : Bytes) :
    c.sealPayload nonce payload false = c.withoutKey.sealPayload nonce' payload true := by
  have pack : c.withoutKey.pack payload = c.pack payload := rfl
  unfold sealPayload
  rw [pack]
  cases c.pack payload <;> rfl

variable {c : CodecConfig} {nonce : Nonce} {m : Message}

/-- Bytes that the encoder yields for a message without a key, and under the key never. -/
structure Plain (c : CodecConfig) (m : Message) (bytes : Bytes) : Prop where
  unencrypted : ∃ header, header.encrypted = false ∧
    ∀ nonce, c.withoutKey.encode nonce m = .ok (header, bytes)
  unlike : c.encryptor?.isSome = true → ∀ nonce header other,
    c.encode nonce m = .ok (header, other) → header.encrypted = true ∧ other ≠ bytes

/-- A datagram that the encoder yields for a message without a key, and under the key never. -/
structure PlainDatagram (c : CodecConfig) (m : Message) (conveyance : UInt32) (bytes : Bytes) :
    Prop where
  unencrypted : ∀ nonce, c.withoutKey.encodeAsDatagram nonce conveyance m = .ok bytes
  unlike : c.encryptor?.isSome = true → ∀ nonce other,
    c.encodeAsDatagram nonce conveyance m = .ok other → other ≠ bytes

theorem plain_of_encodePacket {packet : Packet} {bytes : Bytes}
    (payload : packet.payload = m.serialize c.format) (unasked : packet.encrypted = false)
    (encoded : c.encodePacket nonce packet = .ok bytes) : c.Plain m bytes := by
  unfold encodePacket encodePayload at encoded
  rw [payload, unasked] at encoded
  cases hseal : c.sealPayload nonce (m.serialize c.format) false with
  | error e => simp [hseal] at encoded
  | ok sealed =>
    simp only [hseal, frame, WireMessage.appendFrames_eq] at encoded
    cases hframes : sealed.frames c.frameLimit with
    | error e => simp [hframes, Except.map] at encoded
    | ok written =>
      have same : written = bytes := by simpa [hframes, Except.map] using encoded
      subst same
      have clear : (sealed.writtenHeader c.frameLimit).encrypted = false := by
        simp [WireMessage.writtenHeader, Header.shaped, header_sealPayload hseal]
      refine ⟨⟨sealed.writtenHeader c.frameLimit, clear, ?_⟩, ?_⟩
      · intro nonce'
        rw [sealPayload_unasked c nonce nonce'] at hseal
        exact encode_eq_ok_iff.mpr ⟨sealed, hseal, hframes, rfl⟩
      · intro key nonce' header other under
        rcases encode_eq_ok_iff.mp under with ⟨sealed', hseal', hframes', rfl⟩
        have marked : (sealed'.writtenHeader c.frameLimit).encrypted = true := by
          simp [WireMessage.writtenHeader, Header.shaped, header_sealPayload hseal', key]
        refine ⟨marked, ?_⟩
        rintro rfl
        -- the first byte tells the two apart
        have heads := (WireMessage.head?_frames hframes').symm.trans (WireMessage.head?_frames hframes)
        have headers := congrArg Header.ofByte (Option.some.inj heads)
        rw [Header.ofByte_toByte, Header.ofByte_toByte] at headers
        rw [Except.ok.inj headers, clear] at marked
        cases marked

/-- The flags of a datagram stand right behind its conveyance id. -/
theorem header_eq_of_toBytes_eq {conveyance : UInt32} {first second : WireMessage}
    (same : Datagram.toBytes ⟨conveyance, first⟩ = Datagram.toBytes ⟨conveyance, second⟩) :
    first.header = second.header := by
  have frames := List.append_cancel_left same
  have bytes : first.header.toByte = second.header.toByte := (List.cons.inj frames).1
  have headers := congrArg Header.ofByte bytes
  rw [Header.ofByte_toByte, Header.ofByte_toByte] at headers
  exact Except.ok.inj headers

theorem encodeDatagram_eq_ok {conveyance : UInt32} {payload bytes : Bytes} {encrypt : Bool}
    (encoded : c.encodeDatagram nonce conveyance payload encrypt = .ok bytes) :
    ∃ sealed, c.sealPayload nonce payload encrypt = .ok sealed ∧
      bytes = Datagram.toBytes ⟨conveyance, sealed⟩ := by
  unfold encodeDatagram at encoded
  split at encoded
  · cases encoded
  · rename_i sealed hseal
    split at encoded <;> cases encoded
    exact ⟨sealed, hseal, rfl⟩

theorem plainDatagram_of_encodeDatagram {conveyance : UInt32} {bytes : Bytes}
    (encoded : c.encodeDatagram nonce conveyance (m.serialize c.format) false = .ok bytes) :
    c.PlainDatagram m conveyance bytes := by
  rcases encodeDatagram_eq_ok encoded with ⟨sealed, hseal, rfl⟩
  refine ⟨?_, ?_⟩
  · intro nonce'
    have same : c.withoutKey.encodeAsDatagram nonce' conveyance m =
        c.encodeDatagram nonce conveyance (m.serialize c.format) false := by
      unfold encodeAsDatagram encodeDatagram
      rw [sealPayload_unasked c nonce nonce']
      rfl
    rw [same, encoded]
  · intro key nonce' other under
    rcases encodeDatagram_eq_ok under with ⟨sealed', hseal', rfl⟩
    intro same
    have headers := header_eq_of_toBytes_eq same
    rw [header_sealPayload hseal', header_sealPayload hseal] at headers
    simp [key] at headers

end CodecConfig

/-! ## What a server puts out -/

/-- What a session has put out and has in its queue meets conditions. -/
structure Session.Accounted (P : Bytes → Prop) (Q : Packet → Prop) (s : Session) : Prop where
  queued : ∀ packet ∈ s.queue.packets, Q packet
  messages : ∀ bytes ∈ s.messagesOut, P bytes
  stream : ∃ frames : List Bytes, (∀ bytes ∈ frames, P bytes) ∧ s.wire <+: frames.flatten ∧
    (s.isActive = true → s.wire ++ s.remainder = frames.flatten)

namespace Session.Accounted

variable {P D : Bytes → Prop} {Q : Packet → Prop} {s t : Session}

/-- Marks, indexes and counters do not count. -/
theorem of_altered (accounted : s.Accounted P Q) (queue : t.queue = s.queue)
    (active : t.isActive = s.isActive) (wire : t.wire = s.wire) (pending : t.pending? = s.pending?)
    (messages : t.messagesOut ⊆ s.messagesOut) : t.Accounted P Q := by
  refine ⟨?_, fun bytes member => accounted.messages bytes (messages member), ?_⟩
  · rw [queue]
    exact accounted.queued
  · simp only [wire, active, Session.remainder, pending]
    exact accounted.stream

/-- Closing a session ends its stream where it is. -/
theorem tearDown (messages : ∀ bytes ∈ s.messagesOut, P bytes)
    (stream : ∃ frames : List Bytes, (∀ bytes ∈ frames, P bytes) ∧ s.wire <+: frames.flatten)
    (reason : CloseReason) : (s.tearDown reason).Accounted P Q := by
  have wire : (s.tearDown reason).wire = s.wire := by
    unfold Session.wire Session.tearDown
    cases s.transport <;> rfl
  have kept : (s.tearDown reason).messagesOut = s.messagesOut := by
    unfold Session.messagesOut Session.tearDown
    cases s.transport <;> cases s.tunnel? <;> rfl
  rcases stream with ⟨frames, each, front⟩
  refine ⟨nofun, ?_, frames, each, ?_, nofun⟩
  · rw [kept]
    exact messages
  · rwa [wire]

/-- What a pass over a session put out meets the condition too, even if it failed in the middle. -/
theorem pass {supply supply' : Supply} {intact : Prop} (accounted : s.Accounted P Q)
    (active : s.isActive = true) (emits : Session.Emits P D s supply t supply' intact) :
    (∀ bytes ∈ t.messagesOut, P bytes) ∧
      ∃ frames : List Bytes, (∀ bytes ∈ frames, P bytes) ∧ t.wire <+: frames.flatten ∧
        (intact → t.wire ++ t.remainder = frames.flatten) := by
  rcases accounted.stream with ⟨frames, each, -, whole⟩
  rcases emits.stream with ⟨more, each', front, whole'⟩
  rw [whole active, ← List.flatten_append] at front whole'
  refine ⟨?_, frames ++ more, ?_, front, whole'⟩
  · intro bytes member
    exact (emits.messages bytes member).elim (accounted.messages bytes) id
  · intro bytes member
    exact (List.mem_append.mp member).elim (each bytes) (each' bytes)

end Session.Accounted

namespace Server

/-- Every session is accounted for, and so is every datagram. -/
structure Accounted (codec : CodecConfig) (P : SessionId → Bytes → Prop) (D : Bytes → Prop)
    (Q : SessionId → Packet → Prop) (srv : Server) : Prop where
  codec : srv.supply.codec = codec
  sessions : srv.Everywhere fun id s => s.Accounted (P id) (Q id)
  datagrams : ∀ sent ∈ srv.supply.port.sent, D sent.2

namespace Accounted

variable {codec : CodecConfig} {P : SessionId → Bytes → Prop} {D : Bytes → Prop}
variable {Q : SessionId → Packet → Prop} {srv srv' : Server} {id : SessionId}

/-- Marks and waits do not count. -/
theorem update (accounted : srv.Accounted codec P D Q) {f : Session → Session}
    (same : ∀ s, (f s).queue = s.queue ∧ (f s).isActive = s.isActive ∧ (f s).wire = s.wire ∧
      (f s).pending? = s.pending? ∧ (f s).messagesOut = s.messagesOut) :
    (srv.update id f).Accounted codec P D Q := by
  refine ⟨accounted.codec, accounted.sessions.update ?_, accounted.datagrams⟩
  intro s _ here
  rcases same s with ⟨queue, active, wire, pending, messages⟩
  exact here.of_altered queue active wire pending (messages ▸ List.Subset.refl _)

theorem alters {f : Session → Session} (accounted : srv.Accounted codec P D Q)
    (alters : AltersOne id f srv srv') : srv'.Accounted codec P D Q := by
  refine ⟨alters.supply ▸ accounted.codec, accounted.sessions.alters alters ?_,
    alters.supply ▸ accounted.datagrams⟩
  intro s altered here
  exact here.of_altered altered.queue altered.active altered.wire altered.pending altered.messages

theorem schedule (accounted : srv.Accounted codec P D Q) (id : SessionId) :
    (srv.schedule id).Accounted codec P D Q := by
  refine ⟨?_, accounted.sessions.schedule ?_, ?_⟩
  · rw [supply_schedule]
    exact accounted.codec
  · intro s here
    exact here.of_altered rfl rfl rfl rfl (List.Subset.refl _)
  · rw [supply_schedule]
    exact accounted.datagrams

theorem close (accounted : srv.Accounted codec P D Q) (id : SessionId) (reason : CloseReason) :
    (srv.close id reason).2.Accounted codec P D Q := by
  refine ⟨?_, accounted.sessions.close ?_, ?_⟩
  · rw [(writing_close srv id reason).2]
    exact accounted.codec
  · intro s here _
    rcases here.stream with ⟨frames, each, front, -⟩
    exact .tearDown here.messages ⟨frames, each, front⟩ reason
  · rw [(writing_close srv id reason).2]
    exact accounted.datagrams

theorem runPass (accounted : srv.Accounted codec P D Q)
    (yields : ∀ id packet, Q id packet → packet.Yields codec (P id) D) (id : SessionId) :
    (srv.runPass id).Accounted codec P D Q := by
  cases hs : srv.session? id with
  | none => simpa only [Server.runPass, hs] using accounted
  | some s =>
    have here : s.Accounted (P id) (Q id) := accounted.sessions id s hs
    cases active : s.isActive with
    | false =>
      rw [runPass_of_closed hs active]
      exact accounted.update fun _ => ⟨rfl, rfl, rfl, rfl, rfl⟩
    | true =>
      have ended := runPass_of_active hs active
      have passed := Session.passed_writePass s srv.writers.budget srv.supply
      have served := Session.served_writePass s srv.writers.budget srv.supply
      have emits : Session.Emits (P id) D s srv.supply
          (s.writePass srv.writers.budget srv.supply).session
          (s.writePass srv.writers.budget srv.supply).supply
          (∃ pass, (s.writePass srv.writers.budget srv.supply).result = .ok pass) := by
        refine Session.emits_writePass srv.writers.budget ?_
        intro packet member
        rw [accounted.codec]
        exact yields id packet (here.queued packet member)
      generalize s.writePass srv.writers.budget srv.supply = pass at ended passed served emits
      rcases here.pass active emits with ⟨messages, frames, each, front, whole⟩
      have codec' : pass.supply.codec = codec := emits.codec.trans accounted.codec
      have datagrams : ∀ sent ∈ pass.supply.port.sent, D sent.2 := by
        intro sent member
        exact (emits.datagrams sent member).elim (accounted.datagrams sent) fun new => new
      have stored := session?_release_self hs pass
      have others : ∀ other, other ≠ id →
          (srv.release id pass).session? other = srv.session? other :=
        fun _ => session?_release_of_ne srv pass
      -- a pass that did not fail left the stream between two frames, or in the pending one
      have released : (∃ ending, pass.result = .ok ending) →
          (srv.release id pass).Accounted codec P D Q := by
        intro intact
        refine ⟨codec', accounted.sessions.replace stored ?_ others, datagrams⟩
        refine ⟨?_, messages, frames, each, front, fun _ => whole intact⟩
        rcases passed.taken with ⟨count, -, packets, -⟩
        intro packet member
        exact here.queued packet (List.mem_of_mem_drop (packets ▸ member))
      generalize pass.result = result at ended released
      generalize srv.runPass id = srv' at ended ⊢
      cases ended with
      | drained => exact released ⟨_, rfl⟩
      | yielded => exact (released ⟨_, rfl⟩).schedule id
      | blocked => exact (released ⟨_, rfl⟩).update fun _ => ⟨rfl, rfl, rfl, rfl, rfl⟩
      | failed e =>
        have still : pass.session.isActive = true :=
          (congrArg Standing.isActive served.standing).trans active
        have writing := writing_close (srv.release id pass) id .writeError
        have torn : ((srv.release id pass).close id .writeError).2.session? id =
            some (({ pass.session with writeScheduled := false } : Session).tearDown .writeError) := by
          rw [session?_close_self, stored]
          simp [still]
        refine ⟨?_, accounted.sessions.replace torn ?_ ?_, ?_⟩
        · rw [writing.2]
          exact codec'
        · exact .tearDown (s := { pass.session with writeScheduled := false }) messages
            ⟨frames, each, front⟩ _
        · intro other differs
          rw [session?_close_of_ne _ differs]
          exact others other differs
        · rw [writing.2]
          exact datagrams

theorem streamWritable (accounted : srv.Accounted codec P D Q)
    (yields : ∀ id packet, Q id packet → packet.Yields codec (P id) D) (id : SessionId) :
    (srv.streamWritable id).Accounted codec P D Q := by
  unfold Server.streamWritable
  split
  · exact accounted
  · split
    · have taken : (srv.update id fun s => { s with awaitsWritable := false }).Accounted codec P D Q :=
        accounted.update fun _ => ⟨rfl, rfl, rfl, rfl, rfl⟩
      dsimp only
      split
      · exact taken
      · refine Accounted.runPass (taken.update ?_) yields id
        intro s
        exact ⟨rfl, rfl, rfl, rfl, rfl⟩
    · exact accounted

theorem carried (accounted : srv.Accounted codec P D Q)
    (yields : ∀ id packet, Q id packet → packet.Yields codec (P id) D) (move : Carried Q srv srv') :
    srv'.Accounted codec P D Q := by
  cases move with
  | aside aside =>
    refine ⟨aside.codec.trans accounted.codec, ?_, ?_⟩
    · intro id s hs
      refine accounted.sessions id s ?_
      simpa only [session?, Roster.session?, aside.sessions] using hs
    · rw [aside.sent]
      exact accounted.datagrams
  | opening fresh sessions writers supply =>
    refine ⟨supply ▸ accounted.codec, accounted.sessions.opening sessions ?_,
      supply ▸ accounted.datagrams⟩
    refine ⟨?_, ?_, [], List.forall_mem_nil _, ?_, fun _ => ?_⟩
    · simp [fresh.queue]
    · simp [fresh.messages]
    · simp [fresh.wire]
    · simp [fresh.wire, Session.remainder, fresh.pending]
  | alter alters => exact accounted.alters alters
  | @hand id packet given =>
    rcases srv.enqueueAndSchedule_cases id packet with
      ⟨f, alters⟩ | ⟨s, queue, hs, members, queued⟩
    · exact accounted.alters alters
    · have here : s.Accounted (P id) (Q id) := accounted.sessions id s hs
      have waiting : (srv.update id fun _ => { s with queue }).Accounted codec P D Q := by
        refine ⟨accounted.codec, accounted.sessions.update ?_, accounted.datagrams⟩
        intro _ _ _
        refine ⟨?_, here.messages, here.stream⟩
        intro other member
        rcases members other member with rfl | old
        · exact given
        · exact here.queued other old
      rw [queued]
      exact waiting.schedule id
  | serve worker =>
    unfold Server.writerStep
    split
    · rename_i id rest _
      have popped : ({ srv with writers := { srv.writers with
          queues := srv.writers.queues.set worker rest } } : Server).Accounted codec P D Q :=
        ⟨accounted.codec, accounted.sessions, accounted.datagrams⟩
      exact popped.runPass yields id
    · exact accounted
  | writable id => exact accounted.streamWritable yields id
  | close id reason => exact accounted.close id reason

end Accounted

end Server

/-! ## Where it comes from -/

/-- The messages that an event sends to a session. -/
def Traffic.messages (id : SessionId) : Traffic → List Message
  | .send target message => if target = id then [message] else []
  | .sendDatagram target message => if target = id then [message] else []
  | _ => []

/-- The packets that are handed over to a session as such. -/
def Traffic.packets (id : SessionId) : Traffic → List Packet
  | .sendPacket target packet => if id ∈ packet.recipients?.getD [target] then [packet] else []
  | .multicast recipients packet => if id ∈ recipients then [packet] else []
  | _ => []

/-- Bytes for a session are a message sent to it in clear, or a packet encoded as it asks for. -/
inductive Stems (codec : CodecConfig) (events : List Traffic) (id : SessionId) (bytes : Bytes) : Prop
  | message (m : Message) (sent : m ∈ events.flatMap (Traffic.messages id))
      (plain : codec.Plain m bytes)
  | packet (packet : Packet) (nonce : Nonce) (given : packet ∈ events.flatMap (Traffic.packets id))
      (encoded : codec.encodePacket nonce packet = .ok bytes)

/-- A datagram for a session is a message sent to it in clear, or a packet encoded as it asks for. -/
inductive StemsDatagram (codec : CodecConfig) (events : List Traffic) (id : SessionId)
    (bytes : Bytes) : Prop
  | message (m : Message) (conveyance : UInt32) (sent : m ∈ events.flatMap (Traffic.messages id))
      (plain : codec.PlainDatagram m conveyance bytes)
  | packet (packet : Packet) (nonce : Nonce) (conveyance : UInt32)
      (given : packet ∈ events.flatMap (Traffic.packets id))
      (encoded : codec.encodeDatagram nonce conveyance packet.payload packet.encrypted = .ok bytes)

/-- Whatever an event hands over yields nothing but what stems from it. -/
theorem Traffic.Hands.yields {codec : CodecConfig} {events : List Traffic} {event : Traffic}
    {id : SessionId} {packet : Packet} (member : event ∈ events)
    (hands : event.Hands codec.format id packet) :
    packet.Yields codec (Stems codec events id) fun bytes =>
      ∃ id, StemsDatagram codec events id bytes := by
  cases event with
  | send target message =>
    rcases hands with ⟨rfl, payload, transport, unasked⟩
    have sent : message ∈ events.flatMap (Traffic.messages target) :=
      List.mem_flatMap.mpr ⟨_, member, by simp [Traffic.messages]⟩
    refine ⟨?_, fun unordered => by simp [transport] at unordered⟩
    intro nonce bytes encoded
    exact .message message sent (CodecConfig.plain_of_encodePacket payload unasked encoded)
  | sendDatagram target message =>
    rcases hands with ⟨rfl, payload, -, unasked⟩
    have sent : message ∈ events.flatMap (Traffic.messages target) :=
      List.mem_flatMap.mpr ⟨_, member, by simp [Traffic.messages]⟩
    refine ⟨?_, ?_⟩
    · intro nonce bytes encoded
      exact .message message sent (CodecConfig.plain_of_encodePacket payload unasked encoded)
    · intro _ nonce conveyance bytes encoded
      rw [payload, unasked] at encoded
      exact ⟨target, .message message conveyance sent
        (CodecConfig.plainDatagram_of_encodeDatagram encoded)⟩
  | sendPacket target given =>
    rcases hands with ⟨recipient, rfl⟩
    have handed : given ∈ events.flatMap (Traffic.packets id) :=
      List.mem_flatMap.mpr ⟨_, member, by simp [Traffic.packets, recipient]⟩
    refine ⟨fun nonce bytes encoded => .packet given nonce handed encoded, ?_⟩
    intro _ nonce conveyance bytes encoded
    exact ⟨id, .packet given nonce conveyance handed encoded⟩
  | multicast recipients given =>
    rcases hands with ⟨recipient, rfl⟩
    have handed : packet ∈ events.flatMap (Traffic.packets id) :=
      List.mem_flatMap.mpr ⟨_, member, by simp [Traffic.packets, recipient]⟩
    refine ⟨fun nonce bytes encoded => .packet packet nonce handed encoded, ?_⟩
    intro _ nonce conveyance bytes encoded
    exact ⟨id, .packet packet nonce conveyance handed encoded⟩
  | openWebSocket | acceptStream | addDatagram | addTunnel | behave | hangUp | route
  | startWriters | writerStep | streamWritable | close => exact hands.elim

namespace Server

/--
Under every codec, with a key or without, whatever leaves a session is a message sent to it in clear
or a packet that was handed over as such, frame by frame on a stream, one message at a time on a sink
and in a tunnel, and the same holds of every datagram.
-/
theorem run_sends_in_clear (plan : ServerPlan) (shardKey : RequestSender → Nat)
    (handlers : HandlerTable) (events : List Traffic) :
    let srv := (blank plan shardKey handlers).carryAll events
    (∀ id s, srv.session? id = some s →
      (∀ bytes ∈ s.messagesOut, Stems plan.codec events id bytes) ∧
      ∃ frames : List Bytes, (∀ bytes ∈ frames, Stems plan.codec events id bytes) ∧
        s.wire <+: frames.flatten ∧
        (s.isActive = true → s.wire ++ s.remainder = frames.flatten)) ∧
    ∀ peer bytes, (peer, bytes) ∈ srv.supply.port.sent →
      ∃ id, StemsDatagram plan.codec events id bytes := by
  intro srv
  have yields : ∀ id packet, (∃ event ∈ events, event.Hands plan.codec.format id packet) →
      packet.Yields plan.codec (Stems plan.codec events id) fun bytes =>
        ∃ id, StemsDatagram plan.codec events id bytes := by
    rintro id packet ⟨event, member, hands⟩
    exact hands.yields member
  have accounted : srv.Accounted plan.codec (Stems plan.codec events)
      (fun bytes => ∃ id, StemsDatagram plan.codec events id bytes)
      fun id packet => ∃ event ∈ events, event.Hands plan.codec.format id packet := by
    refine List.foldlRecOn events carry ⟨rfl, ?_, nofun⟩ ?_
    · intro id s hs
      cases hs
    · intro before accounted event member
      refine (carries_carry before event ?_).preserves (fun _ _ move accounted =>
        accounted.carried yields move) accounted
      intro id packet hands
      rw [accounted.codec] at hands
      exact ⟨event, member, hands⟩
  refine ⟨?_, fun peer bytes member => accounted.datagrams (peer, bytes) member⟩
  intro id s hs
  exact ⟨(accounted.sessions id s hs).messages, (accounted.sessions id s hs).stream⟩

/-- A plan with a key. -/
def keyed : ServerPlan where
  codec := { encryptor? := some (Cipher.XChaCha.encryptor ⟨List.replicate 32 9, rfl⟩) }

def greeting : Message := Message.ofList [("type", .text "hi")]

theorem greeting_in_clear :
    let srv := (blank keyed RequestSender.number {}).carryAll
      [.openWebSocket .loopback, .startWriters, .send 0 greeting, .writerStep 0]
    (srv.session? 0).map (·.messagesOut) =
        some [Frame.regular { binary := true } (greeting.serialize .messagePack)] ∧
      ∀ nonce header bytes, keyed.codec.encode nonce greeting = .ok (header, bytes) →
        header.encrypted = true ∧
          bytes ≠ Frame.regular { binary := true } (greeting.serialize .messagePack) := by
  refine ⟨rfl, ?_⟩
  have encoded : keyed.codec.encodePacket (Nonce.ofNat 0)
      ⟨0, greeting.serialize .messagePack, .normal, .tcp, false, none⟩ =
        .ok (Frame.regular { binary := true } (greeting.serialize .messagePack)) := rfl
  have plain : keyed.codec.Plain greeting
      (Frame.regular { binary := true } (greeting.serialize .messagePack)) :=
    CodecConfig.plain_of_encodePacket rfl rfl encoded
  exact plain.unlike rfl

end Server

end SessionNet
