import SessionNet.Proofs.Codec.RoundTrip
import SessionNet.Proofs.Server.Streams

/-!
# Three ways in

A message can come in as a part of a stream, as a whole message, or through a tunnel. What was
written of messages within the limits is read the same on all three ways: the messages are submitted
that were written, in the order in which they were written, and as many bytes are counted as there
are in their encodings. Cuts between reads, and the batches in which a tunnel is flushed and polled,
do not show. What carries the proof for tunnels is that nothing is lost or reordered on the way from
the far end to the reader.
-/

namespace SessionNet

namespace CodecConfig

variable {c : CodecConfig} {m : Message} {bytes : Bytes} {messages : List Message}
variable {encodings : List Bytes}

/-- Bytes that were written of a message whose length is within the limits, both before and after it
was sealed. -/
structure Writes (c : CodecConfig) (m : Message) (bytes : Bytes) : Prop where
  plain : (m.serialize c.format).length ≤ min SessionNet.maxMessageSize c.maxMessageSize
  written : ∃ nonce header sealed, c.encode nonce m = .ok (header, bytes) ∧
    c.sealPayload nonce (m.serialize c.format) true = .ok sealed ∧
    (effectiveLimit c.frameLimit < sealed.payload.length →
      sealed.payload.length ≤ c.maxMessageSize)

/-- What was written within the limits is decoded. -/
theorem Writes.decode (writes : c.Writes m bytes)
    (format : Message.deserialize c.format (m.serialize c.format) = .ok m)
    (compressor : ∀ k ∈ c.compressor?, k.Lossless) (encryptor : ∀ e ∈ c.encryptor?, e.Lossless) :
    c.decode bytes = .ok m := by
  obtain ⟨nonce, header, sealed, encoded, sealing, admitted⟩ := writes.written
  obtain ⟨sealed', sealing', frames, -⟩ := encode_eq_ok_iff.1 encoded
  cases sealing.symm.trans sealing'
  obtain ⟨small, capped⟩ := Nat.le_min.1 writes.plain
  exact (decode_of_frames frames admitted).trans
    (openMessage_sealPayload compressor encryptor format small capped sealing)

/-- Bytes of which every one is decoded as the message at its place. -/
abbrev Decodes (c : CodecConfig) (messages : List Message) (encodings : List Bytes) : Prop :=
  List.Forall₂ (fun m bytes => c.decode bytes = .ok m) messages encodings

theorem Decodes.decodable (decodes : c.Decodes messages encodings) :
    ∀ data ∈ encodings, ∃ m, c.decode data = .ok m := by
  induction decodes with
  | nil => nofun
  | cons first _ ih => exact List.forall_mem_cons.2 ⟨⟨_, first⟩, ih⟩

theorem Decodes.decodeEach (decodes : c.Decodes messages encodings) :
    c.decodeEach encodings = messages := by
  induction decodes with
  | nil => rfl
  | cons first _ ih => simp only [CodecConfig.decodeEach, first, ih]

theorem decodeEach_append {rest : List Bytes}
    (decodable : ∀ data ∈ encodings, ∃ m, c.decode data = .ok m) :
    c.decodeEach (encodings ++ rest) = c.decodeEach encodings ++ c.decodeEach rest := by
  induction encodings with
  | nil => rfl
  | cons data others ih =>
    obtain ⟨m, decoded⟩ := decodable data List.mem_cons_self
    simp only [List.cons_append, CodecConfig.decodeEach, decoded,
      ih fun data member => decodable data (List.mem_cons_of_mem _ member)]

/-- Encodings one behind the other are a stream without a fault. -/
theorem Decodes.validPrefix (decodes : c.Decodes messages encodings) :
    c.ValidPrefix encodings.flatten messages none := by
  refine ⟨encodings, [], (List.append_nil _).symm, decodes.imp fun _ _ => decode_eq_ok_iff.1, ?_⟩
  exact .waiting (by rw [FrameDecoder.decode_of_none rfl])

end CodecConfig

theorem Tunnel.send_far {t : Tunnel} (unclosed : t.closed = false) (data : Bytes) :
    t.send .far data = .ok { t with far := { t.far with outbox := t.far.outbox ++ [data] } } := by
  simp [send, unclosed]

theorem Tunnel.flush_far {t : Tunnel} (unclosed : t.closed = false) :
    t.flush .far = .ok { t with
      far := { t.far with outbox := [] }
      near := { t.near with inbox := t.near.inbox ++ t.far.outbox } } := by
  simp [flush, unclosed]

namespace Server

variable {srv : Server} {id : SessionId} {c : CodecConfig} {input : Bytes} {a : Intake}
variable {was : Option CloseReason} {incident : Incident} {incidents : List Incident}
variable {messages : List Message} {transport : TransportKind} {own : Incident → Prop}

/-- Apart from some incidents nothing is read from a session in a run, and nothing closes it. -/
abbrev Reserved (srv : Server) (id : SessionId) (own : Incident → Prop)
    (incidents : List Incident) : Prop :=
  srv.Throughout (fun srv incident =>
    own incident ∨ ¬ srv.Reads incident id ∧ srv.Spares incident id) incidents

/-- In a run a session is given these messages over a transport and stays open, and that takes so
many bytes. -/
structure Delivers (srv : Server) (id : SessionId) (incidents : List Incident)
    (transport : TransportKind) (messages : List Message) (bytes : Nat) : Prop where
  incoming : srv.incomingAll id incidents = messages.map (transport, ·)
  counted : ∃ s t, srv.session? id = some s ∧ (srv.undergoAll incidents).session? id = some t ∧
    t.isActive = true ∧ t.counters.bytesRead = s.counters.bytesRead + bytes

/-- What is not read from a session and leaves it open leaves what can be read from it. -/
theorem rests_undergo (shown : srv.roster.intake? id = some a) (active : a.isActive = true)
    (unread : ¬ srv.Reads incident id) (spares : srv.Spares incident id) :
    ∃ b, (srv.undergo incident).roster.intake? id = some b ∧ b.isActive = true ∧ a.Rests b := by
  obtain ⟨b, after, -, rests⟩ := (srv.passes_undergo incident).shifts.rests shown
  have spared := spares ((Roster.isActive_of_intake shown).trans active)
  exact ⟨b, after, (Roster.isActive_of_intake after).symm.trans spared, rests unread⟩

theorem Delivers.of_intake {bytes : Nat}
    (incoming : srv.incomingAll id incidents = messages.map (transport, ·))
    (shown : srv.roster.intake? id = some a)
    (counted : ∃ b, (srv.undergoAll incidents).roster.intake? id = some b ∧ b.isActive = true ∧
      b.bytesRead = a.bytesRead + bytes) : srv.Delivers id incidents transport messages bytes := by
  obtain ⟨s, present, rfl⟩ := Option.map_eq_some_iff.mp shown
  obtain ⟨b, after, active, read⟩ := counted
  obtain ⟨t, present', rfl⟩ := Option.map_eq_some_iff.mp after
  exact ⟨incoming, s, t, present, present', active, read⟩

/-! ## Streams -/

/-- If there is no fault in the end, there was none before. -/
theorem sound_of_append {more : Bytes}
    (sound : (c.reading (input ++ more)).fault = none) :
    (c.reading input).fault = none := by
  rw [CodecConfig.reading_append] at sound
  cases fault : (c.reading input).fault with
  | none => rfl
  | some e => simp [Yield.resume, fault] at sound

/-- As long as there is no fault, all bytes are counted and all messages come over the stream. -/
theorem Following.undergo_reserved (following : Following c id was input srv)
    (shown : srv.roster.intake? id = some a)
    (sound : (c.reading (input ++ bytesFor id incident)).fault = none)
    (reserved : incident.Feeds id ∨ ¬ srv.Reads incident id ∧ srv.Spares incident id) :
    srv.incoming id incident = (overStream (srv.incoming id incident)).map (.tcp, ·) ∧
      ∃ b, (srv.undergo incident).roster.intake? id = some b ∧
        b.bytesRead = a.bytesRead + (bytesFor id incident).length := by
  have before := sound_of_append sound
  have active := following.isActive_of_sound before
  by_cases feeds : incident.Feeds id
  · obtain ⟨data, rfl⟩ := exists_of_feeds feeds
    have brings : bytesFor id (.stream id data) = data := if_pos rfl
    rw [brings] at sound ⊢
    rw [following.reading_append before data] at sound
    obtain ⟨refused, counted⟩ :=
      intake?_takeIn shown data.length .tcp (srv.streamYield id data).messages
    refine ⟨?_, a.countIn data.length (srv.streamYield id data).messages.length refused, ?_, rfl⟩
    · rw [overStream_incoming_stream, if_pos active]
      simp only [incoming, active, and_self, if_true]
    · have received : srv.undergo (.stream id data) = _ := streamReceived_eq active data
      rw [received]
      dsimp only
      rw [if_pos sound]
      exact counted
  · obtain ⟨unread, spares⟩ := reserved.resolve_left feeds
    have open_ : a.isActive = true := (Roster.isActive_of_intake shown).symm.trans active
    obtain ⟨b, after, -, rests⟩ := rests_undergo shown open_ unread spares
    rw [incoming_of_unread unread, bytesFor_of_unfed feeds]
    exact ⟨rfl, b, after, rests.bytesRead⟩

theorem Following.undergoAll_reserved (following : Following c id was input srv)
    (shown : srv.roster.intake? id = some a)
    (reserved : srv.Reserved id (·.Feeds id) incidents)
    (sound : (c.reading (input ++ arrived id incidents)).fault = none) :
    srv.incomingAll id incidents = (srv.streamed id incidents).map (.tcp, ·) ∧
      ∃ b, (srv.undergoAll incidents).roster.intake? id = some b ∧
        b.bytesRead = a.bytesRead + (arrived id incidents).length := by
  induction incidents generalizing srv input a with
  | nil => exact ⟨rfl, a, shown, rfl⟩
  | cons incident rest ih =>
    rw [arrived_cons, ← List.append_assoc] at sound
    obtain ⟨first, b, after, count⟩ :=
      following.undergo_reserved shown (sound_of_append sound) reserved.1
    obtain ⟨now, -⟩ := following.undergo fun unfed => (reserved.1.resolve_left unfed).2
    obtain ⟨others, d, finally_, total⟩ := ih now after reserved.2 sound
    have whole : srv.incomingAll id (incident :: rest) =
        srv.incoming id incident ++ (srv.undergo incident).incomingAll id rest := rfl
    refine ⟨?_, d, finally_, ?_⟩
    · rw [whole, streamed_cons, List.map_append, ← others, ← first]
    · rw [total, count, arrived_cons, List.length_append, Nat.add_assoc]

/-- Over a stream without a fault the session is given the messages in it. -/
theorem delivers_stream (codec : srv.supply.codec = c) (active : srv.roster.isActive id = true)
    (fresh : srv.readerOf id = c.readerOn []) (reserved : srv.Reserved id (·.Feeds id) incidents)
    (valid : c.ValidPrefix (arrived id incidents) messages none) :
    srv.Delivers id incidents .tcp messages (arrived id incidents).length := by
  obtain ⟨s, present, open_⟩ := Roster.isActive_eq_true_iff.1 active
  have shown : srv.roster.intake? id = some s.intake := congrArg (Option.map _) present
  have start : Following c id s.closeReason? [] srv := by
    refine ⟨codec, ⟨s.intake, shown, ?_, ?_⟩, fun _ => ?_⟩
    · rw [CodecConfig.reading_nil]
      exact open_
    · rw [CodecConfig.reading_nil]
      simp [Session.intake]
    · rwa [CodecConfig.reading_nil]
  obtain ⟨found, sound⟩ := CodecConfig.validPrefix_iff.1 valid
  obtain ⟨tagged, b, after, counted⟩ := start.undergoAll_reserved shown reserved sound
  obtain ⟨following, messages⟩ := start.undergoAll incidents
    (reserved.mono fun _ _ own unfed => (own.resolve_left unfed).2)
  have still : b.isActive = true :=
    (Roster.isActive_of_intake after).symm.trans (following.isActive_of_sound sound)
  rw [CodecConfig.reading_nil, List.nil_append, List.nil_append, found] at messages
  exact .of_intake (messages ▸ tagged) shown ⟨b, after, still, counted⟩

/-! ## Whole messages -/

/-- The messages that arrive in an incident on the channel of a session. -/
def wholeFor (id : SessionId) : Incident → List Bytes
  | .webSocket read data => if read = id then [data] else []
  | _ => []

/-- The messages that the far end of the tunnel of a session sends in an incident. -/
def sentTo (id : SessionId) : Incident → List Bytes
  | .peerSend used data => if used = id then [data] else []
  | _ => []

/-- Of the messages that waited and those that were brought, some have been read, in that order, and
the others wait: none is lost or overtaken by another one. -/
structure Relays (c : CodecConfig) (id : SessionId) (transport : TransportKind)
    (waits : Intake → List Bytes → Prop) (a : Intake) (pending brought : List Bytes)
    (incoming : List (TransportKind × Message)) (later : Server) (read left : List Bytes)
    (b : Intake) : Prop where
  order : pending ++ brought = read ++ left
  incoming : incoming = (c.decodeEach read).map (transport, ·)
  shown : later.roster.intake? id = some b
  active : b.isActive = true
  waiting : waits b left
  counted : b.bytesRead = a.bytesRead + read.flatten.length

variable {waits : Intake → List Bytes → Prop} {pending brought : List Bytes}
variable {brings : Incident → List Bytes}

/-- Nothing is read, and what waits goes on waiting. -/
theorem relays_aside
    (keeps : ∀ a b left, a.Rests b → b.isActive = true → waits a left → waits b left)
    (shown : srv.roster.intake? id = some a) (active : a.isActive = true)
    (waiting : waits a pending) (unread : ¬ srv.Reads incident id)
    (spares : srv.Spares incident id) :
    ∃ b, Relays c id transport waits a pending [] (srv.incoming id incident) (srv.undergo incident)
      [] pending b := by
  obtain ⟨b, after, open_, rests⟩ := rests_undergo shown active unread spares
  rw [incoming_of_unread unread]
  exact ⟨b, List.append_nil pending, rfl, after, open_, keeps a b pending rests open_ waiting,
    rests.bytesRead⟩

theorem Relays.trans {b d : Intake} {more : List Bytes}
    {incoming others : List (TransportKind × Message)} {now later : Server}
    {read left read' left' : List Bytes}
    (first : Relays c id transport waits a pending brought incoming now read left b)
    (second : Relays c id transport waits b left more others later read' left' d)
    (decodable : ∀ data ∈ read, ∃ m, c.decode data = .ok m) :
    Relays c id transport waits a pending (brought ++ more) (incoming ++ others) later
      (read ++ read') left' d where
  order := by rw [← List.append_assoc, first.order, List.append_assoc, second.order,
    List.append_assoc]
  incoming := by rw [first.incoming, second.incoming, CodecConfig.decodeEach_append decodable,
    List.map_append]
  shown := second.shown
  active := second.active
  waiting := second.waiting
  counted := by rw [second.counted, first.counted, List.flatten_append, List.length_append,
    Nat.add_assoc]

/-- What every incident of a run relays, the run relays. -/
theorem relays_undergoAll
    (step : ∀ (srv : Server) incident a pending, srv.supply.codec = c →
      srv.roster.intake? id = some a → a.isActive = true → waits a pending →
      (own incident ∨ ¬ srv.Reads incident id ∧ srv.Spares incident id) →
      (∀ data ∈ pending ++ brings incident, ∃ m, c.decode data = .ok m) →
      ∃ read left b, Relays c id transport waits a pending (brings incident)
        (srv.incoming id incident) (srv.undergo incident) read left b)
    (codec : srv.supply.codec = c) (shown : srv.roster.intake? id = some a)
    (active : a.isActive = true) (waiting : waits a pending)
    (reserved : srv.Reserved id own incidents)
    (decodable : ∀ data ∈ pending ++ incidents.flatMap brings, ∃ m, c.decode data = .ok m) :
    ∃ read left b, Relays c id transport waits a pending (incidents.flatMap brings)
      (srv.incomingAll id incidents) (srv.undergoAll incidents) read left b := by
  induction incidents generalizing srv a pending with
  | nil => exact ⟨[], pending, a, List.append_nil pending, rfl, shown, active, waiting, rfl⟩
  | cons incident rest ih =>
    rw [List.flatMap_cons] at decodable ⊢
    rw [← List.append_assoc] at decodable
    obtain ⟨read, left, b, first⟩ := step srv incident a pending codec shown active waiting
      reserved.1 fun data member => decodable data (List.mem_append_left _ member)
    -- what was brought and not read is among what still has to be decoded
    rw [first.order, List.append_assoc] at decodable
    obtain ⟨read', left', d, others⟩ := ih ((srv.passes_undergo incident).codec.trans codec)
      first.shown first.active first.waiting reserved.2
      fun data member => decodable data (List.mem_append_right _ member)
    exact ⟨_, _, _, first.trans others fun data member =>
      decodable data (List.mem_append_left _ member)⟩

/-- When nothing waits any more, everything that was brought has been read. -/
theorem Relays.delivers {encodings read : List Bytes} {b : Intake}
    (relays : Relays c id transport waits a [] encodings (srv.incomingAll id incidents)
      (srv.undergoAll incidents) read [] b)
    (shown : srv.roster.intake? id = some a) (decodes : c.Decodes messages encodings) :
    srv.Delivers id incidents transport messages encodings.flatten.length := by
  obtain rfl : encodings = read := relays.order.trans (List.append_nil read)
  refine .of_intake ?_ shown ⟨b, relays.shown, relays.active, relays.counted⟩
  rw [relays.incoming, decodes.decodeEach]

/-- A message that arrives whole is read at once. -/
theorem relays_webSocket (srv : Server) (incident : Incident) (a : Intake) (pending : List Bytes)
    (codec : srv.supply.codec = c) (shown : srv.roster.intake? id = some a)
    (active : a.isActive = true) (waiting : pending = [])
    (reserved : incident.reader? = some (.webSocket, id) ∨
      ¬ srv.Reads incident id ∧ srv.Spares incident id)
    (decodable : ∀ data ∈ pending ++ wholeFor id incident, ∃ m, c.decode data = .ok m) :
    ∃ read left b, Relays c id .webSocket (fun _ left => left = []) a pending
      (wholeFor id incident) (srv.incoming id incident) (srv.undergo incident) read left b := by
  subst waiting
  rcases reserved with own | ⟨unread, spares⟩
  · obtain ⟨data, rfl⟩ : ∃ data, incident = .webSocket id data := by
      cases incident <;> cases own
      exact ⟨_, rfl⟩
    have brings : wholeFor id (.webSocket id data) = [data] := if_pos rfl
    rw [brings] at decodable ⊢
    obtain ⟨m, decoded⟩ := decodable data List.mem_cons_self
    have open_ : srv.roster.isActive id = true := (Roster.isActive_of_intake shown).trans active
    rw [← codec] at decoded ⊢
    obtain ⟨refused, counted⟩ := intake?_takeIn shown data.length .webSocket [m]
    refine ⟨[data], [], a.countIn data.length 1 refused, rfl, ?_, ?_, active, rfl, ?_⟩
    · simp only [incoming, open_, and_self, if_true]
    · have received : srv.undergo (.webSocket id data) = _ := webSocketReceived_eq open_ decoded
      rw [received]
      exact counted
    · simp [Intake.countIn]
  · have nothing : wholeFor id incident = [] := by
      cases incident with
      | webSocket read data => exact if_neg unread
      | _ => rfl
    rw [nothing]
    exact ⟨[], [], relays_aside (fun _ _ _ _ _ none => none) shown active rfl unread spares⟩

/-- As whole messages that arrive one after the other, the session is given all of them. -/
theorem delivers_webSocket (codec : srv.supply.codec = c) (active : srv.roster.isActive id = true)
    (reserved : srv.Reserved id (·.reader? = some (.webSocket, id)) incidents)
    (decodes : c.Decodes messages (incidents.flatMap (wholeFor id))) :
    srv.Delivers id incidents .webSocket messages
      (incidents.flatMap (wholeFor id)).flatten.length := by
  obtain ⟨s, present, open_⟩ := Roster.isActive_eq_true_iff.1 active
  have shown : srv.roster.intake? id = some s.intake := congrArg (Option.map _) present
  obtain ⟨read, left, b, relays⟩ := relays_undergoAll relays_webSocket codec shown open_ rfl
    reserved decodes.decodable
  obtain rfl : left = [] := relays.waiting
  exact relays.delivers shown decodes

/-! ## Tunnels -/

/-- The messages on their way through the open tunnel of a session. -/
def InTunnel (a : Intake) (pending : List Bytes) : Prop :=
  ∃ key arrived held, a.inlet? = some ⟨key, arrived, held, false⟩ ∧ pending = arrived ++ held

section Tunnel

variable {key : UInt32} {arrived held : List Bytes}

/-- What is polled is what has arrived. -/
theorem fetchable_eq (shown : srv.roster.intake? id = some a) (active : a.isActive = true)
    (inlet : a.inlet? = some ⟨key, arrived, held, false⟩) : srv.fetchable id = arrived := by
  obtain ⟨s, present, rfl⟩ := Option.map_eq_some_iff.mp shown
  obtain ⟨channel, own, is⟩ := Option.map_eq_some_iff.mp inlet
  have found : srv.session? id = some s := present
  have open_ : s.isActive = true := active
  have unclosed : channel.tunnel.closed = false := congrArg Inlet.closed is
  have boxes : channel.tunnel.near.inbox = arrived := congrArg Inlet.arrived is
  simp only [fetchable, found, own, open_, unclosed, boxes]
  rfl

/-- Reading what arrived through a tunnel empties the inbox. -/
theorem intake?_tunnelReceived (inbox : List Bytes) (srv : Server) (a : Intake)
    (shown : srv.roster.intake? id = some a) (inlet : a.inlet? = some ⟨key, inbox, held, false⟩)
    (decodable : ∀ data ∈ inbox, ∃ m, srv.supply.codec.decode data = .ok m) :
    ∃ b, (srv.tunnelReceived id inbox).2.roster.intake? id = some b ∧ b.isActive = a.isActive ∧
      b.inlet? = some ⟨key, [], held, false⟩ ∧
      b.bytesRead = a.bytesRead + inbox.flatten.length := by
  induction inbox generalizing srv a with
  | nil => exact ⟨a, shown, rfl, inlet, rfl⟩
  | cons data rest ih =>
    obtain ⟨m, decoded⟩ := decodable data List.mem_cons_self
    rw [tunnelReceived_cons decoded]
    have left : (srv.update id (·.leaveInTunnel rest)).roster.intake? id =
        some { a with inlet? := some ⟨key, rest, held, false⟩ } := by
      refine Roster.intake?_update_of_shown shown ?_
      rintro s rfl
      rw [Session.intake_leaveInTunnel, inlet]
      rfl
    obtain ⟨refused, counted⟩ := intake?_takeIn left data.length .udp [m]
    have codec : ((srv.update id (·.leaveInTunnel rest)).takeIn id data.length .udp
        [m]).supply.codec = srv.supply.codec := by
      obtain ⟨refused, dispatcher, taken⟩ :=
        (srv.update id (·.leaveInTunnel rest)).exists_takeIn_eq id data.length .udp [m]
      rw [taken]
      rfl
    obtain ⟨b, after, active, emptied, bytes⟩ := ih _ _ counted rfl fun data member => by
      rw [codec]
      exact decodable data (List.mem_cons_of_mem _ member)
    refine ⟨b, after, active, emptied, ?_⟩
    rw [bytes, List.flatten_cons, List.length_append, ← Nat.add_assoc]
    rfl

/-- What the far end does with an open tunnel shows in what arrives and what is held back. -/
theorem intake?_useTunnel {use : Tunnel → Except NetError Tunnel} {arrived' held' : List Bytes}
    (shown : srv.roster.intake? id = some a) (inlet : a.inlet? = some ⟨key, arrived, held, false⟩)
    (used : ∀ t : Tunnel, t.closed = false → t.near.inbox = arrived → t.far.outbox = held →
      ∃ t', use t = .ok t' ∧ t'.closed = false ∧ t'.near.inbox = arrived' ∧ t'.far.outbox = held') :
    (srv.update id (Session.useTunnel use)).roster.intake? id =
      some { a with inlet? := some ⟨key, arrived', held', false⟩ } := by
  refine Roster.intake?_update_of_shown shown ?_
  rintro s rfl
  obtain ⟨channel, own, is⟩ := Option.map_eq_some_iff.mp inlet
  obtain ⟨t', done, open_, boxes, boxes'⟩ := used channel.tunnel (congrArg Inlet.closed is)
    (congrArg Inlet.arrived is) (congrArg Inlet.held is)
  have became : TunnelChannel.inlet { channel with tunnel := t' } =
      ⟨key, arrived', held', false⟩ := by
    have named : channel.id = key := congrArg Inlet.id is
    rw [TunnelChannel.inlet, named, open_, boxes, boxes']
  rw [Session.useTunnel, own]
  simp only [done, Session.intake, Option.map_some, became]

end Tunnel

/-- The incidents that a message passes on its way through the tunnel of a session. -/
def ByTunnel (id : SessionId) (incident : Incident) : Prop :=
  incident.reader? = some (.udp, id) ∨ incident.AtFarEnd id

/-- A message that is sent waits until it was flushed, and then until the tunnel is polled. -/
theorem relays_tunnel (srv : Server) (incident : Incident) (a : Intake) (pending : List Bytes)
    (codec : srv.supply.codec = c) (shown : srv.roster.intake? id = some a)
    (active : a.isActive = true) (waiting : InTunnel a pending)
    (reserved : ByTunnel id incident ∨ ¬ srv.Reads incident id ∧ srv.Spares incident id)
    (decodable : ∀ data ∈ pending ++ sentTo id incident, ∃ m, c.decode data = .ok m) :
    ∃ read left b, Relays c id .udp InTunnel a pending (sentTo id incident)
      (srv.incoming id incident) (srv.undergo incident) read left b := by
  obtain ⟨key, arrived, held, inlet, rfl⟩ := waiting
  rcases reserved with (polled | far) | ⟨unread, spares⟩
  · -- what has arrived is read, and what is held back is still held back
    obtain rfl : incident = .fetch id := by
      cases incident <;> cases polled
      rfl
    have found := fetchable_eq shown active inlet
    rw [← codec] at decodable ⊢
    obtain ⟨b, after, open_, emptied, bytes⟩ := intake?_tunnelReceived arrived srv a shown inlet
      fun data member => decodable data (List.mem_append_left _ (List.mem_append_left _ member))
    refine ⟨arrived, held, b, List.append_nil _, ?_, ?_, open_.trans active,
      ⟨key, [], held, emptied, rfl⟩, bytes⟩
    · simp only [incoming, if_true, found]
    · have received : srv.undergo (.fetch id) = _ := fetchTunnel_snd srv id
      rw [received, found]
      exact after
  · cases incident with
    | peerSend used data =>
      -- a message that is sent is held back behind the others
      obtain rfl : used = id := far
      have brings : sentTo used (.peerSend used data) = [data] := if_pos rfl
      have sent : (srv.undergo (.peerSend used data)).roster.intake? used =
          some { a with inlet? := some ⟨key, arrived, held ++ [data], false⟩ } :=
        intake?_useTunnel shown inlet fun t unclosed boxes boxes' =>
          ⟨_, Tunnel.send_far unclosed data, unclosed, boxes, by rw [← boxes']⟩
      rw [brings]
      exact ⟨[], _, _, rfl, rfl, sent, active, ⟨key, arrived, held ++ [data], rfl,
        List.append_assoc _ _ _⟩, rfl⟩
    | peerFlush used =>
      -- a flush moves what was held back behind what has arrived
      obtain rfl : used = id := far
      have flushed : (srv.undergo (.peerFlush used)).roster.intake? used =
          some { a with inlet? := some ⟨key, arrived ++ held, [], false⟩ } :=
        intake?_useTunnel shown inlet fun t unclosed boxes boxes' =>
          ⟨_, Tunnel.flush_far unclosed, unclosed, by rw [← boxes, ← boxes'], rfl⟩
      exact ⟨[], _, _, rfl, rfl, flushed, active, ⟨key, arrived ++ held, [], rfl, rfl⟩, rfl⟩
    | _ => exact far.elim
  · have nothing : sentTo id incident = [] := by
      cases incident with
      | peerSend used data => exact if_neg unread
      | _ => rfl
    have keeps : ∀ a b left, a.Rests b → b.isActive = true → InTunnel a left → InTunnel b left := by
      rintro a b left rests open_ ⟨key, arrived, held, inlet, rfl⟩
      exact ⟨key, arrived, held, rests.inlet open_ _ inlet, rfl⟩
    rw [nothing]
    exact ⟨[], _, relays_aside keeps shown active ⟨key, arrived, held, inlet, rfl⟩ unread spares⟩

/-- Nothing is on its way through an open tunnel. -/
theorem inlet?_of_empty {s : Session} {channel : TunnelChannel} (own : s.tunnel? = some channel)
    (empty : channel.inlet = ⟨channel.id, [], [], false⟩) :
    s.intake.inlet? = some ⟨channel.id, [], [], false⟩ := by
  rw [Session.intake, own, ← empty]
  rfl

/-- Through a tunnel that is empty in the end, the session is given what the far end sent. -/
theorem delivers_tunnel {s t : Session} {channel channel' : TunnelChannel}
    (codec : srv.supply.codec = c) (present : srv.session? id = some s)
    (active : s.isActive = true) (own : s.tunnel? = some channel)
    (empty : channel.inlet = ⟨channel.id, [], [], false⟩)
    (reserved : srv.Reserved id (ByTunnel id) incidents)
    (decodes : c.Decodes messages (incidents.flatMap (sentTo id)))
    (present' : (srv.undergoAll incidents).session? id = some t) (own' : t.tunnel? = some channel')
    (empty' : channel'.inlet = ⟨channel'.id, [], [], false⟩) :
    srv.Delivers id incidents .udp messages (incidents.flatMap (sentTo id)).flatten.length := by
  have shown : srv.roster.intake? id = some s.intake := congrArg (Option.map _) present
  obtain ⟨read, left, b, relays⟩ := relays_undergoAll relays_tunnel codec shown active
    ⟨_, [], [], inlet?_of_empty own empty, rfl⟩ reserved decodes.decodable
  -- nothing waits in the end, so everything has been read
  have after : (srv.undergoAll incidents).roster.intake? id = some t.intake :=
    congrArg (Option.map _) present'
  cases relays.shown.symm.trans after
  obtain ⟨key, arrived, held, still, rfl⟩ := relays.waiting
  cases (inlet?_of_empty own' empty').symm.trans still
  exact relays.delivers shown decodes

/-! ## All three -/

/--
The inbound paths agree. Whatever is written of messages within the limits and comes in on an open
session, in a stream cut in any way, as one whole message after the other, or through a tunnel that
is flushed and polled in any batches, the session is given the messages, in order and once each, and
as many bytes are counted as were written. Only the transport differs. That the messages are
submitted is what each incident does in which something is read.
-/
theorem inbound_paths_agree (c : CodecConfig) (messages : List Message) (encodings : List Bytes)
    (format : ∀ m ∈ messages, Message.deserialize c.format (m.serialize c.format) = .ok m)
    (compressor : ∀ k ∈ c.compressor?, k.Lossless) (encryptor : ∀ e ∈ c.encryptor?, e.Lossless)
    (written : List.Forall₂ c.Writes messages encodings) :
    (∀ (srv : Server) (id : SessionId) (incidents : List Incident), srv.supply.codec = c →
      srv.roster.isActive id = true → srv.readerOf id = c.readerOn [] →
      srv.Reserved id (·.Feeds id) incidents → arrived id incidents = encodings.flatten →
      srv.Delivers id incidents .tcp messages encodings.flatten.length) ∧
    (∀ (srv : Server) (id : SessionId) (incidents : List Incident), srv.supply.codec = c →
      srv.roster.isActive id = true →
      srv.Reserved id (·.reader? = some (.webSocket, id)) incidents →
      incidents.flatMap (wholeFor id) = encodings →
      srv.Delivers id incidents .webSocket messages encodings.flatten.length) ∧
    (∀ (srv : Server) (id : SessionId) (incidents : List Incident) (s t : Session)
      (channel channel' : TunnelChannel), srv.supply.codec = c →
      srv.session? id = some s → s.isActive = true → s.tunnel? = some channel →
      channel.inlet = ⟨channel.id, [], [], false⟩ →
      srv.Reserved id (ByTunnel id) incidents → incidents.flatMap (sentTo id) = encodings →
      (srv.undergoAll incidents).session? id = some t → t.tunnel? = some channel' →
      channel'.inlet = ⟨channel'.id, [], [], false⟩ →
      srv.Delivers id incidents .udp messages encodings.flatten.length) ∧
    ∀ (here : Server) (id : SessionId) (incident : Incident) (transport : TransportKind),
      incident.reader? = some (transport, id) →
      Submits id here (here.incoming id incident) (here.undergo incident) := by
  have decodes : c.Decodes messages encodings := by
    induction written with
    | nil => exact .nil
    | cons first _ ih =>
      exact .cons (first.decode (format _ List.mem_cons_self) compressor encryptor)
        (ih fun m member => format m (List.mem_cons_of_mem _ member))
  refine ⟨?_, ?_, ?_, fun here id incident transport reader => submits_undergo reader here⟩
  · intro srv id incidents codec active fresh reserved bytes
    rw [← bytes]
    exact delivers_stream codec active fresh reserved (bytes ▸ decodes.validPrefix)
  · intro srv id incidents codec active reserved brought
    subst brought
    exact delivers_webSocket codec active reserved decodes
  · intro srv id incidents s t channel channel' codec present active own empty reserved brought
      present' own' empty'
    subst brought
    exact delivers_tunnel codec present active own empty reserved decodes present' own' empty'

/-- Settings under which a frame carries one byte. -/
def byteByByte : CodecConfig where
  frameLimit := 1

/-- The empty message under these settings, in three frames. -/
def emptyInFrames : Bytes :=
  [5, 0, 0, 0, 5, 0, 0, 0, 0, 2, 5, 0, 0, 0, 2, 1, 0x91, 5, 0, 0, 0, 2, 2, 0x80]

theorem writes_emptyInFrames : byteByByte.Writes .empty emptyInFrames := by
  have encoded : byteByByte.encode (Nonce.ofNat 0) .empty =
      .ok (⟨true, false, true, false⟩, emptyInFrames) := by
    with_unfolding_all rfl
  exact ⟨by decide, Nonce.ofNat 0, _, _, encoded, rfl, fun _ => by decide⟩

/-- A server with these settings and sessions that can have a tunnel. -/
def tunneling : Server :=
  blank { sessions := { tunnelEnabled := true }, codec := byteByByte } RequestSender.number {}

/-- On all three ways the message is submitted once, and 24 bytes are counted. -/
theorem inbound_paths_agree_byteByByte :
    ∃ srv, tunneling.acceptStream {} .loopback = .ok (0, srv) ∧
      srv.Delivers 0 [.stream 0 (emptyInFrames.take 9), .elapse 5,
        .stream 0 (emptyInFrames.drop 9)] .tcp [.empty] 24 ∧
      srv.Delivers 0 [.write 0, .webSocket 0 emptyInFrames] .webSocket [.empty] 24 ∧
      (srv.addTunnel 0 ⟨5, {}⟩).1.Delivers 0 [.peerSend 0 emptyInFrames, .peerFlush 0, .elapse 5,
        .fetch 0] .udp [.empty] 24 := by
  refine ⟨_, rfl, ?_⟩
  have format : Message.deserialize byteByByte.format (Message.empty.serialize byteByByte.format) =
      .ok .empty := by
    with_unfolding_all rfl
  obtain ⟨stream, whole, tunnel, -⟩ := inbound_paths_agree byteByByte [.empty] [emptyInFrames]
    (List.forall_mem_singleton.2 format) nofun nofun (.cons writes_emptyInFrames .nil)
  refine ⟨?_, ?_, ?_⟩
  · exact stream _ 0 _ rfl rfl rfl
      ⟨.inl rfl, .inr ⟨id, fun active => active⟩, .inl rfl, trivial⟩ rfl
  · exact whole _ 0 _ rfl rfl ⟨.inr ⟨id, fun _ => rfl⟩, .inl rfl, trivial⟩ rfl
  · exact tunnel _ 0 _ _ _ ⟨5, {}⟩ _ rfl rfl rfl rfl rfl
      ⟨.inl (.inr rfl), .inl (.inr rfl), .inr ⟨id, fun active => active⟩, .inl (.inl rfl), trivial⟩
      rfl (by with_unfolding_all rfl) (by with_unfolding_all rfl) (by with_unfolding_all rfl)

end Server

end SessionNet
