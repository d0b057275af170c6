import SessionNet.Proofs.Server.Reading
import SessionNet.Proofs.Server.Rewiring
import SessionNet.Proofs.Server.Serving
import SessionNet.Proofs.Session.Emissions
import SessionNet.Proofs.Session.Shifts
import SessionNet.Proofs.Session.Writing

/-!
# Runs in which messages come in

The runs of a server in which bytes arrive on streams, channels of whole messages, tunnels and as
datagrams, writers take their turns, and time goes by. Each incident of such a run has something to
do with few sessions and few clients: it reads from the sessions that `Server.Reads` tells and gives
a datagram path to nobody but the client that `Server.Asks` tells. All others are passed by
(`passes_undergo`).
-/

namespace SessionNet

/-- Something that happens to a server, or at the far ends of its tunnels. -/
inductive Incident where
  | operation (operation : Operation)
  | addTunnel (id : SessionId) (channel : TunnelChannel)
  /-- A writer takes its turn. -/
  | write (worker : Nat)
  /-- The stream of a session takes bytes again. -/
  | writable (id : SessionId)
  | elapse (now : Instant)
  /-- Bytes arrive on the stream of a session. -/
  | stream (id : SessionId) (data : Bytes)
  /-- A message arrives on the channel of a session. -/
  | webSocket (id : SessionId) (data : Bytes)
  | datagram (peer : DatagramPeer) (data : Bytes)
  /-- The tunnel of a session is polled. -/
  | fetch (id : SessionId)
  /-- The far end of the tunnel of a session sends a message. -/
  | peerSend (id : SessionId) (data : Bytes)
  | peerFlush (id : SessionId)

namespace Incident

/-- The session that a reader turns to, and what it reads from. -/
def reader? : Incident → Option (TransportKind × SessionId)
  | .stream id _ => some (.tcp, id)
  | .webSocket id _ => some (.webSocket, id)
  | .fetch id => some (.udp, id)
  | _ => none

/-- Whether an incident brings bytes of the stream of a session. -/
def Feeds (incident : Incident) (id : SessionId) : Prop := incident.reader? = some (.tcp, id)

/-- Whether the far end of the tunnel of a session is used. -/
def AtFarEnd : Incident → SessionId → Prop
  | .peerSend used _, id => used = id
  | .peerFlush used, id => used = id
  | _, _ => False

end Incident

/-- A session whose tunnel was used from outside; a use that fails changes nothing. -/
def Session.useTunnel (use : Tunnel → Except NetError Tunnel) (s : Session) : Session :=
  match s.tunnel? with
  | none => s
  | some channel =>
    match use channel.tunnel with
    | .ok tunnel => { s with tunnel? := some { channel with tunnel } }
    | .error _ => s

theorem Session.wiring_useTunnel (use : Tunnel → Except NetError Tunnel) (s : Session) :
    (s.useTunnel use).wiring = s.wiring := by
  unfold useTunnel
  split
  · rfl
  · rename_i channel own
    split
    · simp [wiring, own]
    · rfl

theorem Session.wiring_leaveInTunnel (s : Session) (inbox : List Bytes) :
    (s.leaveInTunnel inbox).wiring = s.wiring := by
  simp [leaveInTunnel, wiring, Option.map_map, Function.comp_def]

theorem Session.datagram?_useTunnel (use : Tunnel → Except NetError Tunnel) (s : Session) :
    (s.useTunnel use).datagram? = s.datagram? := by
  unfold useTunnel
  split
  · rfl
  · split <;> rfl

namespace Server

/-- The server after an incident; one that fails leaves it as it was. -/
def undergo (srv : Server) : Incident → Server
  | .operation operation => srv.step operation
  | .addTunnel id channel => (srv.addTunnel id channel).1
  | .write worker => srv.writerStep worker
  | .writable id => srv.streamWritable id
  | .elapse now => { srv with now }
  | .stream id data => srv.streamReceived id data
  | .webSocket id data => (srv.webSocketReceived id data).1
  | .datagram peer data => srv.datagramReceived peer data
  | .fetch id => (srv.fetchTunnel id).2
  | .peerSend id data => srv.update id (Session.useTunnel (·.send .far data))
  | .peerFlush id => srv.update id (Session.useTunnel (·.flush .far))

/-- The server after incidents in order. -/
def undergoAll (srv : Server) (incidents : List Incident) : Server := incidents.foldl undergo srv

/-- Whether an incident reads from a session or changes what can be read from it. -/
def Reads (srv : Server) : Incident → SessionId → Prop
  | .operation (.submit read _ _), id => read = id
  | .stream read _, id => read = id
  | .webSocket read _, id => read = id
  | .fetch read, id => read = id
  | .peerSend read _, id => read = id
  | .peerFlush read, id => read = id
  | .datagram peer _, id => srv.hasPathTo id peer.client = true
  | _, _ => False

/-- Whether in an incident the request of a client for a datagram path is processed. -/
def Asks (srv : Server) : Incident → DatagramPeer → Prop
  | .operation (.process request), peer => request.Asks peer
  | .operation (.shardStep shard), peer =>
    ∃ queued dispatcher, srv.dispatcher.takeFrom shard = some (queued, dispatcher) ∧
      queued.request.Asks peer
  | _, _ => False

/-- The messages that readers submit on a session in an incident, and what they come over. -/
def incoming (srv : Server) (id : SessionId) : Incident → List (TransportKind × Message)
  | .stream read data =>
    if read = id ∧ srv.roster.isActive id = true then
      (srv.streamYield id data).messages.map (.tcp, ·)
    else []
  | .webSocket read data =>
    if read = id ∧ srv.roster.isActive id = true then
      (srv.supply.codec.decodeEach [data]).map (.webSocket, ·)
    else []
  | .fetch read =>
    if read = id then (srv.supply.codec.decodeEach (srv.fetchable id)).map (.udp, ·) else []
  | .datagram peer data =>
    match srv.supply.codec.decodeDatagram data with
    | .error _ => []
    | .ok (key, message) =>
      if key ≠ 0 ∧ srv.roster.findConveyance? key = some id ∧ srv.hasPathTo id peer.client = true then
        [(.udp, message)]
      else []
  | _ => []

/-- The messages that readers submit on a session in the course of a run. -/
def incomingAll (srv : Server) (id : SessionId) : List Incident → List (TransportKind × Message)
  | [] => []
  | incident :: rest => srv.incoming id incident ++ (srv.undergo incident).incomingAll id rest

/-- Something holds of every incident of a run, where it happens. -/
def Throughout (P : Server → Incident → Prop) (srv : Server) : List Incident → Prop
  | [] => True
  | incident :: rest => P srv incident ∧ Throughout P (srv.undergo incident) rest

/-- Whether an incident leaves a session open. -/
def Spares (srv : Server) (incident : Incident) (id : SessionId) : Prop :=
  srv.roster.isActive id = true → (srv.undergo incident).roster.isActive id = true

/-- Only some clients are heard, some sessions read and some streams fed with bytes, and no server
begins to encode and decode in another way. -/
structure Passes (heard : DatagramPeer → Prop) (read fed : SessionId → Prop) (srv srv' : Server) :
    Prop where
  shifts : Roster.Shifts heard read srv.roster srv'.roster
  codec : srv'.supply.codec = srv.supply.codec
  readers : ∀ id, srv.session? id ≠ none → ¬ fed id →
    srv'.readers.streams.lookup id = srv.readers.streams.lookup id

variable {heard : DatagramPeer → Prop} {read fed : SessionId → Prop} {srv srv' srv'' : Server}
variable {id other : SessionId}

namespace Passes

theorem refl (srv : Server) : Passes heard read fed srv srv := ⟨.refl, rfl, fun _ _ _ => rfl⟩

theorem trans (first : Passes heard read fed srv srv') (second : Passes heard read fed srv' srv'') :
    Passes heard read fed srv srv'' where
  shifts := first.shifts.trans second.shifts
  codec := second.codec.trans first.codec
  readers id present unfed :=
    (second.readers id (first.shifts.present present) unfed).trans (first.readers id present unfed)

/-- A change to the sessions, and to nothing that reading needs. -/
theorem of_shift (shift : Roster.Shift heard read srv.roster srv'.roster)
    (codec : srv'.supply.codec = srv.supply.codec)
    (streams : srv'.readers.streams = srv.readers.streams) : Passes heard read fed srv srv' :=
  ⟨.single shift, codec, fun _ _ _ => by rw [streams]⟩

theorem aside (same : Roster.SameIntake srv.roster srv'.roster)
    (codec : srv'.supply.codec = srv.supply.codec)
    (streams : srv'.readers.streams = srv.readers.streams) : Passes heard read fed srv srv' :=
  .of_shift (.aside same) codec streams

theorem update {f : Session → Session} (keeps : ∀ s, (f s).intake = s.intake) :
    Passes heard read fed srv (srv.update id f) :=
  .aside (Roster.sameIntake_update keeps) rfl rfl

end Passes

/-! ## Packets -/

theorem passes_schedule (srv : Server) (id : SessionId) :
    Passes heard read fed srv (srv.schedule id) := by
  rcases srv.schedule_cases id with same | ⟨queues, scheduled⟩
  · rw [same]
    exact .refl srv
  · rw [scheduled]
    exact .aside (Roster.sameIntake_update fun _ => rfl) rfl rfl

theorem passes_enqueueAndSchedule (srv : Server) (id : SessionId) (packet : Packet) :
    Passes heard read fed srv (srv.enqueueAndSchedule id packet).1 := by
  have queued : Passes heard read fed srv (srv.enqueue id packet).1 := by
    rw [enqueue_eq]
    exact .update fun s => s.intake_enqueue packet
  rcases srv.enqueueAndSchedule_fst id packet with refused | accepted
  · rwa [refused]
  · rw [accepted]
    exact queued.trans (passes_schedule _ id)

theorem passes_createPacket (srv : Server) (payload : Bytes) :
    Passes heard read fed srv (srv.createPacket payload).2 := .aside (.refl _) rfl rfl

theorem passes_send (srv : Server) (id : SessionId) (message : Message) :
    Passes heard read fed srv (srv.send id message).1 :=
  (passes_createPacket srv (message.serialize srv.supply.codec.format)).trans
    (passes_enqueueAndSchedule _ id _)

theorem passes_sendDatagram (srv : Server) (id : SessionId) (message : Message) :
    Passes heard read fed srv (srv.sendDatagram id message).1 :=
  (passes_createPacket srv (message.serialize srv.supply.codec.format)).trans
    (passes_enqueueAndSchedule _ id _)

/-! ## Requests -/

theorem passes_close (srv : Server) (id : SessionId) (reason : CloseReason) :
    Passes heard read fed srv (srv.close id reason).2 := by
  have shift : Roster.Shift heard read srv.roster (srv.close id reason).2.roster := by
    rw [roster_close]
    exact .close srv.roster id reason
  -- neither the codec nor the readers are among what a close changes
  obtain ⟨_, _, _, closed⟩ := exists_close_eq srv id reason
  rw [closed] at shift ⊢
  exact .of_shift shift rfl rfl

theorem passes_grantPath (srv : Server) {peer : DatagramPeer} (allowed : heard peer)
    (identity : String) : Passes heard read fed srv (srv.grantPath peer identity).2 := by
  rcases srv.grantPath_cases peer identity with
    ⟨counter, same⟩ | ⟨id, key, counter, roster, next, added, granted⟩
  · rw [same]
    exact .aside ⟨fun _ => rfl, rfl, rfl⟩ rfl rfl
  · rw [granted]
    exact .of_shift (.grant allowed next added) rfl rfl

theorem codec_replyToHandshake (srv : Server) (peer : DatagramPeer) (access : DatagramAccess)
    (conveyance : UInt32) :
    (srv.replyToHandshake peer access conveyance).1.supply.codec = srv.supply.codec := by
  unfold replyToHandshake
  dsimp only
  split <;> rfl

theorem passes_deed {spoken : ServerEvent → Prop} (deed : Deed spoken heard srv srv') :
    Passes heard read fed srv srv' := by
  cases deed with
  | event event delivered _ => exact .aside (.refl _) rfl rfl
  | called kind => exact .aside (.refl _) rfl rfl
  | unregister kind => exact .aside (.refl _) rfl rfl
  | send id message => exact passes_send srv id message
  | sendDatagram id message => exact passes_sendDatagram srv id message
  | transition id source target =>
    exact .aside (Roster.sameIntake_transition srv.roster id source target) rfl rfl
  | close id reason => exact passes_close srv id reason
  | associate identity id =>
    exact .aside (Roster.sameIntake_associate srv.roster identity id) rfl rfl
  | @takeOver identity id old live =>
    have moved : Passes heard read fed srv (srv.moved identity id old) :=
      .aside ((Roster.sameIntake_bind srv.roster identity id).trans
        (Roster.sameIntake_update fun _ => rfl)) rfl rfl
    rw [takeOver_eq live]
    exact moved.trans (passes_close _ old .reconnected)
  | grantPath peer identity allowed => exact passes_grantPath srv allowed identity
  | reply peer access conveyance =>
    have codec := codec_replyToHandshake srv peer access conveyance
    obtain ⟨supply, replied⟩ := srv.exists_replyToHandshake_eq peer access conveyance
    rw [replied] at codec ⊢
    exact .aside (.refl _) codec rfl

theorem passes_process (srv : Server) (request : Request) :
    Passes request.Asks read fed srv (srv.process request) :=
  (deeds_process srv request).preserves (P := Passes request.Asks read fed srv)
    (fun _ _ deed before => before.trans (passes_deed deed)) (.refl srv)

theorem passes_shardStep (srv : Server) (shard : Nat) :
    Passes (srv.Asks (.operation (.shardStep shard))) read fed srv (srv.shardStep shard) := by
  rcases shardStep_cases srv shard with same | ⟨queued, dispatcher, after, taken, rfl, heq⟩
  · rw [same]
    exact .refl srv
  · have counted : Passes queued.request.Asks read fed srv { srv with dispatcher } :=
      .aside (.refl _) rfl rfl
    have processed := counted.trans (passes_process { srv with dispatcher } queued.request)
    have only : srv.Asks (.operation (.shardStep shard)) = queued.request.Asks := by
      funext peer
      simp [Asks, taken]
    rw [heq, only]
    exact ⟨processed.shifts, processed.codec, processed.readers⟩

/-! ## Operations -/

/-- A new session gets the next number. -/
theorem id_of_admitSession {remote : SocketAddress}
    {create : Roster → Except NetError (SessionId × Roster)}
    (creates : ∀ r, (∃ e, create r = .error e) ∨ ∃ transport, create r =
      .ok (r.register { r.freshSession (some remote) srv.now with transport }))
    (admitted : srv.admitSession remote create = .ok (id, srv')) :
    id = srv.roster.sessions.length := by
  obtain ⟨filter, roster, -, made, rfl⟩ := admitSession_eq_ok admitted
  rcases creates { srv.roster with filter } with ⟨e, failed⟩ | ⟨transport, registered⟩
  · cases failed.symm.trans made
  · cases registered.symm.trans made
    rfl

/-- There is nothing to be read on it yet. -/
theorem passes_admitSession {remote : SocketAddress}
    {create : Roster → Except NetError (SessionId × Roster)}
    (creates : ∀ r, (∃ e, create r = .error e) ∨ ∃ transport, create r =
      .ok (r.register { r.freshSession (some remote) srv.now with transport }))
    (admitted : srv.admitSession remote create = .ok (id, srv')) :
    Passes heard read fed srv srv' := by
  obtain ⟨filter, roster, -, made, rfl⟩ := admitSession_eq_ok admitted
  rcases creates { srv.roster with filter } with ⟨e, failed⟩ | ⟨transport, registered⟩
  · cases failed.symm.trans made
  · cases registered.symm.trans made
    have reserved : Roster.SameIntake srv.roster { srv.roster with filter } :=
      ⟨fun _ => rfl, rfl, rfl⟩
    refine ⟨?_, rfl, fun _ _ _ => rfl⟩
    -- the filter makes room, the session is registered, and it gets its slot
    exact .head (.aside reserved) (.head (.register _ rfl rfl rfl rfl)
      (.single (.aside (Roster.sameIntake_update fun _ => rfl))))

theorem lookup_keepReader_self (srv : Server) (id : SessionId) (reader : StreamReader) :
    (srv.keepReader id reader).readers.streams.lookup id = some reader := by
  simp [keepReader]

theorem lookup_keepReader_of_ne (srv : Server) (reader : StreamReader) (differs : other ≠ id) :
    (srv.keepReader id reader).readers.streams.lookup other = srv.readers.streams.lookup other := by
  have passedOver : (other == id) = false := beq_false_of_ne differs
  simp only [keepReader, List.lookup_cons, passedOver]
  exact lookup_filter_of_key fun holder => by simp [differs]

theorem passes_acceptStream {stream : Stream} {remote : SocketAddress}
    (accepted : srv.acceptStream stream remote = .ok (id, srv')) :
    Passes heard read fed srv srv' := by
  obtain ⟨after, admitted, ended⟩ := acceptStream_eq_ok accepted
  have opened : Passes heard read fed srv after :=
    passes_admitSession (fun r => r.createSocket_cases stream remote srv.now) admitted
  have next := id_of_admitSession (fun r => r.createSocket_cases stream remote srv.now) admitted
  rcases ended with rfl | rfl
  · exact opened.trans (passes_close after id .shutdown)
  · refine ⟨opened.shifts, opened.codec, ?_⟩
    -- the new reader is that of a session that was not there before
    intro other present unfed
    have differs : other ≠ id := by
      rintro rfl
      exact present (next ▸ List.getElem?_eq_none (Nat.le_refl _))
    exact (lookup_keepReader_of_ne after _ differs).trans (opened.readers other present unfed)

theorem passes_closeAll (srv : Server) (reason : CloseReason) :
    Passes heard read fed srv (srv.closeAll reason).2 :=
  closeAll_preserves (P := Passes heard read fed srv)
    (fun later id before => before.trans (passes_close later id reason)) (.refl srv)

/-! ## Messages -/

theorem passes_read (allowed : read id) {f : Session → Session}
    (wiring : ∀ s, (f s).wiring = s.wiring) (path : ∀ s, (f s).datagram? = s.datagram?) :
    Passes heard read fed srv (srv.update id f) :=
  .of_shift (.read srv.roster allowed wiring path) rfl rfl

theorem passes_submit (allowed : read id) (message : Message) (transport : TransportKind) :
    Passes heard read fed srv (srv.submit id message transport).1 := by
  obtain ⟨count, dispatcher, submitted⟩ := srv.exists_submit_eq id message transport
  have counted : Passes heard read fed srv
      (srv.update id fun s => { s with counters := count s }) :=
    passes_read allowed (fun _ => rfl) fun _ => rfl
  rw [submitted]
  exact ⟨counted.shifts, counted.codec, counted.readers⟩

theorem passes_recordRead (allowed : read id) (count : Nat) :
    Passes heard read fed srv (srv.recordRead id count) :=
  passes_read allowed (fun _ => rfl) fun _ => rfl

theorem passes_takeIn (allowed : read id) (count : Nat) (transport : TransportKind)
    (messages : List Message) (srv : Server) :
    Passes heard read fed srv (srv.takeIn id count transport messages) := by
  obtain ⟨refused, dispatcher, taken⟩ := srv.exists_takeIn_eq id count transport messages
  have counted : Passes heard read fed srv
      (srv.update id fun s => (s.countIn count messages.length refused).touch srv.now) :=
    passes_read allowed (fun _ => rfl) fun _ => rfl
  rw [taken]
  exact ⟨counted.shifts, counted.codec, counted.readers⟩

theorem passes_streamReceived (allowed : read id) (feeds : fed id) (srv : Server) (data : Bytes) :
    Passes heard read fed srv (srv.streamReceived id data) := by
  cases active : srv.roster.isActive id with
  | false =>
    rw [streamReceived_of_inactive active]
    exact .refl srv
  | true =>
    have kept : Passes heard read fed srv
        ((srv.takeIn id data.length .tcp (srv.streamYield id data).messages).keepReader id
          (srv.streamYield id data).reader) := by
      have taken : Passes heard read fed srv
          (srv.takeIn id data.length .tcp (srv.streamYield id data).messages) :=
        passes_takeIn allowed data.length .tcp _ srv
      refine ⟨taken.shifts, taken.codec, fun other present unfed => ?_⟩
      -- only the reader of the session that is fed is replaced
      have differs : other ≠ id := by
        rintro rfl
        exact unfed feeds
      exact (lookup_keepReader_of_ne _ _ differs).trans (taken.readers other present unfed)
    rw [streamReceived_eq active]
    dsimp only
    split
    · exact kept
    · exact kept.trans (passes_close _ id .protocolViolation)

theorem passes_webSocketReceived (allowed : read id) (srv : Server) (data : Bytes) :
    Passes heard read fed srv (srv.webSocketReceived id data).1 := by
  have counted : Passes heard read fed srv (srv.recordRead id data.length) :=
    passes_recordRead allowed data.length
  unfold webSocketReceived
  split
  · exact .refl srv
  · dsimp only
    split
    · exact counted.trans (passes_close _ id .protocolViolation)
    · exact passes_takeIn allowed data.length .webSocket [_] srv

theorem passes_tunnelReceived (allowed : read id) (inbox : List Bytes) (srv : Server) :
    Passes heard read fed srv (srv.tunnelReceived id inbox).2 := by
  induction inbox generalizing srv with
  | nil => exact .refl srv
  | cons data rest ih =>
    have left : Passes heard read fed srv (srv.update id (·.leaveInTunnel rest)) :=
      passes_read allowed (fun s => s.wiring_leaveInTunnel rest) fun _ => rfl
    rw [tunnelReceived]
    split
    · exact (left.trans (passes_recordRead allowed data.length)).trans
        (passes_close _ id .protocolViolation)
    · exact (left.trans (passes_takeIn allowed data.length .udp [_] _)).trans (ih _)

theorem passes_fetchTunnel (allowed : read id) (srv : Server) :
    Passes heard read fed srv (srv.fetchTunnel id).2 := by
  unfold fetchTunnel
  split
  · exact .refl srv
  · split
    · exact .refl srv
    · split
      · exact .refl srv
      · exact passes_tunnelReceived allowed _ srv

theorem passes_useTunnel (allowed : read id) (use : Tunnel → Except NetError Tunnel) :
    Passes heard read fed srv (srv.update id (Session.useTunnel use)) :=
  passes_read allowed (fun s => s.wiring_useTunnel use) fun s => s.datagram?_useTunnel use

/-- A datagram adds a request at most, or is read as a message of the session that it names. -/
theorem datagramReceived_cases (srv : Server) (peer : DatagramPeer) (data : Bytes) :
    (∃ dispatcher, srv.datagramReceived peer data = { srv with dispatcher }) ∨
      ∃ key id message, srv.roster.findConveyance? key = some id ∧
        srv.hasPathTo id peer.client = true ∧
        srv.datagramReceived peer data = srv.takeIn id data.length .udp [message] := by
  unfold datagramReceived
  split
  · exact .inl ⟨_, rfl⟩
  · split
    · split
      · exact .inl ⟨_, rfl⟩
      · exact .inl ⟨_, rfl⟩
    · split
      · exact .inl ⟨_, rfl⟩
      · rename_i id found
        split
        · rename_i leads
          exact .inr ⟨_, id, _, found, leads, rfl⟩
        · exact .inl ⟨_, rfl⟩

theorem passes_datagramReceived {peer : DatagramPeer}
    (allowed : ∀ id, srv.hasPathTo id peer.client = true → read id) (data : Bytes) :
    Passes heard read fed srv (srv.datagramReceived peer data) := by
  rcases srv.datagramReceived_cases peer data with
    ⟨dispatcher, aside⟩ | ⟨key, id, message, -, leads, taken⟩
  · rw [aside]
    exact .aside (.refl _) rfl rfl
  · rw [taken]
    exact passes_takeIn (allowed id leads) data.length .udp [message] srv

/-! ## Writing -/

theorem codec_writePass (s : Session) (budget : Nat) (supply : Supply) :
    (s.writePass budget supply).supply.codec = supply.codec :=
  (Session.emits_writePass (P := fun _ => True) (D := fun _ => True) budget
    fun _ _ => ⟨fun _ _ _ => trivial, fun _ _ _ _ _ => trivial⟩).codec

theorem passes_runPass (srv : Server) (id : SessionId) :
    Passes heard read fed srv (srv.runPass id) := by
  cases hs : srv.session? id with
  | none =>
    rw [runPass, hs]
    exact .refl srv
  | some s =>
    cases active : s.isActive with
    | false =>
      rw [runPass_of_closed hs active]
      exact .update fun _ => rfl
    | true =>
      have stored := Roster.update_const
        (f := fun s => { (s.writePass srv.writers.budget srv.supply).session with
          writeScheduled := false }) hs
      have released : Passes heard read fed srv
          (srv.release id (s.writePass srv.writers.budget srv.supply)) := by
        refine .aside ?_ (codec_writePass s srv.writers.budget srv.supply) rfl
        change Roster.SameIntake srv.roster (srv.roster.update id fun _ => _)
        rw [stored]
        exact Roster.sameIntake_update fun t =>
          (Session.served_writePass t srv.writers.budget srv.supply).intake
      have ended := runPass_of_active hs active
      generalize (s.writePass srv.writers.budget srv.supply).result = result at ended
      generalize srv.runPass id = final at ended
      cases ended with
      | drained => exact released
      | yielded => exact released.trans (passes_schedule _ id)
      | blocked => exact released.trans (.update fun _ => rfl)
      | failed e => exact released.trans (passes_close _ id .writeError)

theorem passes_writerStep (srv : Server) (worker : Nat) :
    Passes heard read fed srv (srv.writerStep worker) := by
  unfold writerStep
  split
  · rename_i id rest _
    have taken : Passes heard read fed srv
        { srv with writers := { srv.writers with queues := srv.writers.queues.set worker rest } } :=
      .aside (.refl _) rfl rfl
    exact taken.trans (passes_runPass _ id)
  · exact .refl srv

theorem passes_streamWritable (srv : Server) (id : SessionId) :
    Passes heard read fed srv (srv.streamWritable id) := by
  have resumed : Passes heard read fed srv
      (srv.update id fun s => { s with awaitsWritable := false }) := .update fun _ => rfl
  unfold streamWritable
  split
  · exact .refl srv
  · split
    · dsimp only
      split
      · exact resumed
      · refine resumed.trans (.trans (.update ?_) (passes_runPass _ id))
        exact fun _ => rfl
    · exact .refl srv

/-! ## Incidents -/

theorem passes_step (srv : Server) (operation : Operation) :
    Passes (srv.Asks (.operation operation)) (srv.Reads (.operation operation)) fed srv
      (srv.step operation) := by
  cases operation with
  | openWebSocket sink remote =>
    cases made : srv.createWebSocket sink remote with
    | error e => simpa only [step, made] using .refl srv
    | ok result =>
      simpa only [step, made] using passes_admitSession (fun r =>
        .inr ⟨_, Roster.createWebSocket_eq r sink remote srv.now⟩) made
  | acceptStream stream remote =>
    cases accepted : srv.acceptStream stream remote with
    | error e => simpa only [step, accepted] using .refl srv
    | ok result => simpa only [step, accepted] using passes_acceptStream accepted
  | submit id message transport => exact passes_submit rfl message transport
  | process request => exact passes_process srv request
  | shardStep shard => exact passes_shardStep srv shard
  | close id reason => exact passes_close srv id reason
  | closeAll reason => exact passes_closeAll srv reason
  | start => exact .aside (.refl _) rfl rfl
  | stop => exact .aside (.refl _) rfl rfl

theorem passes_addTunnel (srv : Server) (id : SessionId) (channel : TunnelChannel) :
    Passes heard read fed srv (srv.addTunnel id channel).1 := by
  unfold addTunnel
  split
  · exact .refl srv
  · rename_i roster added
    dsimp only
    split
    · exact .of_shift (.tunnel added) rfl rfl
    · exact .of_shift (.tunnel added) rfl rfl

/-- An incident passes by everyone that it has nothing to do with. -/
theorem passes_undergo (srv : Server) (incident : Incident) :
    Passes (srv.Asks incident) (srv.Reads incident) incident.Feeds srv (srv.undergo incident) := by
  cases incident with
  | operation operation => exact passes_step srv operation
  | addTunnel id channel => exact passes_addTunnel srv id channel
  | write worker => exact passes_writerStep srv worker
  | writable id => exact passes_streamWritable srv id
  | elapse now => exact .aside (.refl _) rfl rfl
  | stream id data =>
    have feeds : (Incident.stream id data).Feeds id := rfl
    have reads : srv.Reads (.stream id data) id := rfl
    exact passes_streamReceived reads feeds srv data
  | webSocket id data => exact passes_webSocketReceived rfl srv data
  | datagram peer data => exact passes_datagramReceived (fun _ leads => leads) data
  | fetch id => exact passes_fetchTunnel rfl srv
  | peerSend id data => exact passes_useTunnel rfl _
  | peerFlush id => exact passes_useTunnel rfl _

/-- What is said to come in is what a reader submits. -/
theorem submits_undergo {incident : Incident} {transport : TransportKind}
    (reader : incident.reader? = some (transport, id)) (srv : Server) :
    Submits id srv (srv.incoming id incident) (srv.undergo incident) := by
  cases incident with
  | stream read data =>
    cases reader
    cases active : srv.roster.isActive id with
    | false => simpa [incoming, undergo, active, streamReceived_of_inactive active] using .done srv
    | true => simpa [incoming, undergo, active] using submits_streamReceived active data
  | webSocket read data =>
    cases reader
    cases active : srv.roster.isActive id with
    | false => simpa [incoming, undergo, webSocketReceived, active] using .done srv
    | true => simpa [incoming, undergo, active] using submits_webSocketReceived active data
  | fetch read =>
    cases reader
    simpa [incoming, undergo] using submits_fetchTunnel srv id
  | _ => cases reader

/-- Nothing comes in on a session that is not read from. -/
theorem incoming_of_unread {incident : Incident} (unread : ¬ srv.Reads incident id) :
    srv.incoming id incident = [] := by
  cases incident with
  | stream read data => exact if_neg fun own => unread own.1
  | webSocket read data => exact if_neg fun own => unread own.1
  | fetch read => exact if_neg unread
  | datagram peer data =>
    simp only [incoming]
    split
    · rfl
    · exact if_neg fun own => unread own.2.2
  | _ => rfl

/-- What every incident keeps holds after a run if it did before. -/
theorem undergoAll_preserves {P : Server → Prop}
    (step : ∀ srv incident, P srv → P (srv.undergo incident)) (start : P srv)
    (incidents : List Incident) : P (srv.undergoAll incidents) := by
  induction incidents generalizing srv with
  | nil => exact start
  | cons incident rest ih => exact ih (step srv incident start)

theorem Throughout.mono {P Q : Server → Incident → Prop} {incidents : List Incident}
    (throughout : srv.Throughout P incidents)
    (weaker : ∀ srv incident, P srv incident → Q srv incident) : srv.Throughout Q incidents := by
  induction incidents generalizing srv with
  | nil => trivial
  | cons incident rest ih => exact ⟨weaker srv incident throughout.1, ih throughout.2⟩

theorem Passes.readerOf (passes : Passes heard read fed srv srv') (present : srv.session? id ≠ none)
    (unfed : ¬ fed id) : srv'.readerOf id = srv.readerOf id := by
  rw [Server.readerOf, Server.readerOf, passes.codec, passes.readers id present unfed]

end Server

end SessionNet
