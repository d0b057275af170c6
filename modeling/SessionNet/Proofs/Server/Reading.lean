import Mathlib.Data.List.Induction
import SessionNet.Proofs.Server.Changes
import SessionNet.Proofs.Server.StreamReading
import SessionNet.Proofs.Session.Intake

/-!
# What a server submits

Whatever way messages come in on a session, a reader counts what it reads, notes the activity and
submits every message that it can open, up to the first fault, which closes the session (`Submits`).
Neither which messages these are nor the fault depends on what becomes of a message that was
submitted.
-/

namespace SessionNet

/-- Count bytes and messages that were read, and messages that were refused. -/
def Session.countIn (bytes messages refused : Nat) (s : Session) : Session :=
  { s with counters := { s.counters with
      bytesRead := s.counters.bytesRead + bytes
      messagesRead := s.counters.messagesRead + messages
      requestsDropped := s.counters.requestsDropped + refused } }

def Intake.countIn (bytes messages refused : Nat) (a : Intake) : Intake :=
  { a with
    bytesRead := a.bytesRead + bytes
    messagesRead := a.messagesRead + messages
    requestsDropped := a.requestsDropped + refused }

/-- The messages that are decoded one after the other, up to the first that fails. -/
def CodecConfig.decodeEach (c : CodecConfig) : List Bytes → List Message
  | [] => []
  | data :: rest =>
    match c.decode data with
    | .error _ => []
    | .ok message => message :: c.decodeEach rest

namespace Server

variable {srv srv' : Server} {id other : SessionId} {data : Bytes} {message : Message} {a : Intake}

/-! ## Messages one after the other -/

/-- Submit messages of a session, one after the other. -/
def submitEach (srv : Server) (id : SessionId) (transport : TransportKind)
    (messages : List Message) : Server :=
  messages.foldl (fun srv message => (srv.submit id message transport).1) srv

/-- Read so many bytes on a session, and submit the messages that are in them. -/
def takeIn (srv : Server) (id : SessionId) (count : Nat) (transport : TransportKind)
    (messages : List Message) : Server :=
  ((srv.recordRead id count).touch id).submitEach id transport messages

/-- A message that a full shard refuses is counted as such, and that is all. -/
theorem submit_of_refused {s : Session} {shard : Nat} (hs : srv.session? id = some s)
    (transport : TransportKind)
    (full : srv.dispatcher.enqueue ⟨.session id, requestKind s.association message, transport⟩ =
      .error (.requestQueueFull shard)) :
    srv.submit id message transport =
      (srv.update id (Session.countIn 0 1 1), .error (.requestQueueFull shard)) := by
  unfold submit
  simp only [hs, full, update, Roster.update, List.modify_modify_eq]
  rfl

/-- A message that is submitted is counted, and goes to the dispatcher or is counted as refused. -/
theorem exists_submit_eq_countIn (srv : Server) (id : SessionId) (message : Message)
    (transport : TransportKind) :
    ∃ refused dispatcher, (srv.submit id message transport).1 =
      { srv.update id (Session.countIn 0 1 refused) with dispatcher } := by
  cases hs : srv.session? id with
  | none =>
    have fixed : srv.roster.update id (Session.countIn 0 1 0) = srv.roster :=
      Roster.update_of_fixed fun _ present => nomatch hs.symm.trans present
    refine ⟨0, srv.dispatcher, ?_⟩
    simp only [submit, hs, update, fixed]
  | some s =>
    have counted : (srv.update id Session.recordMessage).dispatcher = srv.dispatcher := rfl
    cases accepted : srv.dispatcher.enqueue
        ⟨.session id, requestKind s.association message, transport⟩ with
    | ok dispatcher =>
      refine ⟨0, dispatcher, ?_⟩
      simp only [submit, hs, counted, accepted]
      rfl
    | error e =>
      by_cases full : ∃ shard, e = .requestQueueFull shard
      · obtain ⟨shard, rfl⟩ := full
        rw [submit_of_refused hs transport accepted]
        exact ⟨1, srv.dispatcher, rfl⟩
      · refine ⟨0, srv.dispatcher, ?_⟩
        simp only [submit, hs, counted, accepted]
        split
        · exact absurd ⟨_, rfl⟩ full
        · rfl

theorem supply_submit (srv : Server) (id : SessionId) (message : Message)
    (transport : TransportKind) : (srv.submit id message transport).1.supply = srv.supply := by
  obtain ⟨refused, dispatcher, submitted⟩ := srv.exists_submit_eq_countIn id message transport
  rw [submitted]
  rfl

/-- What reading changes: counters and the time of the last activity, and the dispatcher. -/
theorem exists_takeIn_eq (srv : Server) (id : SessionId) (count : Nat) (transport : TransportKind)
    (messages : List Message) :
    ∃ refused dispatcher, srv.takeIn id count transport messages =
      { srv.update id fun s => (s.countIn count messages.length refused).touch srv.now with
        dispatcher } := by
  unfold takeIn submitEach
  -- the last message is submitted to a server that has taken in all the others
  induction messages using List.reverseRecOn with
  | nil =>
    refine ⟨0, srv.dispatcher, ?_⟩
    simp only [List.foldl_nil, recordRead, touch, update, Roster.update, List.modify_modify_eq]
    rfl
  | append_singleton messages message ih =>
    obtain ⟨refused, dispatcher, before⟩ := ih
    obtain ⟨more, after, submitted⟩ := exists_submit_eq_countIn
      { srv.update id fun s => (s.countIn count messages.length refused).touch srv.now with
        dispatcher } id message transport
    refine ⟨refused + more, after, ?_⟩
    have counted : ∀ s : Session,
        (((s.countIn count messages.length refused).touch srv.now).countIn 0 1 more) =
          (s.countIn count (messages ++ [message]).length (refused + more)).touch srv.now := by
      intro s
      simp [Session.countIn, Session.touch, Nat.add_assoc]
    rw [List.foldl_append, List.foldl_cons, List.foldl_nil, before, submitted]
    simp only [update, Roster.update, List.modify_modify_eq, Function.comp_def, counted]

theorem session?_takeIn_of_ne (srv : Server) (count : Nat) (transport : TransportKind)
    (messages : List Message) (differs : other ≠ id) :
    (srv.takeIn id count transport messages).session? other = srv.session? other := by
  obtain ⟨refused, dispatcher, taken⟩ := srv.exists_takeIn_eq id count transport messages
  rw [taken]
  exact Roster.session?_update_of_ne differs

/-- Reading counts what was read, and changes nothing else that reading is about. -/
theorem intake?_takeIn (shown : srv.roster.intake? id = some a) (count : Nat)
    (transport : TransportKind) (messages : List Message) :
    ∃ refused, (srv.takeIn id count transport messages).roster.intake? id =
      some (a.countIn count messages.length refused) := by
  obtain ⟨refused, dispatcher, taken⟩ := srv.exists_takeIn_eq id count transport messages
  refine ⟨refused, ?_⟩
  rw [taken]
  refine Roster.intake?_update_of_shown shown ?_
  rintro s rfl
  rfl

theorem isActive_takeIn (srv : Server) (id : SessionId) (count : Nat) (transport : TransportKind)
    (messages : List Message) (other : SessionId) :
    (srv.takeIn id count transport messages).roster.isActive other =
      srv.roster.isActive other := by
  obtain ⟨refused, dispatcher, taken⟩ := srv.exists_takeIn_eq id count transport messages
  rw [taken]
  simp only [Roster.isActive_eq_standing]
  exact congrArg (Option.any _) (Roster.standing?_update_keeping fun _ => rfl)

/-! ## Streams -/

/-- What is submitted is what the reader finds, whatever becomes of each message. -/
theorem submitFrames_eq (srv : Server) (id : SessionId) (reader : StreamReader) :
    srv.submitFrames id reader =
      ⟨srv.submitEach id .tcp (reader.yield srv.supply.codec).messages,
        (reader.yield srv.supply.codec).reader,
        match (reader.yield srv.supply.codec).fault with
        | some e => .error e
        | none => .ok ()⟩ := by
  fun_induction submitFrames srv id reader with
  | case1 srv reader decoder unread e hdecode => rw [StreamReader.yield_of_misframed hdecode]; rfl
  | case2 srv reader decoder unread hdecode => rw [StreamReader.yield_of_waiting hdecode]; rfl
  | case3 srv reader decoder unread wire hdecode e hopen =>
    rw [StreamReader.yield_of_unopened hdecode hopen]
    rfl
  | case4 srv reader decoder unread wire hdecode message hopen ih =>
    rw [ih, StreamReader.yield_of_message hdecode hopen, supply_submit]
    rfl

/-- What comes of bytes that arrive on the stream of a session. -/
def streamYield (srv : Server) (id : SessionId) (data : Bytes) : Yield :=
  ((srv.readerOf id).take data).yield srv.supply.codec

/-- Bytes on the stream of an active session are counted, the messages in them are submitted, and a
fault closes the session. -/
theorem streamReceived_eq (active : srv.roster.isActive id = true) (data : Bytes) :
    srv.streamReceived id data =
      let read := (srv.takeIn id data.length .tcp (srv.streamYield id data).messages).keepReader id
        (srv.streamYield id data).reader
      if (srv.streamYield id data).fault = none then read
      else (read.close id .protocolViolation).2 := by
  have fed : ((srv.recordRead id data.length).touch id).feedStream id data =
      ((srv.takeIn id data.length .tcp (srv.streamYield id data).messages).keepReader id
          (srv.streamYield id data).reader,
        match (srv.streamYield id data).fault with
        | some e => .error e
        | none => .ok ()) := by
    unfold feedStream
    dsimp only
    rw [submitFrames_eq]
    rfl
  unfold streamReceived
  simp only [active, Bool.not_true, Bool.false_eq_true, if_false, fed]
  cases (srv.streamYield id data).fault <;> rfl

/-- Bytes on the stream of a closed session are not even counted. -/
theorem streamReceived_of_inactive (inactive : srv.roster.isActive id = false) (data : Bytes) :
    srv.streamReceived id data = srv := by
  simp [streamReceived, inactive]

/-! ## Whole messages and tunnels -/

/-- A message that decodes is submitted on its own. -/
theorem webSocketReceived_eq (active : srv.roster.isActive id = true)
    (decoded : srv.supply.codec.decode data = .ok message) :
    (srv.webSocketReceived id data).1 = srv.takeIn id data.length .webSocket [message] := by
  have same : (srv.recordRead id data.length).supply = srv.supply := rfl
  unfold webSocketReceived
  simp only [active, Bool.not_true, Bool.false_eq_true, if_false, same, decoded]
  rfl

/-- The messages that arrived through a tunnel are read one after the other. -/
theorem tunnelReceived_cons {rest : List Bytes}
    (decoded : srv.supply.codec.decode data = .ok message) :
    srv.tunnelReceived id (data :: rest) =
      ((srv.update id (·.leaveInTunnel rest)).takeIn id data.length .udp [message]).tunnelReceived
        id rest := by
  have same : ((srv.update id (·.leaveInTunnel rest)).recordRead id data.length).supply =
    srv.supply := rfl
  rw [tunnelReceived]
  simp only [same, decoded]
  rfl

/-- The messages that polling the tunnel of a session takes in. -/
def fetchable (srv : Server) (id : SessionId) : List Bytes :=
  match srv.session? id with
  | none => []
  | some s =>
    match s.tunnel? with
    | none => []
    | some channel =>
      if !s.isActive || channel.tunnel.closed then [] else channel.tunnel.near.inbox

theorem fetchTunnel_snd (srv : Server) (id : SessionId) :
    (srv.fetchTunnel id).2 = (srv.tunnelReceived id (srv.fetchable id)).2 := by
  unfold fetchTunnel fetchable
  cases srv.session? id with
  | none => rfl
  | some s =>
    dsimp only
    cases s.tunnel? with
    | none => rfl
    | some channel =>
      dsimp only
      split <;> rfl

/-! ## Readers -/

/-- What a reader does with a session: it counts bytes, notes the activity, keeps what is left for
later and submits these messages, in this order; a fault is the last thing that happens. -/
inductive Submits (id : SessionId) : Server → List (TransportKind × Message) → Server → Prop
  | done (srv : Server) : Submits id srv [] srv
  | count {srv srv' : Server} {messages : List (TransportKind × Message)} (bytes : Nat)
      (later : Submits id (srv.recordRead id bytes) messages srv') : Submits id srv messages srv'
  | touch {srv srv' : Server} {messages : List (TransportKind × Message)}
      (later : Submits id (srv.touch id) messages srv') : Submits id srv messages srv'
  | keep {srv srv' : Server} {messages : List (TransportKind × Message)} (reader : StreamReader)
      (later : Submits id (srv.keepReader id reader) messages srv') : Submits id srv messages srv'
  | leave {srv srv' : Server} {messages : List (TransportKind × Message)} (inbox : List Bytes)
      (later : Submits id (srv.update id (·.leaveInTunnel inbox)) messages srv') :
      Submits id srv messages srv'
  | submit {srv srv' : Server} {messages : List (TransportKind × Message)}
      (transport : TransportKind) (message : Message)
      (later : Submits id (srv.submit id message transport).1 messages srv') :
      Submits id srv ((transport, message) :: messages) srv'
  | fault (srv : Server) : Submits id srv [] (srv.close id .protocolViolation).2

theorem Submits.takeIn {transport : TransportKind} {messages : List Message}
    {more : List (TransportKind × Message)} (count : Nat)
    (later : Submits id (srv.takeIn id count transport messages) more srv') :
    Submits id srv (messages.map (transport, ·) ++ more) srv' := by
  have each : ∀ srv : Server, Submits id (srv.submitEach id transport messages) more srv' →
      Submits id srv (messages.map (transport, ·) ++ more) srv' := by
    clear later
    intro srv later
    induction messages generalizing srv with
    | nil => exact later
    | cons message rest ih => exact .submit transport message (ih _ later)
  exact .count count (.touch (each _ later))

/-- Of the bytes of a stream the messages are submitted that can be read. -/
theorem submits_streamReceived (active : srv.roster.isActive id = true) (data : Bytes) :
    Submits id srv ((srv.streamYield id data).messages.map (.tcp, ·))
      (srv.streamReceived id data) := by
  rw [streamReceived_eq active, ← List.append_nil (List.map _ _)]
  dsimp only
  split
  · exact .takeIn data.length (.keep _ (.done _))
  · exact .takeIn data.length (.keep _ (.fault _))

theorem submits_webSocketReceived (active : srv.roster.isActive id = true) (data : Bytes) :
    Submits id srv ((srv.supply.codec.decodeEach [data]).map (.webSocket, ·))
      (srv.webSocketReceived id data).1 := by
  have same : (srv.recordRead id data.length).supply = srv.supply := rfl
  unfold webSocketReceived
  simp only [active, Bool.not_true, Bool.false_eq_true, if_false, same, CodecConfig.decodeEach]
  cases srv.supply.codec.decode data with
  | error e => exact .count data.length (.fault _)
  | ok message => exact .count data.length (.touch (.submit .webSocket message (.done _)))

theorem submits_tunnelReceived (inbox : List Bytes) (srv : Server) :
    Submits id srv ((srv.supply.codec.decodeEach inbox).map (.udp, ·))
      (srv.tunnelReceived id inbox).2 := by
  induction inbox generalizing srv with
  | nil => exact .done srv
  | cons data rest ih =>
    have same : ((srv.update id (·.leaveInTunnel rest)).recordRead id data.length).supply =
      srv.supply := rfl
    unfold tunnelReceived CodecConfig.decodeEach
    simp only [same]
    cases srv.supply.codec.decode data with
    | error e => exact .leave rest (.count data.length (.fault _))
    | ok message =>
      refine .leave rest (.count data.length (.touch (.submit .udp message ?_)))
      have later := ih
        ((((srv.update id (·.leaveInTunnel rest)).recordRead id data.length).touch id).submit id
          message .udp).1
      rwa [supply_submit] at later

theorem submits_fetchTunnel (srv : Server) (id : SessionId) :
    Submits id srv ((srv.supply.codec.decodeEach (srv.fetchable id)).map (.udp, ·))
      (srv.fetchTunnel id).2 := by
  rw [fetchTunnel_snd]
  exact submits_tunnelReceived (srv.fetchable id) srv

end Server

end SessionNet
