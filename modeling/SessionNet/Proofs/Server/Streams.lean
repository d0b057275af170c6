import SessionNet.Proofs.Server.Incidents

/-!
# Streams that are read

Bytes arrive on the stream of a session in reads of any size, between anything else that happens to
the server. As long as nobody else closes the session, the messages that its reader submits are
those of the valid prefix of all the bytes that arrived, and the session is closed once the prefix
ends with a fault. The invariant is that the reader is where a reader would be that had received all
the bytes at once (`Following`).
-/

namespace SessionNet.Server

variable {srv srv' opened : Server} {id : SessionId} {c : CodecConfig} {input : Bytes}
variable {was : Option CloseReason}

/-! ## What arrives and what is submitted -/

/-- The bytes that an incident brings on the stream of a session. -/
def bytesFor (id : SessionId) : Incident → Bytes
  | .stream fed data => if fed = id then data else []
  | _ => []

/-- All bytes that arrive on the stream of a session in the course of a run. -/
def arrived (id : SessionId) (incidents : List Incident) : Bytes := incidents.flatMap (bytesFor id)

theorem arrived_cons (id : SessionId) (incident : Incident) (rest : List Incident) :
    arrived id (incident :: rest) = bytesFor id incident ++ arrived id rest := rfl

theorem exists_of_feeds {incident : Incident} (feeds : incident.Feeds id) :
    ∃ data, incident = .stream id data := by
  cases incident <;> cases feeds
  exact ⟨_, rfl⟩

theorem bytesFor_of_unfed {incident : Incident} (unfed : ¬ incident.Feeds id) :
    bytesFor id incident = [] := by
  cases incident with
  | stream fed data => exact if_neg fun same => unfed (congrArg (fun id => some (_, id)) same)
  | _ => rfl

/-- The messages that came over a stream. -/
def overStream (messages : List (TransportKind × Message)) : List Message :=
  (messages.filter fun message => message.1 == .tcp).map (·.2)

/-- The messages that the reader of its stream submits on a session in the course of a run. -/
def streamed (srv : Server) (id : SessionId) (incidents : List Incident) : List Message :=
  overStream (srv.incomingAll id incidents)

/-- Nothing but what arrives on its stream closes a session. -/
abbrev Undisturbed (srv : Server) (id : SessionId) (incidents : List Incident) : Prop :=
  srv.Throughout (fun srv incident => ¬ incident.Feeds id → srv.Spares incident id) incidents

theorem overStream_append (messages more : List (TransportKind × Message)) :
    overStream (messages ++ more) = overStream messages ++ overStream more := by
  simp [overStream]

theorem streamed_cons (srv : Server) (id : SessionId) (incident : Incident)
    (rest : List Incident) : srv.streamed id (incident :: rest) =
      overStream (srv.incoming id incident) ++ (srv.undergo incident).streamed id rest :=
  overStream_append _ _

/-- What comes over a stream is what its reader finds while the session is open. -/
theorem overStream_incoming_stream (srv : Server) (id : SessionId) (data : Bytes) :
    overStream (srv.incoming id (.stream id data)) =
      if srv.roster.isActive id = true then (srv.streamYield id data).messages else [] := by
  simp only [incoming]
  cases srv.roster.isActive id with
  | false => simp [overStream]
  | true => simp [overStream, List.filter_map, Function.comp_def]

theorem overStream_incoming_of_unfed {incident : Incident} (unfed : ¬ incident.Feeds id) :
    overStream (srv.incoming id incident) = [] := by
  have none : ∀ (transport : TransportKind) (messages : List Message), transport ≠ .tcp →
      overStream (messages.map (transport, ·)) = [] := by
    intro transport messages other
    simp [overStream, List.filter_map, Function.comp_def, other]
  cases incident with
  | stream fed data =>
    have other : fed ≠ id := fun same => unfed (congrArg (fun id => some (_, id)) same)
    simp [incoming, other, overStream]
  | webSocket read data =>
    simp only [incoming]
    split
    · exact none .webSocket _ (by decide)
    · rfl
  | fetch read =>
    simp only [incoming]
    split
    · exact none .udp _ (by decide)
    · rfl
  | datagram peer data =>
    simp only [incoming]
    split
    · rfl
    · split <;> rfl
  | _ => rfl

/-! ## The invariant -/

/-- The reader of a session has come as far as one that received all this input at once; once there
was a fault the session is closed because of it, unless it had a reason to be closed before. -/
structure Following (c : CodecConfig) (id : SessionId) (was : Option CloseReason) (input : Bytes)
    (srv : Server) : Prop where
  codec : srv.supply.codec = c
  shown : ∃ a, srv.roster.intake? id = some a ∧
    a.isActive = (c.reading input).fault.isNone ∧
    a.closeReason? =
      (was <|> (c.reading input).fault.map fun _ => .protocolViolation)
  reader : (c.reading input).fault = none →
    srv.readerOf id = (c.reading input).reader

namespace Following

theorem isActive (following : Following c id was input srv) :
    srv.roster.isActive id = (c.reading input).fault.isNone := by
  obtain ⟨a, shown, active, -⟩ := following.shown
  exact (Roster.isActive_of_intake shown).trans active

/-- An incident that brings no bytes and leaves the session open if it is. -/
theorem aside (following : Following c id was input srv) {incident : Incident}
    (unfed : ¬ incident.Feeds id) (spares : srv.Spares incident id) :
    Following c id was input (srv.undergo incident) := by
  have passes := srv.passes_undergo incident
  obtain ⟨a, shown, active, reason⟩ := following.shown
  obtain ⟨b, after, lasts, -⟩ := passes.shifts.rests shown
  -- an open session is spared, and no session is opened again
  have same : b.isActive = a.isActive := by
    cases open_ : a.isActive with
    | true =>
      have spared := spares ((Roster.isActive_of_intake shown).trans open_)
      exact (Roster.isActive_of_intake after).symm.trans spared
    | false => exact Bool.eq_false_iff.mpr fun reopened =>
        Bool.eq_false_iff.mp open_ (lasts.active reopened)
  have present : srv.session? id ≠ none := by
    have found : srv.roster.intake? id ≠ none := by simp [shown]
    rwa [Ne, Roster.intake?_eq_none_iff] at found
  exact ⟨passes.codec.trans following.codec,
    ⟨b, after, same.trans active, (lasts.reason same).trans reason⟩,
    fun sound => (passes.readerOf present unfed).trans (following.reader sound)⟩

/-- Once there was a fault, bytes that arrive change nothing. -/
theorem stream_of_fault (following : Following c id was input srv) {e : NetError}
    (fault : (c.reading input).fault = some e) (data : Bytes) :
    Following c id was (input ++ data) (srv.streamReceived id data) ∧
      (c.reading (input ++ data)).messages =
        (c.reading input).messages ++ overStream (srv.incoming id (.stream id data)) := by
  have closed : srv.roster.isActive id = false := by
    rw [following.isActive, fault]
    rfl
  have ended : c.reading (input ++ data) =
      { c.reading input with reader := (c.reading input).reader.take data } := by
    rw [CodecConfig.reading_append]
    simp only [Yield.resume, fault]
  rw [streamReceived_of_inactive closed, overStream_incoming_stream, closed]
  refine ⟨⟨following.codec, ?_, ?_⟩, ?_⟩
  · rw [ended]
    exact following.shown
  · rw [ended, fault]
    nofun
  · rw [ended]
    simp

/-- As long as there was none, the reader goes on as one that received everything at once. -/
theorem reading_append (following : Following c id was input srv)
    (sound : (c.reading input).fault = none) (data : Bytes) :
    c.reading (input ++ data) =
      { srv.streamYield id data with
        messages := (c.reading input).messages ++ (srv.streamYield id data).messages } := by
  have found : srv.streamYield id data =
      ((c.reading input).reader.take data).yield c := by
    rw [streamYield, following.reader sound, following.codec]
  rw [CodecConfig.reading_append]
  simp only [Yield.resume, sound, found]

theorem isActive_of_sound (following : Following c id was input srv)
    (sound : (c.reading input).fault = none) : srv.roster.isActive id = true := by
  rw [following.isActive, sound]
  rfl

theorem stream_of_sound (following : Following c id was input srv)
    (sound : (c.reading input).fault = none) (data : Bytes) :
    Following c id was (input ++ data) (srv.streamReceived id data) ∧
      (c.reading (input ++ data)).messages =
        (c.reading input).messages ++ overStream (srv.incoming id (.stream id data)) := by
  have active := following.isActive_of_sound sound
  have grown := following.reading_append sound data
  obtain ⟨a, shown, open_, reason⟩ := following.shown
  rw [sound] at open_ reason
  obtain ⟨refused, counted⟩ :=
    intake?_takeIn shown data.length .tcp (srv.streamYield id data).messages
  refine ⟨⟨?_, ?_, ?_⟩, ?_⟩
  · exact ((srv.passes_undergo (.stream id data)).codec).trans following.codec
  · rw [grown, streamReceived_eq active]
    dsimp only
    cases (srv.streamYield id data).fault with
    | none =>
      rw [if_pos rfl]
      exact ⟨_, counted, open_, reason⟩
    | some e =>
      -- nothing but the fault gives a reason: until then it was the one from before
      rw [if_neg nofun, roster_close]
      obtain ⟨b, after, closed, because⟩ := Roster.intake?_close_of_active counted open_
      have before : (a.countIn data.length (srv.streamYield id data).messages.length
        refused).closeReason? = was := reason.trans (by simp)
      rw [before] at because
      exact ⟨b, after, closed, because⟩
  · rw [grown, streamReceived_eq active]
    dsimp only
    intro still
    rw [if_pos still, readerOf, lookup_keepReader_self]
    rfl
  · rw [grown, overStream_incoming_stream, if_pos active]

theorem undergo (following : Following c id was input srv) {incident : Incident}
    (spared : ¬ incident.Feeds id → srv.Spares incident id) :
    Following c id was (input ++ bytesFor id incident) (srv.undergo incident) ∧
      (c.reading (input ++ bytesFor id incident)).messages =
        (c.reading input).messages ++ overStream (srv.incoming id incident) := by
  by_cases feeds : incident.Feeds id
  · obtain ⟨data, rfl⟩ := exists_of_feeds feeds
    have brings : bytesFor id (.stream id data) = data := if_pos rfl
    rw [brings]
    cases fault : (c.reading input).fault with
    | none => exact following.stream_of_sound fault data
    | some e => exact following.stream_of_fault fault data
  · rw [bytesFor_of_unfed feeds, List.append_nil, overStream_incoming_of_unfed feeds,
      List.append_nil]
    exact ⟨following.aside feeds (spared feeds), rfl⟩

/-- The reader comes as far in the course of a run as one that receives everything at once. -/
theorem undergoAll (following : Following c id was input srv) (incidents : List Incident)
    (undisturbed : srv.Undisturbed id incidents) :
    Following c id was (input ++ arrived id incidents) (srv.undergoAll incidents) ∧
      (c.reading (input ++ arrived id incidents)).messages =
        (c.reading input).messages ++ srv.streamed id incidents := by
  induction incidents generalizing srv input with
  | nil =>
    have nothing : input ++ arrived id [] = input := List.append_nil input
    rw [nothing]
    exact ⟨following, (List.append_nil _).symm⟩
  | cons incident rest ih =>
    obtain ⟨now, first⟩ := following.undergo undisturbed.1
    obtain ⟨finally_, others⟩ := ih now undisturbed.2
    rw [arrived_cons, streamed_cons, ← List.append_assoc, others, first]
    exact ⟨finally_, List.append_assoc _ _ _⟩

end Following

/-- A session that was accepted and is open is at the start of its stream. -/
theorem following_acceptStream {stream : Stream} {remote : SocketAddress}
    (accepted : srv.acceptStream stream remote = .ok (id, opened))
    (active : opened.roster.isActive id = true) :
    Following opened.supply.codec id none [] opened := by
  obtain ⟨after, admitted, ended⟩ := acceptStream_eq_ok accepted
  have isNew := opened_admitSession (fun r => r.createSocket_cases stream remote srv.now) admitted
  have next := id_of_admitSession (fun r => r.createSocket_cases stream remote srv.now) admitted
  rcases ended with rfl | rfl
  · -- a session that is closed at once is not open
    rw [roster_close, Roster.isActive_close] at active
    simp at active
  · have standing : after.roster.standing? id = some ⟨.none, none, true, none, true⟩ := by
      rw [isNew.standing, if_pos next]
    obtain ⟨s, present, stands⟩ := Option.map_eq_some_iff.mp standing
    refine ⟨rfl, ⟨s.intake, congrArg (Option.map _) present, ?_, ?_⟩, fun _ => ?_⟩
    · rw [CodecConfig.reading_nil]
      exact congrArg Standing.isActive stands
    · rw [CodecConfig.reading_nil]
      exact congrArg Standing.closeReason? stands
    · rw [CodecConfig.reading_nil, readerOf, openReader, lookup_keepReader_self]
      rfl

/--
The reader of a stream delivers the valid prefix. Whatever bytes arrive on the stream of an accepted
session that nobody else closes, in whatever reads, what its reader submits are the messages of the
valid prefix of these bytes, in order and once each. The session is closed, for a violation of the
protocol, if and only if a fault ends the prefix. That every one of these messages is submitted and
nothing else is what each single read does; a submission that a full shard refuses is counted, and
that is all.
-/
theorem stream_delivers {stream : Stream} {remote : SocketAddress}
    (accepted : srv.acceptStream stream remote = .ok (id, opened))
    (active : opened.roster.isActive id = true) (incidents : List Incident)
    (undisturbed : opened.Undisturbed id incidents) :
    let codec := opened.supply.codec
    let later := opened.undergoAll incidents
    (∃ fault, codec.ValidPrefix (arrived id incidents) (opened.streamed id incidents) fault ∧
      (∀ messages fault', codec.ValidPrefix (arrived id incidents) messages fault' →
        messages = opened.streamed id incidents ∧ fault' = fault) ∧
      later.roster.isActive id = fault.isNone ∧
      (later.session? id).bind (·.closeReason?) = fault.map fun _ => .protocolViolation) ∧
    (∀ before data after, incidents = before ++ .stream id data :: after →
      let here := opened.undergoAll before
      Submits id here (here.incoming id (.stream id data)) (here.streamReceived id data)) ∧
    ∀ (here : Server) (s : Session) message shard, here.session? id = some s →
      here.dispatcher.enqueue ⟨.session id, requestKind s.association message, .tcp⟩ =
        .error (.requestQueueFull shard) →
      here.submit id message .tcp =
        (here.update id (Session.countIn 0 1 1), .error (.requestQueueFull shard)) := by
  intro codec later
  have start : Following codec id none [] opened := following_acceptStream accepted active
  obtain ⟨following, messages⟩ := start.undergoAll incidents undisturbed
  rw [CodecConfig.reading_nil, List.nil_append, List.nil_append] at messages
  rw [List.nil_append] at following
  refine ⟨⟨_, CodecConfig.validPrefix_iff.2 ⟨messages, rfl⟩, ?_, following.isActive, ?_⟩, ?_, ?_⟩
  · intro others fault' valid
    obtain ⟨rfl, rfl⟩ := CodecConfig.validPrefix_iff.1 valid
    exact ⟨messages, rfl⟩
  · obtain ⟨a, shown, -, reason⟩ := following.shown
    obtain ⟨s, present, rfl⟩ := Option.map_eq_some_iff.mp shown
    have found : later.session? id = some s := present
    rw [found]
    exact reason
  · intro before data after _ here
    exact submits_undergo rfl here
  · intro here s message shard present full
    exact submit_of_refused present .tcp full

/-- An empty message in two reads, then a byte that begins no frame, then the message again. -/
def interrupted : List Incident :=
  [.stream 0 [1, 0], .elapse 5, .stream 0 [2, 0x91, 0x80, 0xff], .stream 0 [1, 0, 2, 0x91, 0x80]]

/-- The message is submitted once, and the session is closed. -/
theorem stream_delivers_interrupted :
    ∃ opened, (blank {} RequestSender.number {}).acceptStream {} .loopback = .ok (0, opened) ∧
      opened.streamed 0 interrupted = [.empty] ∧
      (opened.undergoAll interrupted).roster.isActive 0 = false := by
  refine ⟨_, rfl, ?_⟩
  obtain ⟨⟨fault, -, unique, active, -⟩, -⟩ :=
    @stream_delivers (blank {} RequestSender.number {}) _ 0 {} .loopback rfl rfl
      interrupted ⟨fun unfed => absurd rfl unfed, fun _ active => active,
        fun unfed => absurd rfl unfed, fun unfed => absurd rfl unfed, trivial⟩
  have transmits : ({} : CodecConfig).Transmits .empty [1, 0, 2, 0x91, 0x80] :=
    CodecConfig.decode_eq_ok_iff.1 (by with_unfolding_all rfl)
  have broken : (({} : CodecConfig).frameDecoder.decode [0xff, 1, 0, 2, 0x91, 0x80]).outcome =
      .error (.invalidHeader 0xff) := by
    rw [FrameDecoder.decode_of_error rfl]
  have valid : ({} : CodecConfig).ValidPrefix (arrived 0 interrupted) [.empty]
      (some (.invalidHeader 0xff)) :=
    ⟨[[1, 0, 2, 0x91, 0x80]], _, rfl, .cons transmits .nil, .misframed broken⟩
  obtain ⟨messages, rfl⟩ := unique _ _ valid
  exact ⟨messages.symm, active⟩

end SessionNet.Server
