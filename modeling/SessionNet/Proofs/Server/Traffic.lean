import SessionNet.Proofs.PacketQueue
import SessionNet.Proofs.Server.Operations
import SessionNet.Proofs.Server.Serving
import SessionNet.Proofs.Server.Teardown
import SessionNet.Proofs.Session.Emissions

/-!
# Outbound traffic

Connections are opened and closed, packets are handed over for them, writers take their turns, and
streams take bytes again. Each of these is a sequence of moves; a move hands one packet to one
session, serves one session, or alters one session in a way that concerns neither what it has to
write nor what it has written.
-/

namespace SessionNet

/-- What brings packets to the writers, and what the writers and the connections do with them. -/
inductive Traffic where
  | openWebSocket (remote : SocketAddress)
  | acceptStream (remote : SocketAddress)
  | addDatagram (id : SessionId) (channel : DatagramChannel)
  | addTunnel (id : SessionId) (tunnel : UInt32)
  /-- From now on the stream of a session behaves like this. -/
  | behave (id : SessionId) (script : List WriteOutcome)
  /-- The other side of a channel of whole messages and of a tunnel goes away. -/
  | hangUp (id : SessionId)
  /-- From now on datagrams fare like this. -/
  | route (script : List DatagramOutcome) (otherwise : DatagramOutcome)
  | startWriters
  | send (id : SessionId) (message : Message)
  | sendDatagram (id : SessionId) (message : Message)
  | sendPacket (id : SessionId) (packet : Packet)
  | multicast (recipients : List SessionId) (packet : Packet)
  | writerStep (worker : Nat)
  | streamWritable (id : SessionId)
  | close (id : SessionId) (reason : CloseReason)

/-- What an event hands over to a session. Messages are sent without asking for encryption. -/
def Traffic.Hands (format : Format) (id : SessionId) (packet : Packet) : Traffic → Prop
  | .send target message => target = id ∧ packet.payload = message.serialize format ∧
      packet.transport = .tcp ∧ packet.encrypted = false
  | .sendDatagram target message => target = id ∧ packet.payload = message.serialize format ∧
      packet.transport = .udp ∧ packet.encrypted = false
  | .sendPacket target given => id ∈ given.recipients?.getD [target] ∧
      packet = { given with recipients? := none }
  | .multicast recipients given => id ∈ recipients ∧ packet = given
  | _ => False

namespace Session

def hangUp (s : Session) : Session :=
  { s with
    transport :=
      match s.transport with
      | .webSocket sink => .webSocket sink.dropReceiver
      | other => other
    tunnel? := s.tunnel?.map fun channel => { channel with tunnel := channel.tunnel.close } }

/-- A session that has nothing to write and has written nothing. -/
structure Fresh (s : Session) : Prop where
  queue : s.queue.packets = []
  pending : s.pending? = none
  scheduled : s.writeScheduled = false
  wire : s.wire = []
  messages : s.messagesOut = []

/-- What a session has to write and has written stays, or is no longer there to be received. -/
structure Altered (s t : Session) : Prop where
  active : t.isActive = s.isActive
  queue : t.queue = s.queue
  pending : t.pending? = s.pending?
  scheduled : t.writeScheduled = s.writeScheduled
  awaits : t.awaitsWritable = s.awaitsWritable
  wire : t.wire = s.wire
  messages : t.messagesOut ⊆ s.messagesOut

theorem altered_behave (s : Session) (script : List WriteOutcome) :
    s.Altered (Outflow.behave s script) := by
  unfold Outflow.behave
  cases htransport : s.transport with
  | socket stream =>
    refine ⟨rfl, rfl, rfl, rfl, rfl, ?_, ?_⟩
    · simp only [wire, htransport]
    · simp [messagesOut, htransport]
  | detached => exact ⟨rfl, rfl, rfl, rfl, rfl, rfl, List.Subset.refl _⟩
  | webSocket sink => exact ⟨rfl, rfl, rfl, rfl, rfl, rfl, List.Subset.refl _⟩

theorem altered_hangUp (s : Session) : s.Altered s.hangUp := by
  have tunnel : (s.tunnel?.map fun channel => { channel with tunnel := channel.tunnel.close }).elim []
      (fun channel => channel.tunnel.near.outbox ++ channel.tunnel.far.inbox) =
        s.tunnel?.elim [] fun channel =>
          channel.tunnel.near.outbox ++ channel.tunnel.far.inbox := by
    cases s.tunnel? <;> rfl
  refine ⟨rfl, rfl, rfl, rfl, rfl, ?_, ?_⟩
  · unfold hangUp wire
    cases s.transport <;> rfl
  · unfold hangUp messagesOut
    simp only [tunnel]
    cases s.transport with
    | detached => exact List.Subset.refl _
    | socket stream => exact List.Subset.refl _
    | webSocket sink => exact List.subset_append_right _ _

theorem altered_datagram (s : Session) (channel : DatagramChannel) :
    s.Altered { s with datagram? := some channel } :=
  ⟨rfl, rfl, rfl, rfl, rfl, rfl, List.Subset.refl _⟩

/-- A tunnel that nothing was sent through adds nothing. -/
theorem altered_tunnel {s : Session} (free : s.tunnel? = none) (tunnel : UInt32) :
    s.Altered { s with tunnel? := some ⟨tunnel, {}⟩ } := by
  refine ⟨rfl, rfl, rfl, rfl, rfl, rfl, ?_⟩
  simp [messagesOut, free]

/-- A packet is queued among those that wait, or refused, which shows in the counters at most. -/
theorem enqueue_cases (s : Session) (packet : Packet) :
    (∃ e t, s.enqueue packet = (t, .error e) ∧ s.Altered t) ∨
      ∃ queue, s.enqueue packet = ({ s with queue }, .ok ()) ∧
        ∀ other ∈ queue.packets, other = packet ∨ other ∈ s.queue.packets := by
  unfold enqueue
  split
  · exact .inl ⟨_, s, rfl, rfl, rfl, rfl, rfl, rfl, rfl, List.Subset.refl _⟩
  · cases hput : s.queue.put packet with
    | error fault =>
      exact .inl ⟨_, s.recordDropped, rfl, rfl, rfl, rfl, rfl, rfl, rfl, List.Subset.refl _⟩
    | ok queue =>
      refine .inr ⟨queue, rfl, ?_⟩
      intro other member
      obtain ⟨-, -, rfl⟩ := PacketQueue.put_eq_ok.mp hput
      exact PacketQueue.eq_or_mem_of_mem_insertSorted member

end Session

namespace Server

/-- The server after an event; one that fails leaves it as it was. -/
def carry (srv : Server) : Traffic → Server
  | .openWebSocket remote =>
    match srv.createWebSocket {} remote with
    | .ok (_, srv) => srv
    | .error _ => srv
  | .acceptStream remote =>
    match srv.acceptStream {} remote with
    | .ok (_, srv) => srv
    | .error _ => srv
  | .addDatagram id channel => srv.addDatagram id channel
  | .addTunnel id tunnel => (srv.addTunnel id ⟨tunnel, {}⟩).1
  | .behave id script => srv.update id (Outflow.behave · script)
  | .hangUp id => srv.update id Session.hangUp
  | .route script otherwise =>
    { srv with supply := { srv.supply with port := { srv.supply.port with script, otherwise } } }
  | .startWriters => srv.startWriters
  | .send id message => (srv.send id message).1
  | .sendDatagram id message => (srv.sendDatagram id message).1
  | .sendPacket id packet => (srv.sendPacket id packet).1
  | .multicast recipients packet => (srv.multicast recipients packet).1
  | .writerStep worker => srv.writerStep worker
  | .streamWritable id => srv.streamWritable id
  | .close id reason => (srv.close id reason).2

/-- The server after events in order. -/
def carryAll (srv : Server) (events : List Traffic) : Server := events.foldl carry srv

/-! ## Moves -/

/-- One session is altered, if it is there, and nothing else that writing depends on. -/
structure AltersOne (id : SessionId) (f : Session → Session) (srv srv' : Server) : Prop where
  sessions : srv'.roster.sessions = srv.roster.sessions.modify id f
  altered : ∀ s, srv.session? id = some s → s.Altered (f s)
  writers : srv'.writers = srv.writers
  supply : srv'.supply = srv.supply

namespace AltersOne

variable {id other : SessionId} {f : Session → Session} {srv srv' : Server}

theorem session?_self (alters : AltersOne id f srv srv') :
    srv'.session? id = (srv.session? id).map f := by
  simp [session?, Roster.session?, alters.sessions]

theorem session?_of_ne (alters : AltersOne id f srv srv') (differs : other ≠ id) :
    srv'.session? other = srv.session? other := by
  simp [session?, Roster.session?, alters.sessions, Ne.symm differs]

end AltersOne

/-- The session that another one was added to is at the end. -/
theorem session?_of_append {srv srv' : Server} {s : Session}
    (sessions : srv'.roster.sessions = srv.roster.sessions ++ [s]) (other : SessionId) :
    srv'.session? other =
      if other = srv.roster.sessions.length then some s else srv.session? other :=
  Roster.session?_of_append sessions other

theorem Everywhere.alters {R : SessionId → Session → Prop} {srv srv' : Server} {id : SessionId}
    {f : Session → Session} (everywhere : srv.Everywhere R) (alters : AltersOne id f srv srv')
    (here : ∀ s, s.Altered (f s) → R id s → R id (f s)) : srv'.Everywhere R := by
  intro other t ht
  by_cases same : other = id
  · subst same
    rw [alters.session?_self] at ht
    rcases Option.map_eq_some_iff.mp ht with ⟨s, hs, rfl⟩
    exact here s (alters.altered s hs) (everywhere other s hs)
  · rw [alters.session?_of_ne same] at ht
    exact everywhere other t ht

theorem Everywhere.opening {R : SessionId → Session → Prop} {srv srv' : Server} {s : Session}
    (everywhere : srv.Everywhere R) (sessions : srv'.roster.sessions = srv.roster.sessions ++ [s])
    (here : R srv.roster.sessions.length s) : srv'.Everywhere R := by
  intro other t ht
  rw [session?_of_append sessions] at ht
  split at ht
  · rename_i new
    rcases Option.some.inj ht with rfl
    exact new ▸ here
  · exact everywhere other t ht

/-- A packet that is accepted is queued and its session scheduled; a refusal alters the session. -/
theorem enqueueAndSchedule_cases (srv : Server) (id : SessionId) (packet : Packet) :
    (∃ f, AltersOne id f srv (srv.enqueueAndSchedule id packet).1) ∨
      ∃ s queue, srv.session? id = some s ∧
        (∀ other ∈ queue.packets, other = packet ∨ other ∈ s.queue.packets) ∧
        (srv.enqueueAndSchedule id packet).1 =
          (srv.update id fun _ => { s with queue }).schedule id := by
  unfold enqueueAndSchedule enqueue
  cases hs : srv.session? id with
  | none =>
    refine .inl ⟨fun s => s, List.modify_id _ _ |>.symm, ?_, rfl, rfl⟩
    intro s present
    cases hs.symm.trans present
  | some s =>
    rcases s.enqueue_cases packet with ⟨e, t, refused, altered⟩ | ⟨queue, queued, members⟩
    · -- the session is replaced by one that counts the packet as dropped
      simp only [refused]
      refine .inl ⟨fun _ => t, rfl, ?_, rfl, rfl⟩
      intro u present
      rcases Option.some.inj (hs.symm.trans present) with rfl
      exact altered
    · simp only [queued]
      exact .inr ⟨s, queue, rfl, members, rfl⟩

/-- Neither a session nor a run queue changes, nor what the writers encode with or have sent. -/
structure Aside (srv srv' : Server) : Prop where
  sessions : srv'.roster.sessions = srv.roster.sessions
  queues : srv'.writers.queues = srv.writers.queues
  budget : srv'.writers.budget = srv.writers.budget
  phase : srv'.writers.phase = .stopped → srv.writers.phase = .stopped
  codec : srv'.supply.codec = srv.supply.codec
  sent : srv'.supply.port.sent = srv.supply.port.sent

/-- The parts that events are made of. -/
inductive Carried (handed : SessionId → Packet → Prop) : Server → Server → Prop
  | aside {srv srv' : Server} (aside : Aside srv srv') : Carried handed srv srv'
  | opening {srv srv' : Server} {s : Session} (fresh : s.Fresh)
      (sessions : srv'.roster.sessions = srv.roster.sessions ++ [s])
      (writers : srv'.writers = srv.writers) (supply : srv'.supply = srv.supply) :
      Carried handed srv srv'
  | alter {srv srv' : Server} {id : SessionId} {f : Session → Session}
      (alters : AltersOne id f srv srv') : Carried handed srv srv'
  | hand (srv : Server) {id : SessionId} {packet : Packet} (given : handed id packet) :
      Carried handed srv (srv.enqueueAndSchedule id packet).1
  | serve (srv : Server) (worker : Nat) : Carried handed srv (srv.writerStep worker)
  | writable (srv : Server) (id : SessionId) : Carried handed srv (srv.streamWritable id)
  | close (srv : Server) (id : SessionId) (reason : CloseReason) :
      Carried handed srv (srv.close id reason).2

/-- A sequence of moves. -/
abbrev Carries (handed : SessionId → Packet → Prop) : Server → Server → Prop :=
  Relation.ReflTransGen (Carried handed)

section Carries

variable {handed : SessionId → Packet → Prop} {srv srv' : Server} {id : SessionId}
variable {remote : SocketAddress}

theorem Carries.preserves {P : Server → Prop} (carries : Carries handed srv srv')
    (hmove : ∀ a b, Carried handed a b → P a → P b) (h : P srv) : P srv' := by
  induction carries with
  | refl => exact h
  | tail _ move ih => exact hmove _ _ move ih

/-- A session that is registered with a transport that nothing was written to. -/
theorem carries_admitSession {create : Roster → Except NetError (SessionId × Roster)}
    {transport : Transport} (unused : transport = .webSocket {} ∨ transport = .socket {})
    (creates : ∀ r, create r =
      .ok (r.register { r.freshSession (some remote) srv.now with transport }))
    (admitted : srv.admitSession remote create = .ok (id, srv')) : Carried handed srv srv' := by
  obtain ⟨filter, roster, -, made, rfl⟩ := admitSession_eq_ok admitted
  cases (creates _).symm.trans made
  refine .opening (s := { ({ ({ srv.roster with filter } : Roster).freshSession (some remote)
    srv.now with transport } : Session).activate with holdsSlot := true }) ?_ ?_ rfl rfl
  · rcases unused with rfl | rfl <;> exact ⟨rfl, rfl, rfl, rfl, rfl⟩
  · -- the session that takes the slot is the one at the end
    simp [Roster.update, List.modify_eq_take_drop]

theorem carries_createWebSocket (made : srv.createWebSocket {} remote = .ok (id, srv')) :
    Carries handed srv srv' :=
  .single (carries_admitSession (.inl rfl)
    (fun r => Roster.createWebSocket_eq r {} remote srv.now) made)

theorem carries_acceptStream (accepted : srv.acceptStream {} remote = .ok (id, srv')) :
    Carries handed srv srv' := by
  rcases acceptStream_eq_ok accepted with ⟨after, admitted, ended⟩
  have first : Carries handed srv after :=
    .single (carries_admitSession (.inr rfl)
      (fun r => Roster.createSocket_eq r {} remote srv.now) admitted)
  rcases ended with rfl | rfl
  · exact first.tail (.close after id .shutdown)
  · exact first.tail (.aside ⟨rfl, rfl, rfl, fun stopped => stopped, rfl, rfl⟩)

theorem carries_addDatagram (srv : Server) (id : SessionId) (channel : DatagramChannel) :
    Carries handed srv (srv.addDatagram id channel) := by
  rcases srv.addDatagram_cases id channel with same | ⟨roster, added, attached⟩
  · rw [same]
  · rcases Roster.addDatagram_eq_ok added with ⟨-, -, -, -, rfl⟩
    rw [attached]
    exact .single (.alter ⟨rfl, fun s _ => s.altered_datagram channel, rfl, rfl⟩)

theorem carries_addTunnel (srv : Server) (id : SessionId) (tunnel : UInt32) :
    Carries handed srv (srv.addTunnel id ⟨tunnel, {}⟩).1 := by
  rcases srv.addTunnel_cases id ⟨tunnel, {}⟩ with same | ⟨roster, readers, added, attached⟩
  · rw [same]
  · rcases Roster.addTunnel_eq_ok added with ⟨s, hs, -, free, rfl⟩
    have alters : ∀ t, srv.session? id = some t →
        t.Altered { t with tunnel? := some ⟨tunnel, {}⟩ } := by
      intro t ht
      rcases Option.some.inj (hs.symm.trans ht) with rfl
      exact Session.altered_tunnel free tunnel
    rw [attached]
    exact .single (.alter ⟨rfl, alters, rfl, rfl⟩)

/-- Every recipient gets its copy or refuses it. -/
theorem carries_foldl_hand {packet : Packet} {recipients : List SessionId}
    {next : Server × Except NetError Unit → SessionId → Server × Except NetError Unit}
    (each : ∀ state id, (next state id).1 = (state.1.enqueueAndSchedule id packet).1)
    (given : ∀ id ∈ recipients, handed id packet) :
    ∀ state, Carries handed state.1 (recipients.foldl next state).1 := by
  induction recipients with
  | nil =>
    intro state
    exact .refl
  | cons id rest ih =>
    intro state
    have others := ih (fun id member => given id (List.mem_cons_of_mem _ member)) (next state id)
    rw [each] at others
    exact .head (.hand state.1 (given id (by simp))) others

theorem carries_multicast (srv : Server) {recipients : List SessionId} {packet : Packet}
    (given : ∀ id ∈ recipients, handed id packet) :
    Carries handed srv (srv.multicast recipients packet).1 := by
  refine carries_foldl_hand ?_ given (srv, .ok ())
  rintro ⟨srv, _ | _⟩ id <;> rfl

theorem carries_sendPacket (srv : Server) {id : SessionId} {packet : Packet}
    (given : ∀ other ∈ packet.recipients?.getD [id],
      handed other { packet with recipients? := none }) :
    Carries handed srv (srv.sendPacket id packet).1 := by
  unfold sendPacket
  cases listed : packet.recipients? with
  | some recipients =>
    simp only [listed, Option.getD_some] at given
    exact carries_multicast srv given
  | none =>
    simp only [listed, Option.getD_none, List.mem_singleton, forall_eq] at given
    have same : ({ packet with recipients? := none } : Packet) = packet := by
      rw [← listed]
    rw [same] at given
    exact .single (.hand srv given)

/-- A message becomes a packet with the next id, which is then handed over. -/
theorem carries_createPacket (srv : Server) (payload : Bytes) :
    Carries handed srv (srv.createPacket payload).2 :=
  .single (.aside ⟨rfl, rfl, rfl, fun stopped => stopped, rfl, rfl⟩)

/-- Every event is a sequence of moves, which hand over what the event does. -/
theorem carries_carry (srv : Server) (event : Traffic)
    (given : ∀ id packet, event.Hands srv.supply.codec.format id packet → handed id packet) :
    Carries handed srv (srv.carry event) := by
  cases event with
  | openWebSocket remote =>
    cases made : srv.createWebSocket {} remote with
    | error e => simpa only [carry, made] using .refl
    | ok result => simpa only [carry, made] using carries_createWebSocket made
  | acceptStream remote =>
    cases accepted : srv.acceptStream {} remote with
    | error e => simpa only [carry, accepted] using .refl
    | ok result => simpa only [carry, accepted] using carries_acceptStream accepted
  | addDatagram id channel => exact carries_addDatagram srv id channel
  | addTunnel id tunnel => exact carries_addTunnel srv id tunnel
  | behave id script =>
    exact .single (.alter ⟨rfl, fun s _ => s.altered_behave script, rfl, rfl⟩)
  | hangUp id => exact .single (.alter ⟨rfl, fun s _ => s.altered_hangUp, rfl, rfl⟩)
  | route script otherwise =>
    exact .single (.aside ⟨rfl, rfl, rfl, fun stopped => stopped, rfl, rfl⟩)
  | startWriters =>
    unfold carry startWriters
    dsimp only
    split
    · exact .single (.aside ⟨rfl, rfl, rfl, nofun, rfl, rfl⟩)
    · exact .refl
  | send id message =>
    refine (carries_createPacket srv (message.serialize srv.supply.codec.format)).trans
      (carries_sendPacket (srv.createPacket _).2 ?_)
    intro other member
    have same : other = id := by simpa [createPacket] using member
    exact given _ _ ⟨same.symm, rfl, rfl, rfl⟩
  | sendDatagram id message =>
    refine (carries_createPacket srv (message.serialize srv.supply.codec.format)).trans
      (carries_sendPacket (srv.createPacket _).2 ?_)
    intro other member
    have same : other = id := by simpa [createPacket] using member
    exact given _ _ ⟨same.symm, rfl, rfl, rfl⟩
  | sendPacket id packet =>
    exact carries_sendPacket srv fun other member => given other _ ⟨member, rfl⟩
  | multicast recipients packet =>
    exact carries_multicast srv fun id member => given id packet ⟨member, rfl⟩
  | writerStep worker => exact .single (.serve srv worker)
  | streamWritable id => exact .single (.writable srv id)
  | close id reason => exact .single (.close srv id reason)

end Carries

end Server

end SessionNet
