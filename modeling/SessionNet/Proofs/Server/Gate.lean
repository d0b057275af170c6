import SessionNet.Proofs.Server.Incidents
import SessionNet.Proofs.Server.Lifetime
import SessionNet.Proofs.Session.Slots

/-!
# The gate of a server

Runs in which addresses are banned and readmitted, connections knock, and all the rest goes on: a
server is started and shut down, messages come in and go out, requests are processed, and sessions
are closed from anywhere. Of all this only two things change the slots: an admission takes one, and
the close of a session gives one back.
-/

namespace SessionNet

/-- A connection that asks to be admitted. -/
inductive Caller where
  | webSocket (sink : Sink)
  | stream (stream : Stream)

/-- Something that happens to a server or to its list of banned addresses. -/
inductive GateEvent where
  | incident (incident : Incident)
  | ban (ip : IpAddress)
  | unban (ip : IpAddress)
  | start
  | shutdown

/-- Whether a caller is still there when its session is made. -/
def Caller.isConnected : Caller → Bool
  | .webSocket _ => true
  | .stream socket => socket.connected

/-- The operation in which a caller asks to be admitted. -/
def Caller.knock (caller : Caller) (remote : SocketAddress) : Operation :=
  match caller with
  | .webSocket sink => .openWebSocket sink remote
  | .stream socket => .acceptStream socket remote

namespace GateEvent

/-- The connection that asks to be admitted, and where it comes from. -/
def caller? : GateEvent → Option (Caller × SocketAddress)
  | .incident (.operation (.openWebSocket sink remote)) => some (.webSocket sink, remote)
  | .incident (.operation (.acceptStream stream remote)) => some (.stream stream, remote)
  | _ => none

/-- The bans after an event. -/
def bans (before : IpAddress → Bool) (ip : IpAddress) : GateEvent → Bool
  | .ban other => before ip || decide (ip = other)
  | .unban other => before ip && decide (ip ≠ other)
  | _ => before ip

/-- The addresses that are banned after events in order. -/
def bansOf (events : List GateEvent) : IpAddress → Bool :=
  events.foldl (fun before event ip => event.bans before ip) fun _ => false

end GateEvent

namespace Server

variable {srv srv' : Server} {id : SessionId}

/-- Admit a caller. -/
def letIn (srv : Server) (caller : Caller) (remote : SocketAddress) :
    Except NetError (SessionId × Server) :=
  match caller with
  | .webSocket sink => srv.createWebSocket sink remote
  | .stream socket => srv.acceptStream socket remote

/-- The server after an event; one that fails leaves it as it was. -/
def meet (srv : Server) : GateEvent → Server
  | .incident incident => srv.undergo incident
  | .ban ip => { srv with roster := { srv.roster with filter := srv.roster.filter.ban ip } }
  | .unban ip => { srv with roster := { srv.roster with filter := (srv.roster.filter.unban ip).2 } }
  | .start => srv.obey .start
  | .shutdown => srv.shutdown

/-- The server after events in order. -/
def meetAll (srv : Server) (events : List GateEvent) : Server := events.foldl meet srv

/-- Where the session comes from that an event makes, if it makes one. -/
def origin? (srv : Server) (event : GateEvent) : Option IpAddress :=
  event.caller?.bind fun (caller, remote) =>
    if (srv.letIn caller remote).toBool then some remote.ip else none

/-- Where the sessions come from that are made in a run, in order. -/
def origins (srv : Server) : List GateEvent → List IpAddress
  | [] => []
  | event :: rest => (srv.origin? event).toList ++ (srv.meet event).origins rest

/-! ## Use and closing -/

/-- Sessions are used, or one of them is closed, and none is opened. -/
inductive Used : Roster → Roster → Prop
  | continues {r r' : Roster} (continues : r.Continues r') : Used r r'
  | close (r : Roster) (id : SessionId) (reason : CloseReason) : Used r (r.close id reason).2

abbrev Uses : Roster → Roster → Prop := Relation.ReflTransGen Used

theorem occupied_of_uses {limit : Nat} {bans : IpAddress → Bool} {origins : List IpAddress}
    {r r' : Roster} (occupied : Roster.Occupied limit bans origins r) (uses : Uses r r') :
    Roster.Occupied limit bans origins r' := by
  induction uses with
  | refl => exact occupied
  | tail _ used ih =>
    cases used with
    | continues continues => exact ih.continues continues
    | close id reason => exact ih.close id reason

theorem uses_of_happenings (happenings : Happenings srv srv') : Uses srv.roster srv'.roster := by
  induction happenings with
  | refl => exact .refl
  | tail _ happening ih =>
    cases happening with
    | quiet quiet => exact ih.tail (.continues quiet.roster)
    | close id reason =>
      rw [roster_close]
      exact ih.tail (.close _ id reason)
    | accept => exact ih

theorem uses_close (srv : Server) (id : SessionId) (reason : CloseReason) :
    Uses srv.roster (srv.close id reason).2.roster := by
  rw [roster_close]
  exact .single (.close _ id reason)

/-- A session is used first. -/
theorem uses_of_update {f : Session → Session} {r : Roster}
    (later : Uses (srv.update id f).roster r) (continues : ∀ s : Session, s.Continues (f s)) :
    Uses srv.roster r :=
  .head (.continues (.update _ id continues)) later

theorem uses_process (srv : Server) (request : Request) :
    Uses srv.roster (srv.process request).roster := by
  cases ending : request.ending? with
  | none => exact uses_of_happenings (happenings_process ending srv)
  | some closing =>
    obtain ⟨identity?, delivered, happenings⟩ := exists_happenings_process ending srv
    -- to announce the end is no matter of the roster
    have uses := uses_of_happenings happenings
    exact uses

theorem uses_shardStep (srv : Server) (shard : Nat) :
    Uses srv.roster (srv.shardStep shard).roster := by
  rcases shardStep_cases srv shard with same | ⟨queued, dispatcher, after, -, rfl, heq⟩
  · rw [same]
  · rw [heq]
    exact uses_process { srv with dispatcher } queued.request

theorem uses_drainShards (steps : Nat) (srv : Server) :
    Uses srv.roster (srv.drainShards steps).roster := by
  induction steps generalizing srv with
  | zero => exact .refl
  | succ steps ih =>
    rw [drainShards]
    split
    · exact .refl
    · exact (uses_shardStep srv _).trans (ih _)

theorem uses_closeAll (srv : Server) (reason : CloseReason) :
    Uses srv.roster (srv.closeAll reason).2.roster :=
  closeAll_preserves (P := fun later => Uses srv.roster later.roster)
    (fun later id before => before.trans (uses_close later id reason)) .refl

/-- Whatever a reader does with what comes in, it uses its session and closes it at most. -/
theorem uses_of_submits {messages : List (TransportKind × Message)}
    (submits : Submits id srv messages srv') : Uses srv.roster srv'.roster := by
  induction submits with
  | done => exact .refl
  | count bytes _ ih => exact uses_of_update ih fun _ => .of_same rfl rfl rfl rfl rfl rfl
  | touch _ ih => exact uses_of_update ih fun _ => .of_same rfl rfl rfl rfl rfl rfl
  | keep reader _ ih => exact ih
  | leave inbox _ ih => exact uses_of_update ih fun _ => .of_same rfl rfl rfl rfl rfl rfl
  | submit transport message _ ih =>
    exact .trans (uses_of_happenings (happenings_submit _ id message transport)) ih
  | fault => exact uses_close _ id .protocolViolation

theorem uses_streamWritable (srv : Server) (id : SessionId) :
    Uses srv.roster (srv.streamWritable id).roster := by
  unfold streamWritable
  split
  · exact .refl
  · split
    · dsimp only
      split
      · exact uses_of_update .refl fun _ => .of_same rfl rfl rfl rfl rfl rfl
      · refine uses_of_update (uses_of_update (uses_of_happenings (happenings_runPass _ id)) ?_) ?_
        · exact fun _ => .of_same rfl rfl rfl rfl rfl rfl
        · exact fun _ => .of_same rfl rfl rfl rfl rfl rfl
    · exact .refl

theorem uses_addTunnel (srv : Server) (id : SessionId) (channel : TunnelChannel) :
    Uses srv.roster (srv.addTunnel id channel).1.roster := by
  have attached : ∀ roster, srv.roster.addTunnel id channel = .ok roster →
      Uses srv.roster roster := by
    intro roster added
    obtain ⟨s, -, -, -, rfl⟩ := Roster.addTunnel_eq_ok added
    have used : srv.roster.Continues
        (srv.roster.update id fun s => { s with tunnel? := some channel }) :=
      .update _ id fun _ => .of_same rfl rfl rfl rfl rfl rfl
    exact .single (.continues ⟨used.sessions, rfl, rfl⟩)
  unfold addTunnel
  split
  · exact .refl
  · rename_i roster added
    dsimp only
    split <;> exact attached roster added

theorem uses_datagramReceived (srv : Server) (peer : DatagramPeer) (data : Bytes) :
    Uses srv.roster (srv.datagramReceived peer data).roster := by
  rcases srv.datagramReceived_cases peer data with
    ⟨dispatcher, aside⟩ | ⟨key, id, message, -, -, taken⟩
  · rw [aside]
  · have submits := Submits.takeIn data.length (.done (srv.takeIn id data.length .udp [message]))
    rw [taken]
    exact uses_of_submits submits

theorem uses_useTunnel (id : SessionId) (use : Tunnel → Except NetError Tunnel) :
    Uses srv.roster (srv.update id (Session.useTunnel use)).roster := by
  refine uses_of_update .refl fun s => ?_
  unfold Session.useTunnel
  split
  · exact .refl s
  · split
    · exact .of_same rfl rfl rfl rfl rfl rfl
    · exact .refl s

theorem uses_shutdown (srv : Server) : Uses srv.roster srv.shutdown.roster := by
  cases down : srv.lifecycle.isShutDown with
  | true =>
    unfold shutdown
    rw [if_pos down]
  | false =>
    obtain ⟨closed, stopped, rfl, rephased, -, ended⟩ := srv.shutdown_eq down
    have closes := uses_closeAll { srv with lifecycle := ⟨false, true⟩ } .shutdown
    rw [ended]
    split
    · rw [← rephased.roster] at closes
      exact closes.trans (uses_drainShards _ stopped)
    · exact rephased.roster ▸ closes

theorem roster_start (srv : Server) : (srv.obey .start).roster = srv.roster := by
  rcases srv.obey_start_cases with ⟨e, -, -, same⟩ | ⟨-, -, rephased⟩
  · rw [same]
  · exact rephased.roster

/-- Whatever happens on a server, no session is opened but for a connection that is admitted. -/
theorem uses_undergo {incident : Incident} (silent : (GateEvent.incident incident).caller? = none)
    (srv : Server) : Uses srv.roster (srv.undergo incident).roster := by
  cases incident with
  | operation operation =>
    cases operation with
    | openWebSocket sink remote => cases silent
    | acceptStream stream remote => cases silent
    | submit id message transport =>
      exact uses_of_happenings (happenings_submit srv id message transport)
    | process request => exact uses_process srv request
    | shardStep shard => exact uses_shardStep srv shard
    | close id reason => exact uses_close srv id reason
    | closeAll reason => exact uses_closeAll srv reason
    | start => exact .refl
    | stop => exact .refl
  | addTunnel id channel => exact uses_addTunnel srv id channel
  | write worker => exact uses_of_happenings (happenings_writerStep srv worker)
  | writable id => exact uses_streamWritable srv id
  | elapse now => exact .refl
  | stream id data => exact uses_of_submits (submits_undergo rfl srv)
  | webSocket id data => exact uses_of_submits (submits_undergo rfl srv)
  | datagram peer data => exact uses_datagramReceived srv peer data
  | fetch id => exact uses_of_submits (submits_undergo rfl srv)
  | peerSend id data => exact uses_useTunnel id _
  | peerFlush id => exact uses_useTunnel id _

/-! ## Admission -/

section Admission

variable {caller : Caller} {remote : SocketAddress} {limit : Nat} {bans : IpAddress → Bool}
variable {origins : List IpAddress}

open Roster (Occupied)

theorem admitSession_of_refused (refused : srv.roster.filter.Refuses remote.ip)
    (create : Roster → Except NetError (SessionId × Roster)) :
    srv.admitSession remote create = .error (.connectionRefused remote.ip.text) := by
  rw [admitSession, ConnectionFilter.reserve_of_refused refused]

theorem admitSession_of_admitted (admitted : ¬srv.roster.filter.Refuses remote.ip)
    (create : Roster → Except NetError (SessionId × Roster)) :
    ∃ filter, srv.admitSession remote create =
      (create { srv.roster with filter }).map fun (id, roster) =>
        (id, { srv with roster := roster.update id fun s => { s with holdsSlot := true } }) := by
  let filter := srv.roster.filter
  refine ⟨filter.setCount remote.ip (filter.connectionsFrom remote.ip + 1), ?_⟩
  rw [admitSession, ConnectionFilter.reserve_of_admitted admitted]
  dsimp only
  cases create _ <;> rfl

theorem letIn_of_refused (refused : srv.roster.filter.Refuses remote.ip) (caller : Caller) :
    srv.letIn caller remote = .error (.connectionRefused remote.ip.text) := by
  cases caller with
  | webSocket sink => rw [letIn, createWebSocket, admitSession_of_refused refused]
  | stream socket =>
    rw [letIn, acceptStream, admitSession_of_refused refused]

/-- A caller that is not turned away is admitted, unless it has gone by then. -/
theorem letIn_of_admitted (admitted : ¬srv.roster.filter.Refuses remote.ip) (caller : Caller) :
    if caller.isConnected then ∃ id srv', srv.letIn caller remote = .ok (id, srv')
    else srv.letIn caller remote = .error (.invalidArgument .detachedSocket) := by
  cases caller with
  | webSocket sink =>
    obtain ⟨filter, made⟩ := admitSession_of_admitted admitted
      fun roster => roster.createWebSocket sink remote srv.now
    exact ⟨_, _, made⟩
  | stream socket =>
    obtain ⟨filter, made⟩ := admitSession_of_admitted admitted
      fun roster => roster.createSocket socket remote srv.now
    rw [Roster.createSocket_eq] at made
    simp only [letIn, acceptStream, Caller.isConnected, made]
    cases socket.connected with
    | false => rfl
    | true =>
      simp only [if_true, Except.map]
      split <;> exact ⟨_, _, rfl⟩

theorem letIn_eq_refused_iff :
    srv.letIn caller remote = .error (.connectionRefused remote.ip.text) ↔
      srv.roster.filter.Refuses remote.ip := by
  constructor
  · intro failed
    -- a caller that has gone fails in another way
    by_contra admitted
    have answer := letIn_of_admitted admitted caller
    rw [failed] at answer
    split at answer
    · obtain ⟨_, _, made⟩ := answer
      cases made
    · cases answer
  · exact fun refused => letIn_of_refused refused caller

theorem exists_letIn_iff :
    (∃ id srv', srv.letIn caller remote = .ok (id, srv')) ↔
      ¬srv.roster.filter.Refuses remote.ip ∧ caller.isConnected = true := by
  constructor
  · rintro ⟨id, srv', made⟩
    have admitted : ¬srv.roster.filter.Refuses remote.ip := by
      intro refused
      cases (letIn_of_refused refused caller).symm.trans made
    have answer := letIn_of_admitted admitted caller
    rw [made] at answer
    split at answer
    · rename_i connected
      exact ⟨admitted, connected⟩
    · cases answer
  · rintro ⟨admitted, connected⟩
    have answer := letIn_of_admitted admitted caller
    rwa [if_pos connected] at answer

theorem occupied_letIn {srv' : Server} (occupied : Occupied limit bans origins srv.roster)
    (admitted : srv.letIn caller remote = .ok (id, srv')) :
    Occupied limit bans (origins ++ [remote.ip]) srv'.roster := by
  have opening : ∀ {s : Session} {after : Server}, Joined remote.ip s srv after →
      Occupied limit bans (origins ++ [remote.ip]) after.roster :=
    fun joined => occupied.opening joined.fresh joined.reserved joined.sessions joined.registered
  cases caller with
  | webSocket sink =>
    obtain ⟨s, joined⟩ := joined_createWebSocket admitted
    exact opening joined
  | stream socket =>
    obtain ⟨after, made, ended⟩ := acceptStream_eq_ok admitted
    obtain ⟨s, joined⟩ :=
      joined_admitSession (fun r => r.createSocket_cases socket remote srv.now) made
    rcases ended with rfl | rfl
    · rw [roster_close]
      exact (opening joined).close id .shutdown
    · have opened := opening joined
      exact opened

theorem caller?_eq_some {event : GateEvent} (knocks : event.caller? = some (caller, remote)) :
    event = .incident (.operation (caller.knock remote)) := by
  unfold GateEvent.caller? at knocks
  split at knocks <;> cases knocks <;> rfl

theorem meet_knock (srv : Server) (caller : Caller) (remote : SocketAddress) :
    srv.meet (.incident (.operation (caller.knock remote))) =
      ((srv.letIn caller remote).map Prod.snd).toOption.getD srv := by
  cases caller with
  | webSocket sink =>
    simp only [meet, Caller.knock, undergo, step, letIn]
    cases srv.createWebSocket sink remote <;> rfl
  | stream socket =>
    simp only [meet, Caller.knock, undergo, step, letIn]
    cases srv.acceptStream socket remote <;> rfl

/-! ## Runs -/

theorem occupied_meet (occupied : Occupied limit bans origins srv.roster) (event : GateEvent) :
    Occupied limit (event.bans bans ·) (origins ++ (srv.origin? event).toList)
      (srv.meet event).roster := by
  cases knocks : event.caller? with
  | some call =>
    obtain ⟨caller, remote⟩ := call
    have made : event = .incident (.operation (caller.knock remote)) := caller?_eq_some knocks
    have same : (event.bans bans ·) = bans := by
      rw [made]
      rfl
    rw [same]
    unfold origin?
    rw [knocks, made, meet_knock]
    cases answer : srv.letIn caller remote with
    | error e =>
      simpa [answer, Except.toBool, Except.map, Except.toOption] using occupied
    | ok result =>
      obtain ⟨id, after⟩ := result
      have opened := occupied_letIn occupied answer
      simpa [answer, Except.toBool, Except.map, Except.toOption] using opened
  | none =>
    -- without a caller there is no origin to add
    have kept : origins ++ (srv.origin? event).toList = origins := by
      unfold origin?
      rw [knocks]
      exact List.append_nil _
    rw [kept]
    cases event with
    | incident incident => exact occupied_of_uses occupied (uses_undergo knocks srv)
    | ban ip =>
      have kept := occupied.refilter (ConnectionFilter.slots_ban srv.roster.filter ip)
      refine kept.of_bans fun other => ?_
      rw [ConnectionFilter.isBanned_ban, occupied.isBanned, GateEvent.bans]
    | unban ip =>
      have kept := occupied.refilter (f := (srv.roster.filter.unban ip).2) ⟨rfl, rfl⟩
      refine kept.of_bans fun other => ?_
      rw [ConnectionFilter.isBanned_unban, occupied.isBanned, GateEvent.bans]
    | start => exact roster_start srv ▸ occupied
    | shutdown => exact occupied_of_uses occupied (uses_shutdown srv)

theorem occupied_meetAll (occupied : Occupied limit bans origins srv.roster)
    (events : List GateEvent) :
    Occupied limit (events.foldl (fun before event ip => event.bans before ip) bans)
      (origins ++ srv.origins events) (srv.meetAll events).roster := by
  induction events generalizing srv bans origins with
  | nil =>
    rw [Server.origins, List.append_nil]
    exact occupied
  | cons event rest ih =>
    rw [Server.origins, ← List.append_assoc]
    exact ih (occupied_meet occupied event)

theorem occupied_blank (plan : ServerPlan) (shardKey : RequestSender → Nat)
    (handlers : HandlerTable) :
    Occupied plan.maxPerAddress (fun _ => false) [] (blank plan shardKey handlers).roster := by
  refine ⟨(underway_blank plan shardKey handlers).books.accounts, rfl, ?_, ?_, ?_, rfl,
    fun _ => rfl⟩
  · intro id s hs
    have absent : (blank plan shardKey handlers).roster.session? id = none := List.getElem?_nil
    cases absent.symm.trans hs
  · intro ip count
    have none : (blank plan shardKey handlers).roster.filter.connectionsFrom ip = 0 := rfl
    rw [none]
    constructor
    · nofun
    · omega
  · exact fun _ ip => Nat.zero_le _

/-- In every run of a server, with whatever handlers, the slots of an address are the live sessions
that were admitted from it. No more are given out than the limit allows, nothing is stored for an
address without slots, and a caller is turned away if its address is banned or has no slot left, and
for no other reason of the filter. Whoever is not admitted leaves no trace. To close a session gives
back the one slot of its address, banned or not. -/
theorem slots_of_run (plan : ServerPlan) (shardKey : RequestSender → Nat) (handlers : HandlerTable)
    (events : List GateEvent) :
    let start := blank plan shardKey handlers
    let srv := start.meetAll events
    let slots := srv.roster.filter.connectionsFrom
    let turnedAway := fun ip => GateEvent.bansOf events ip = true ∨
      0 < plan.maxPerAddress ∧ slots ip = plan.maxPerAddress
    (∀ ip, slots ip = srv.roster.liveFrom (start.origins events) ip) ∧
    (∀ ip count, (ip, count) ∈ srv.roster.filter.active ↔ slots ip = count ∧ 0 < count) ∧
    (0 < plan.maxPerAddress → ∀ ip, slots ip ≤ plan.maxPerAddress) ∧
    (∀ caller remote,
      (srv.letIn caller remote = .error (.connectionRefused remote.ip.text) ↔
        turnedAway remote.ip) ∧
      ((∃ id srv', srv.letIn caller remote = .ok (id, srv')) ↔
        ¬turnedAway remote.ip ∧ caller.isConnected = true) ∧
      ((∃ e, srv.letIn caller remote = .error e) →
        srv.step (caller.knock remote) = srv)) ∧
    (∀ id reason,
      (srv.roster.isActive id = false → srv.close id reason = (false, srv)) ∧
      (srv.roster.isActive id = true → ∃ ip, (start.origins events)[id]? = some ip ∧
        (srv.close id reason).1 = true ∧
        (srv.close id reason).2.roster.filter.connectionsFrom ip + 1 = slots ip ∧
        ∀ other, other ≠ ip →
          (srv.close id reason).2.roster.filter.connectionsFrom other = slots other)) := by
  intro start srv slots turnedAway
  have occupied : Occupied plan.maxPerAddress (GateEvent.bansOf events) (start.origins events)
      srv.roster := occupied_meetAll (occupied_blank plan shardKey handlers) events
  refine ⟨occupied.connectionsFrom, occupied.tidy, occupied.connectionsFrom_le,
    fun caller remote => ⟨?_, ?_, ?_⟩, fun id reason => ⟨?_, ?_⟩⟩
  · rw [letIn_eq_refused_iff, occupied.refuses_iff]
  · rw [exists_letIn_iff, occupied.refuses_iff]
  · rintro ⟨e, failed⟩
    have knocked := srv.meet_knock caller remote
    rw [failed] at knocked
    exact knocked
  · intro inactive
    refine Prod.ext ?_ (close_of_not_active inactive)
    rw [close_fst, inactive]
  · intro live
    obtain ⟨ip, origin, pos, filter⟩ := occupied.filter_close live reason
    have closed : ∀ other, (srv.close id reason).2.roster.filter.connectionsFrom other =
        slots other - if other = ip then 1 else 0 := by
      intro other
      rw [roster_close, filter, ConnectionFilter.connectionsFrom_release]
    refine ⟨ip, origin, (close_fst srv id reason).trans live, ?_, fun other differs => ?_⟩
    · rw [closed, if_pos rfl]
      exact Nat.sub_add_cancel pos
    · rw [closed, if_neg differs, Nat.sub_zero]

end Admission

end Server

end SessionNet
