import SessionNet.Proofs.Dispatch.Admission
import SessionNet.Proofs.Server.Books

/-!
# The life of a server

A server is started once at most, and shut down once at most. Whatever was done with it before and
whatever its handlers do, when a started server shuts down each of its sessions is closed, and the
event of its end has happened: for the reason for which it was closed before, or because of the
shutdown. Nothing that is done later brings back a session or makes another event of it.
-/

namespace SessionNet

/-- What is done with a server, or a turn of one of its shards or writers. -/
inductive Command where
  | openWebSocket (sink : Sink) (remote : SocketAddress)
  /-- A message has come in on the channel of a session. -/
  | receive (id : SessionId) (data : Bytes)
  | send (id : SessionId) (message : Message)
  | close (id : SessionId) (reason : CloseReason)
  | shardStep (shard : Nat)
  | writerStep (worker : Nat)
  | start
  | shutdown

namespace Server

/-- The server after a command; one that fails leaves it as it was. -/
def obey (srv : Server) : Command → Server
  | .openWebSocket sink remote =>
    match srv.createWebSocket sink remote with
    | .ok (_, srv) => srv
    | .error _ => srv
  | .receive id data => (srv.webSocketReceived id data).1
  | .send id message => (srv.send id message).1
  | .close id reason => (srv.close id reason).2
  | .shardStep shard => srv.shardStep shard
  | .writerStep worker => srv.writerStep worker
  | .start =>
    match srv.start with
    | .ok srv => srv
    | .error _ => srv
  | .shutdown => srv.shutdown

/-- The server after commands in order. -/
def obeyAll (srv : Server) (commands : List Command) : Server := commands.foldl obey srv

/-- Whether a command starts the server. -/
def isStartedBy (srv : Server) : Command → Bool
  | .start => srv.start.toBool
  | _ => false

/-- How many commands of a run start the server. -/
def starts (srv : Server) : List Command → Nat
  | [] => 0
  | command :: rest => (srv.isStartedBy command).toNat + (srv.obey command).starts rest

/-- Why a session is gone once the server has shut down. -/
def departureReason (srv : Server) (id : SessionId) : CloseReason :=
  ((srv.session? id).bind (·.closeReason?)).getD .shutdown

/-- A session that is closed for good, and whose end has been reported and announced once. -/
structure Gone (id : SessionId) (reason : CloseReason) (srv : Server) : Prop where
  session : ∃ s, srv.session? id = some s ∧ s.Ended reason ∧ s.slot? = none
  unregistered : srv.roster.find? id = none
  reported : srv.closings.filter (·.1 == id) = [(id, reason)]
  announced : ∃ identity?,
    (srv.eventsOf id).filter ServerEvent.isEnd = [.sessionWillBeClosed id identity? reason]

variable {srv srv' : Server} {id : SessionId} {reason : CloseReason} {who : SessionId → Prop}

/-! ## Commands between the start and the shutdown -/

section Commands

theorem happenings_submit (srv : Server) (id : SessionId) (message : Message)
    (transport : TransportKind) : Happenings srv (srv.submit id message transport).1 := by
  unfold submit
  cases srv.session? id with
  | none => exact .refl
  | some s =>
    have counted : Quiet srv (srv.update id Session.recordMessage) :=
      .update srv id fun _ => .of_same rfl rfl rfl rfl rfl rfl
    have plain : (⟨.session id, requestKind s.association message, transport⟩ : Request).ending? =
        none := by
      unfold requestKind
      split <;> rfl
    dsimp only
    split
    · rename_i dispatcher accepted
      exact .head (.quiet counted) (.single (.accept plain accepted))
    · split
      · exact .single (.quiet (counted.trans (.update _ id fun _ => .of_same rfl rfl rfl rfl rfl rfl)))
      · exact .single (.quiet counted)

/-- A message that does not decode closes its session. -/
theorem happenings_webSocketReceived (srv : Server) (id : SessionId) (data : Bytes) :
    Happenings srv (srv.webSocketReceived id data).1 := by
  have counted : Quiet srv (srv.recordRead id data.length) :=
    .update srv id fun _ => .of_same rfl rfl rfl rfl rfl rfl
  unfold webSocketReceived
  split
  · exact .refl
  · dsimp only
    split
    · exact .head (.quiet counted) (.single (.close _ id .protocolViolation))
    · have touched : Quiet srv ((srv.recordRead id data.length).touch id) :=
        counted.trans (.update _ id fun _ => .of_same rfl rfl rfl rfl rfl rfl)
      exact .head (.quiet touched) (happenings_submit _ id _ .webSocket)

theorem happenings_runPass (srv : Server) (id : SessionId) : Happenings srv (srv.runPass id) := by
  cases hs : srv.session? id with
  | none =>
    have same : srv.runPass id = srv := by
      unfold runPass
      rw [hs]
    rw [same]
  | some s =>
    cases active : s.isActive with
    | false =>
      rw [runPass_of_closed hs active]
      exact .single (.quiet (.update srv id fun _ => .of_same rfl rfl rfl rfl rfl rfl))
    | true =>
      have released : Quiet srv (srv.release id (s.writePass srv.writers.budget srv.supply)) := by
        refine ⟨.update_of_session _ id ?_, rfl, rfl, rfl, rfl, fun _ => rfl⟩
        intro t ht
        rcases Option.some.inj (hs.symm.trans ht) with rfl
        exact (Session.Continues.writePass s _ _).trans (.of_same rfl rfl rfl rfl rfl rfl)
      have ended := runPass_of_active hs active
      generalize srv.release id (s.writePass srv.writers.budget srv.supply) = after at released ended
      generalize srv.runPass id = final at ended ⊢
      generalize (s.writePass srv.writers.budget srv.supply).result = result at ended
      -- only a write that fails closes the session
      cases ended with
      | drained => exact .single (.quiet released)
      | yielded => exact .single (.quiet (released.trans (.schedule after id)))
      | blocked =>
        exact .single (.quiet (released.trans (.update after id
          fun _ => .of_same rfl rfl rfl rfl rfl rfl)))
      | failed e => exact .head (.quiet released) (.single (.close after id .writeError))

theorem happenings_writerStep (srv : Server) (worker : Nat) :
    Happenings srv (srv.writerStep worker) := by
  unfold writerStep
  split
  · rename_i id rest _
    let called : Server :=
      { srv with writers := { srv.writers with queues := srv.writers.queues.set worker rest } }
    have taken : Quiet srv called := ⟨.refl _, rfl, rfl, rfl, rfl, fun _ => rfl⟩
    exact .head (.quiet taken) (happenings_runPass called id)
  · exact .refl

/-- A session for a connection from an address has been made. -/
structure Joined (ip : IpAddress) (s : Session) (srv srv' : Server) : Prop where
  fresh : s.Opened ip
  reserved : srv.roster.filter.reserve ip = .ok srv'.roster.filter
  sessions : srv'.roster.sessions = srv.roster.sessions ++ [s]
  registered : srv'.roster.registered = srv.roster.sessions.length :: srv.roster.registered
  dispatcher : srv'.dispatcher = srv.dispatcher
  notifies : srv'.notifiesDispatcher = srv.notifiesDispatcher
  lifecycle : srv'.lifecycle = srv.lifecycle
  history : srv'.history = srv.history

/-- The session that takes the slot is the one at the end. -/
theorem joined_admitSession {remote : SocketAddress}
    {create : Roster → Except NetError (SessionId × Roster)}
    (creates : ∀ r, (∃ e, create r = .error e) ∨ ∃ transport, create r =
      .ok (r.register { r.freshSession (some remote) srv.now with transport }))
    (admitted : srv.admitSession remote create = .ok (id, srv')) :
    ∃ s, Joined remote.ip s srv srv' := by
  obtain ⟨filter, roster, reserved, made, rfl⟩ := admitSession_eq_ok admitted
  rcases creates { srv.roster with filter } with ⟨e, failed⟩ | ⟨transport, registered⟩
  · cases failed.symm.trans made
  · cases registered.symm.trans made
    refine ⟨{ ({ ({ srv.roster with filter } : Roster).freshSession (some remote) srv.now with
      transport } : Session).activate with holdsSlot := true },
      ⟨rfl, rfl, rfl, rfl⟩, reserved, ?_, rfl, rfl, rfl, rfl, rfl⟩
    simp [Roster.update, List.modify_eq_take_drop]

theorem joined_createWebSocket {sink : Sink} {remote : SocketAddress}
    (made : srv.createWebSocket sink remote = .ok (id, srv')) :
    ∃ s, Joined remote.ip s srv srv' :=
  joined_admitSession (fun r => .inr ⟨_, Roster.createWebSocket_eq r sink remote srv.now⟩) made

theorem Joined.closings {ip : IpAddress} {s : Session} (joined : Joined ip s srv srv') :
    srv'.closings = srv.closings := by
  rw [Server.closings, joined.history, Server.closings]

theorem Books.joined {ip : IpAddress} {s : Session} (books : Books who srv)
    (joined : Joined ip s srv srv') : Books who srv' := by
  have shown := Roster.session?_of_append joined.sessions
  have farewells : ∀ id, srv'.farewells id = srv.farewells id := by
    intro id
    rw [Server.farewells, eventsOf, joined.history]
    rfl
  refine ⟨books.accounts.opening joined.fresh joined.reserved joined.sessions joined.registered, ?_,
    joined.notifies.trans books.notifies, joined.dispatcher ▸ books.nonempty,
    joined.dispatcher ▸ books.placed, ?_, ?_⟩
  · intro id
    rw [closingsOf, joined.closings, session?, shown]
    split
    · -- nothing was reported of a number that no session had
      rename_i new
      have before := books.reported id
      have absent : srv.session? id = none := new ▸ List.getElem?_eq_none (Nat.le_refl _)
      rw [absent] at before
      refine before.trans ?_
      simp [Session.ends, joined.fresh.unclosed]
    · exact books.reported id
  · intro id member
    rw [closingsOf, joined.closings, farewells, joined.dispatcher]
    exact books.conserved id member
  · intro phase id member
    rw [joined.dispatcher] at phase
    rcases books.stopped phase id member with ⟨old, closed⟩
    have same : srv'.roster.isActive id = srv.roster.isActive id := by
      unfold Roster.isActive
      rw [shown, if_neg (Nat.ne_of_lt old)]
    refine ⟨?_, same.trans closed⟩
    rw [joined.sessions, List.length_append]
    exact Nat.lt_add_right _ old

theorem Onward.of_joined {ip : IpAddress} {s : Session} (joined : Joined ip s srv srv') :
    Onward srv srv' where
  lifecycle := joined.lifecycle
  phase := congrArg Dispatcher.phase joined.dispatcher
  closings := joined.closings ▸ List.prefix_rfl
  length := by
    rw [joined.sessions, List.length_append]
    exact Nat.le_add_right _ _
  idle _ idle := by rwa [joined.dispatcher]

/-- Commands between the start and the shutdown leave the server where it is in its life. -/
theorem obey_ordinary (srv : Server) {command : Command} (starts : command ≠ .start)
    (stops : command ≠ .shutdown) :
    Onward srv (srv.obey command) ∧ ∀ who, Books who srv → Books who (srv.obey command) := by
  have happen : ∀ {srv'}, Happenings srv srv' →
      Onward srv srv' ∧ ∀ who, Books who srv → Books who srv' :=
    fun happenings => ⟨.of_happenings happenings, fun _ books => books.happenings happenings⟩
  cases command with
  | openWebSocket sink remote =>
    cases made : srv.createWebSocket sink remote with
    | error e =>
      simp only [obey, made]
      exact happen .refl
    | ok result =>
      rcases joined_createWebSocket made with ⟨s, joined⟩
      simp only [obey, made]
      exact ⟨.of_joined joined, fun _ books => books.joined joined⟩
  | receive id data => exact happen (happenings_webSocketReceived srv id data)
  | send id message => exact happen (.single (.quiet (Quiet.send srv id message).1))
  | close id reason => exact happen (.single (.close srv id reason))
  | shardStep shard => exact ⟨.shardStep srv shard, fun _ books => books.shardStep shard⟩
  | writerStep worker => exact happen (happenings_writerStep srv worker)
  | start => exact absurd rfl starts
  | shutdown => exact absurd rfl stops

end Commands

/-! ## Starting and stopping -/

/-- To start or to stop the writers concerns the writers alone. -/
theorem exists_startWriters_eq (srv : Server) :
    ∃ writers, srv.startWriters = { srv with writers } := by
  unfold startWriters
  split <;> exact ⟨_, rfl⟩

theorem exists_stopWriters_eq (srv : Server) :
    ∃ writers, srv.stopWriters = { srv with writers } := by
  unfold stopWriters
  split <;> exact ⟨_, rfl⟩

theorem start_of_shutDown (ended : srv.lifecycle.isShutDown = true) :
    srv.start = .error (.shutdown .server) := by
  unfold start
  rw [if_pos ended]

theorem start_of_started (serving : srv.lifecycle.isShutDown = false)
    (started : srv.lifecycle.isStarted = true) :
    srv.start = .error (.illegalState .serverStarted) := by
  unfold start
  rw [serving, if_neg Bool.false_ne_true, if_pos started]

/-- A server that is started runs, and its dispatcher with it. -/
theorem start_of_unstarted (unstarted : srv.lifecycle = ⟨false, false⟩) :
    ∃ running, srv.start = .ok running ∧ running.lifecycle = ⟨true, false⟩ ∧
      Rephased srv.dispatcher.start.phase srv running := by
  have phased : srv.dispatcher.start =
      { srv.dispatcher with phase := srv.dispatcher.start.phase } := by
    unfold Dispatcher.start
    split <;> rfl
  rcases exists_startWriters_eq srv.startDispatcher with ⟨writers, writing⟩
  unfold start
  rw [unstarted, if_neg Bool.false_ne_true, if_neg Bool.false_ne_true, writing]
  exact ⟨_, rfl, rfl, rfl, rfl, rfl, phased⟩

/-- The command to start a server has no effect once it has been started or shut down. -/
theorem obey_start_cases (srv : Server) :
    (∃ e, srv.lifecycle ≠ ⟨false, false⟩ ∧ srv.start = .error e ∧ srv.obey .start = srv) ∨
      srv.lifecycle = ⟨false, false⟩ ∧ (srv.obey .start).lifecycle = ⟨true, false⟩ ∧
        Rephased srv.dispatcher.start.phase srv (srv.obey .start) := by
  have late : ∀ e, srv.start = .error e → srv.obey .start = srv := by
    intro e failed
    simp only [obey, failed]
  cases ended : srv.lifecycle.isShutDown with
  | true =>
    have failed := start_of_shutDown ended
    exact .inl ⟨_, fun fresh => by simp [fresh] at ended, failed, late _ failed⟩
  | false =>
    cases started : srv.lifecycle.isStarted with
    | true =>
      have failed := start_of_started ended started
      exact .inl ⟨_, fun fresh => by simp [fresh] at started, failed, late _ failed⟩
    | false =>
      have unstarted : srv.lifecycle = ⟨false, false⟩ := by
        cases life : srv.lifecycle
        simp_all
      rcases start_of_unstarted unstarted with ⟨running, begun, life, rephased⟩
      have obeyed : srv.obey .start = running := by simp only [obey, begun]
      exact .inr ⟨unstarted, obeyed ▸ life, obeyed ▸ rephased⟩

/-- Whatever phase the dispatcher is in, the shutdown closes all sessions before it stops it. -/
theorem shutdown_eq (srv : Server) (serving : srv.lifecycle.isShutDown = false) :
    ∃ closed stopped,
      closed = (({ srv with lifecycle := ⟨false, true⟩ } : Server).closeAll .shutdown).2 ∧
      Rephased .stopped closed stopped ∧ stopped.lifecycle = closed.lifecycle ∧
      srv.shutdown = if closed.dispatcher.phase = .running then stopped.drainShards stopped.shardWork
        else { stopped with dispatcher := stopped.dispatcher.discard } := by
  -- the readers and the writers stop in between, which no account is about
  have halt : ∀ (closed : Server) (readers : Readers), ∃ stopped, Rephased .stopped closed stopped ∧
      stopped.lifecycle = closed.lifecycle ∧
      ({ closed with readers } : Server).stopWriters.stopDispatcher =
        if closed.dispatcher.phase = .running then stopped.drainShards stopped.shardWork
        else { stopped with dispatcher := stopped.dispatcher.discard } := by
    intro closed readers
    rcases exists_stopWriters_eq { closed with readers } with ⟨writers, halted⟩
    rw [halted]
    exact ⟨({ closed with readers, writers } : Server).setPhase .stopped, ⟨rfl, rfl, rfl, rfl⟩, rfl,
      rfl⟩
  rcases halt (({ srv with lifecycle := ⟨false, true⟩ } : Server).closeAll .shutdown).2 _ with
    ⟨stopped, rephased, life, ended⟩
  refine ⟨_, stopped, rfl, rephased, life, ?_⟩
  unfold shutdown
  rw [serving, if_neg Bool.false_ne_true]
  exact ended

/-- Shards that work until nothing is left do what they do in single turns. -/
theorem drainShards_onward (steps : Nat) (srv : Server) :
    Onward srv (srv.drainShards steps) ∧
      (∀ who, Books who srv → Books who (srv.drainShards steps)) ∧
      (srv.dispatcher.phase = .stopped → srv.dispatcher.pending ≤ steps →
        (srv.drainShards steps).dispatcher.IsIdle) := by
  induction steps generalizing srv with
  | zero =>
    refine ⟨.refl srv, fun _ books => books, ?_⟩
    intro _ few
    exact Dispatcher.queuedOn_of_pending_eq_zero (Nat.le_zero.mp few)
  | succ steps ih =>
    unfold drainShards
    cases busy : srv.dispatcher.busyShard? with
    | none => exact ⟨.refl srv, fun _ books => books,
        fun _ _ => Dispatcher.queuedOn_of_busyShard?_eq_none busy⟩
    | some shard =>
      have turn := Onward.shardStep srv shard
      rcases ih (srv.shardStep shard) with ⟨onward, books, idle⟩
      refine ⟨turn.trans onward, fun who before => books who (before.shardStep shard), ?_⟩
      intro stopped few
      -- while the dispatcher is stopped every turn leaves one request less
      rcases Dispatcher.takeFrom_of_busyShard? busy with ⟨queued, dispatcher, taken⟩
      have fewer := Floor.pending_shardStep stopped taken
      exact idle (turn.phase.trans stopped) (by omega)

theorem happenings_foldl_close (reason : CloseReason) (ids : List SessionId) (srv : Server) :
    Happenings srv (ids.foldl (fun srv id => (srv.close id reason).2) srv) := by
  induction ids generalizing srv with
  | nil => exact .refl
  | cons id rest ih => exact .head (.close srv id reason) (ih _)

/-- Those among the sessions to be closed that are active are closed for this reason. -/
theorem closingsOf_foldl_close (reason : CloseReason) {ids : List SessionId} (member : id ∈ ids)
    (books : Books who srv) (active : srv.roster.isActive id = true) :
    (ids.foldl (fun srv id => (srv.close id reason).2) srv).closingsOf id = [(id, reason)] := by
  -- until its turn comes the session stays open, and after it what was reported stays
  induction ids generalizing srv with
  | nil => cases member
  | cons first rest ih =>
    have next := books.close first reason
    by_cases same : first = id
    · subst same
      have later := happenings_foldl_close reason rest (srv.close first reason).2
      exact (next.happenings later).closingsOf_later (Onward.of_happenings later).closings
        (books.closingsOf_of_active active reason)
    · refine ih ((List.mem_cons.mp member).resolve_left (Ne.symm same)) next ?_
      rw [roster_close, Roster.isActive_close, active]
      simp [Ne.symm same]

theorem closingsOf_closeAll (books : Books who srv) (active : srv.roster.isActive id = true)
    (reason : CloseReason) : (srv.closeAll reason).2.closingsOf id = [(id, reason)] := by
  rw [closeAll_eq_foldl]
  refine closingsOf_foldl_close reason ?_ books active
  -- an active session is registered, so it is among those to be closed
  rcases Roster.isActive_eq_true_iff.mp active with ⟨s, hs, -⟩
  have registered := (books.accounts.registered id).mpr active
  have there : id < srv.roster.sessions.length := (List.getElem?_eq_some_iff.mp hs).1
  simp [Roster.registeredWhere, there, registered, hs]

theorem lifecycle_shutdown (serving : srv.lifecycle.isShutDown = false) :
    srv.shutdown.lifecycle = ⟨false, true⟩ ∧ srv.shutdown.dispatcher.phase = .stopped := by
  rcases shutdown_eq srv serving with ⟨closed, stopped, heq, rephased, life, ended⟩
  have closings : Onward { srv with lifecycle := ⟨false, true⟩ } closed := by
    rw [heq, closeAll_eq_foldl]
    exact .of_happenings (happenings_foldl_close _ _ _)
  have phase : stopped.dispatcher.phase = .stopped := by rw [rephased.dispatcher]
  have drained := (drainShards_onward stopped.shardWork stopped).1
  rw [ended]
  split
  · exact ⟨drained.lifecycle.trans (life.trans closings.lifecycle), drained.phase.trans phase⟩
  · exact ⟨life.trans closings.lifecycle, phase⟩

theorem shutdown_of_shutDown (ended : srv.lifecycle.isShutDown = true) : srv.shutdown = srv := by
  unfold shutdown
  rw [if_pos ended]

/-! ## Where a server is in its life -/

theorem isShutDown_obey (srv : Server) (command : Command) :
    (srv.obey command).lifecycle.isShutDown = true ↔
      srv.lifecycle.isShutDown = true ∨ command = .shutdown := by
  by_cases stops : command = .shutdown
  · subst stops
    cases serving : srv.lifecycle.isShutDown with
    | true => simp [obey, shutdown_of_shutDown serving, serving]
    | false => simp [obey, (lifecycle_shutdown serving).1]
  · by_cases starts : command = .start
    · subst starts
      rcases obey_start_cases srv with ⟨e, -, -, same⟩ | ⟨before, after, -⟩
      · simp [same]
      · simp [before, after]
    · simp [(obey_ordinary srv starts stops).1.lifecycle, stops]

theorem isShutDown_obeyAll (commands : List Command) (srv : Server) :
    (srv.obeyAll commands).lifecycle.isShutDown = true ↔
      srv.lifecycle.isShutDown = true ∨ .shutdown ∈ commands := by
  induction commands generalizing srv with
  | nil => simp [obeyAll]
  | cons command rest ih =>
    have later : (srv.obeyAll (command :: rest)).lifecycle.isShutDown = true ↔ _ :=
      ih (srv.obey command)
    rw [later, isShutDown_obey, List.mem_cons, or_assoc, @eq_comm _ command]

/-- A server that is not shut down has been started once it was told to start. -/
theorem isStarted_obey {command : Command} (serving : srv.lifecycle.isShutDown = false)
    (goesOn : command ≠ .shutdown) :
    (srv.obey command).lifecycle.isStarted = true ↔
      srv.lifecycle.isStarted = true ∨ command = .start := by
  by_cases starts : command = .start
  · subst starts
    rcases obey_start_cases srv with ⟨e, started, -, same⟩ | ⟨-, after, -⟩
    · have already : srv.lifecycle.isStarted = true := by
        cases life : srv.lifecycle
        simp_all
      simp [same, already]
    · simp [after]
  · simp [(obey_ordinary srv starts goesOn).1.lifecycle, starts]

theorem isStarted_obeyAll {commands : List Command} (goesOn : .shutdown ∉ commands)
    (serving : srv.lifecycle.isShutDown = false) :
    (srv.obeyAll commands).lifecycle.isStarted = true ↔
      srv.lifecycle.isStarted = true ∨ .start ∈ commands := by
  induction commands generalizing srv with
  | nil => simp [obeyAll]
  | cons command rest ih =>
    have here : command ≠ .shutdown := fun same => goesOn (by simp [same])
    have still : (srv.obey command).lifecycle.isShutDown = false := by
      rw [Bool.eq_false_iff, Ne, isShutDown_obey, serving]
      simp [here]
    have later : (srv.obeyAll (command :: rest)).lifecycle.isStarted = true ↔ _ :=
      ih (fun member => goesOn (List.mem_cons_of_mem _ member)) still
    rw [later, isStarted_obey serving here, List.mem_cons, or_assoc, @eq_comm _ command]

/-- A server that was started or shut down stays one that was. -/
theorem begun_obey (begun : srv.lifecycle ≠ ⟨false, false⟩) (command : Command) :
    srv.isStartedBy command = false ∧ (srv.obey command).lifecycle ≠ ⟨false, false⟩ := by
  by_cases starts : command = .start
  · subst starts
    rcases obey_start_cases srv with ⟨e, -, failed, same⟩ | ⟨unstarted, -⟩
    · rw [same]
      exact ⟨by simp [isStartedBy, failed, Except.toBool], begun⟩
    · exact absurd unstarted begun
  · have idle : srv.isStartedBy command = false := by
      cases command with
      | start => exact absurd rfl starts
      | _ => rfl
    refine ⟨idle, ?_⟩
    by_cases stops : command = .shutdown
    · subst stops
      have ended := (isShutDown_obey srv .shutdown).mpr (.inr rfl)
      intro fresh
      simp [fresh] at ended
    · rwa [(obey_ordinary srv starts stops).1.lifecycle]

/-- Of all commands to start, only the first can succeed, and only before the shutdown. -/
theorem starts_le (commands : List Command) (srv : Server) :
    srv.starts commands ≤ if srv.lifecycle = ⟨false, false⟩ then 1 else 0 := by
  -- by induction on the commands: one start at most is left to a server that has not begun
  induction commands generalizing srv with
  | nil => exact Nat.zero_le _
  | cons command rest ih =>
    have later := ih (srv.obey command)
    unfold starts
    by_cases begun : srv.lifecycle = ⟨false, false⟩
    · rw [if_pos begun]
      cases first : srv.isStartedBy command with
      | false =>
        rw [Bool.toNat_false, Nat.zero_add]
        refine Nat.le_trans later ?_
        split <;> omega
      | true =>
        -- a command that starts the server leaves nothing to be started
        have running : (srv.obey command).lifecycle ≠ ⟨false, false⟩ := by
          cases command with
          | start =>
            rcases obey_start_cases srv with ⟨e, late, -⟩ | ⟨-, after, -⟩
            · exact absurd begun late
            · simp [after]
          | _ => cases first
        rw [if_neg running] at later
        rw [Bool.toNat_true]
        omega
    · rcases begun_obey begun command with ⟨idle, still⟩
      rw [if_neg still] at later
      rwa [if_neg begun, idle, Bool.toNat_false, Nat.zero_add]

/-! ## Until the shutdown -/

/-- The dispatcher of a server is where the server is in its life. -/
def Staged (srv : Server) : Prop :=
  srv.dispatcher.phase = if srv.lifecycle.isShutDown then .stopped
    else if srv.lifecycle.isStarted then .running else .idle

theorem Staged.onward (staged : srv.Staged) (onward : Onward srv srv') : srv'.Staged := by
  unfold Staged
  rw [onward.phase, onward.lifecycle]
  exact staged

/-- A server that has not been shut down, with its books. -/
structure Underway (srv : Server) : Prop where
  books : Books (fun _ => True) srv
  staged : Staged srv
  serving : srv.lifecycle.isShutDown = false

theorem underway_blank (plan : ServerPlan) (shardKey : RequestSender → Nat)
    (handlers : HandlerTable) : Underway (blank plan shardKey handlers) := by
  have queues : ∀ (index : Nat) (shard : Shard),
      (blank plan shardKey handlers).dispatcher.shards[index]? = some shard → shard.queued = [] := by
    intro index shard hshard
    have member : shard ∈ List.replicate (max 1 plan.shards) ({} : Shard) :=
      List.mem_of_getElem? hshard
    rw [List.eq_of_mem_replicate member]
  have idle : (blank plan shardKey handlers).dispatcher.IsIdle := by
    intro index
    unfold Dispatcher.queuedOn
    cases hshard : (blank plan shardKey handlers).dispatcher.shards[index]? with
    | none => rfl
    | some shard => exact queues index shard hshard
  have absent : ∀ id, (blank plan shardKey handlers).roster.session? id = none :=
    fun _ => List.getElem?_nil
  refine ⟨⟨⟨?_, ?_, fun _ => rfl⟩, ?_, rfl, ?_, ?_, ?_, nofun⟩, rfl, rfl⟩
  · intro id s hs
    rw [absent] at hs
    cases hs
  · refine fun id => ⟨nofun, fun active => ?_⟩
    rw [Roster.isActive, absent] at active
    cases active
  · intro id
    rw [session?, absent]
    rfl
  · show 0 < (List.replicate (max 1 plan.shards) ({} : Shard)).length
    rw [List.length_replicate]
    omega
  · intro index shard hshard queued member
    rw [queues index shard hshard] at member
    cases member
  · intro id _
    rw [Dispatcher.farewells_of_isIdle idle]
    rfl

/-- The dispatcher of a server accepts notices until the shutdown. -/
theorem Underway.accepting (underway : Underway srv) : srv.dispatcher.phase ≠ .stopped := by
  have staged := underway.staged
  unfold Staged at staged
  rw [staged, underway.serving]
  cases srv.lifecycle.isStarted <;> nofun

theorem Underway.obey (underway : Underway srv) {command : Command} (goesOn : command ≠ .shutdown) :
    Underway (srv.obey command) ∧ srv.closings <+: (srv.obey command).closings := by
  have serving : (srv.obey command).lifecycle.isShutDown = false := by
    rw [Bool.eq_false_iff, Ne, isShutDown_obey, underway.serving]
    simp [goesOn]
  by_cases starts : command = .start
  · subst starts
    rcases obey_start_cases srv with ⟨e, -, -, same⟩ | ⟨unstarted, after, rephased⟩
    · rw [same]
      exact ⟨underway, List.prefix_rfl⟩
    · -- the dispatcher of a server that is not started is idle, and runs from now on
      have idle : srv.dispatcher.phase = .idle := by
        have staged := underway.staged
        unfold Staged at staged
        rw [unstarted] at staged
        exact staged
      have running : srv.dispatcher.start.phase = .running := by
        unfold Dispatcher.start
        rw [if_pos idle]
      rw [running] at rephased
      refine ⟨⟨underway.books.rephase rephased nofun, ?_, serving⟩,
        rephased.closings ▸ List.prefix_rfl⟩
      unfold Staged
      rw [after, rephased.dispatcher]
      rfl
  · rcases obey_ordinary srv starts goesOn with ⟨onward, books⟩
    exact ⟨⟨books _ underway.books, underway.staged.onward onward, serving⟩, onward.closings⟩

theorem Underway.obeyAll {commands : List Command} (underway : Underway srv)
    (goesOn : .shutdown ∉ commands) :
    Underway (srv.obeyAll commands) ∧ srv.closings <+: (srv.obeyAll commands).closings := by
  induction commands generalizing srv with
  | nil => exact ⟨underway, List.prefix_rfl⟩
  | cons command rest ih =>
    have here : command ≠ .shutdown := fun same => goesOn (by simp [same])
    rcases underway.obey here with ⟨next, first⟩
    rcases ih next fun member => goesOn (List.mem_cons_of_mem _ member) with ⟨last, others⟩
    exact ⟨last, first.trans others⟩

/-! ## After the shutdown -/

theorem Books.departureReason (books : Books who srv)
    (reported : srv.closingsOf id = [(id, reason)]) :
    srv.departureReason id = reason := by
  rcases books.ended_of_closingsOf reported with ⟨s, hs, ended, -⟩
  rw [Server.departureReason, hs, Option.bind_some, ended.closeReason, Option.getD_some]

theorem Underway.departureReason_of_active (underway : Underway srv)
    (active : srv.roster.isActive id = true) : srv.departureReason id = .shutdown := by
  rcases Roster.isActive_eq_true_iff.mp active with ⟨s, hs, hactive⟩
  have unclosed := (underway.books.accounts.intact id s hs).unclosed hactive
  have present : srv.session? id = some s := hs
  rw [Server.departureReason, present, Option.bind_some, unclosed, Option.getD_none]

/-- The shutdown closes the sessions that are still active, and leaves the others as they are. -/
theorem Underway.closeAll (underway : Underway srv) :
    let closed := (({ srv with lifecycle := ⟨false, true⟩ } : Server).closeAll .shutdown).2
    Books (fun _ => True) closed ∧ Onward { srv with lifecycle := ⟨false, true⟩ } closed ∧
      ∀ id, id < srv.roster.sessions.length →
        closed.closingsOf id = [(id, srv.departureReason id)] := by
  have books : Books (fun _ => True) { srv with lifecycle := ⟨false, true⟩ } :=
    underway.books.rephase ⟨rfl, rfl, rfl, rfl⟩ fun stopped => absurd stopped underway.accepting
  have happen : Happenings { srv with lifecycle := ⟨false, true⟩ }
      (({ srv with lifecycle := ⟨false, true⟩ } : Server).closeAll .shutdown).2 := by
    rw [closeAll_eq_foldl]
    exact happenings_foldl_close _ _ _
  have onward := Onward.of_happenings happen
  refine ⟨books.happenings happen, onward, ?_⟩
  intro id there
  cases active : srv.roster.isActive id with
  | true =>
    rw [underway.departureReason_of_active active]
    exact closingsOf_closeAll books active .shutdown
  | false =>
    rcases underway.books.closingsOf_of_inactive there active with ⟨reason, reported⟩
    rw [underway.books.departureReason reported]
    exact (books.happenings happen).closingsOf_later onward.closings reported

/-- A server that has been shut down after it was started. -/
structure Over (count : Nat) (srv : Server) : Prop where
  books : Books (· < count) srv
  stopped : srv.dispatcher.phase = .stopped
  idle : srv.dispatcher.IsIdle
  ended : srv.lifecycle.isShutDown = true

theorem Underway.shutdown (underway : Underway srv) (started : srv.lifecycle.isStarted = true) :
    Over srv.roster.sessions.length srv.shutdown ∧ ∀ id, id < srv.roster.sessions.length →
      srv.shutdown.closingsOf id = [(id, srv.departureReason id)] := by
  rcases shutdown_eq srv underway.serving with ⟨closed, stopped, heq, rephased, life, ended⟩
  rcases underway.closeAll with ⟨before, onward, reported⟩
  rw [← heq] at before onward reported
  have running : closed.dispatcher.phase = .running := by
    have staged := underway.staged
    unfold Staged at staged
    rw [underway.serving, started] at staged
    exact onward.phase.trans staged
  -- the sessions that were there are closed when the dispatcher stops
  have books : Books (· < srv.roster.sessions.length) stopped := by
    refine (before.weaken fun _ _ => trivial).rephase rephased fun _ id there => ?_
    rcases before.ended_of_closingsOf (reported id there) with ⟨s, hs, gone, -⟩
    refine ⟨Nat.lt_of_lt_of_le there onward.length, ?_⟩
    have present : closed.roster.session? id = some s := hs
    rw [Roster.isActive, present]
    exact gone.inactive
  have phase : stopped.dispatcher.phase = .stopped := by rw [rephased.dispatcher]
  rcases drainShards_onward stopped.shardWork stopped with ⟨turns, kept, idle⟩
  rw [if_pos running] at ended
  have finished : Over srv.roster.sessions.length srv.shutdown := by
    rw [ended]
    refine ⟨kept _ books, turns.phase.trans phase, idle phase (Nat.le_add_right _ _), ?_⟩
    rw [turns.lifecycle, life, onward.lifecycle]
  refine ⟨finished, fun id there => ?_⟩
  rw [ended] at finished ⊢
  exact finished.books.closingsOf_later (rephased.closings ▸ turns.closings) (reported id there)

/-- Nothing brings a server that has been shut down back. -/
theorem Over.obey {count : Nat} (finished : Over count srv) (command : Command) :
    Over count (srv.obey command) ∧ srv.closings <+: (srv.obey command).closings := by
  by_cases starts : command = .start
  · subst starts
    have same : srv.obey .start = srv := by
      simp only [Server.obey, start_of_shutDown finished.ended]
    rw [same]
    exact ⟨finished, List.prefix_rfl⟩
  · by_cases stops : command = .shutdown
    · subst stops
      have same : srv.obey .shutdown = srv := shutdown_of_shutDown finished.ended
      rw [same]
      exact ⟨finished, List.prefix_rfl⟩
    · rcases obey_ordinary srv starts stops with ⟨onward, books⟩
      refine ⟨⟨books _ finished.books, onward.phase.trans finished.stopped,
        onward.idle finished.stopped finished.idle, ?_⟩, onward.closings⟩
      rw [onward.lifecycle, finished.ended]

theorem Over.obeyAll {count : Nat} (finished : Over count srv) (commands : List Command) :
    Over count (srv.obeyAll commands) ∧ srv.closings <+: (srv.obeyAll commands).closings := by
  induction commands generalizing srv with
  | nil => exact ⟨finished, List.prefix_rfl⟩
  | cons command rest ih =>
    rcases finished.obey command with ⟨next, first⟩
    rcases ih next with ⟨last, others⟩
    exact ⟨last, first.trans others⟩

/-- Once nothing waits, what was reported of a session has been announced. -/
theorem Over.gone {count : Nat} (finished : Over count srv) (there : id < count)
    (reported : srv.closingsOf id = [(id, reason)]) : Gone id reason srv := by
  have inactive := (finished.books.stopped finished.stopped id there).2
  have announced := finished.books.conserved id there
  rw [Dispatcher.farewells_of_isIdle finished.idle, List.append_nil, reported] at announced
  refine ⟨finished.books.ended_of_closingsOf reported, ?_, reported, ?_⟩
  · have unregistered : id ∉ srv.roster.registered := by
      rw [finished.books.accounts.registered, inactive]
      exact Bool.false_ne_true
    simp [Roster.find?, unregistered]
  · exact exists_end_of_farewells announced.symm

/-- The slots that are held are those of later sessions. -/
theorem Over.slots {count : Nat} (finished : Over count srv) (ip : IpAddress) :
    srv.roster.filter.connectionsFrom ip =
      ((srv.roster.sessions.drop count).map Session.slot?).count (some ip) := by
  have free : ((srv.roster.sessions.take count).map Session.slot?).count (some ip) = 0 := by
    refine List.count_eq_zero.mpr fun member => ?_
    rcases List.mem_map.mp member with ⟨s, taken, held⟩
    rcases List.mem_take_iff_getElem.mp taken with ⟨id, there, rfl⟩
    have hs := List.getElem?_eq_getElem (Nat.lt_of_lt_of_le there (Nat.min_le_right _ _))
    rcases finished.books.accounts.of_inactive hs (finished.books.stopped finished.stopped id
      (Nat.lt_of_lt_of_le there (Nat.min_le_left _ _))).2 with ⟨reason, -, none⟩
    exact absurd (none.symm.trans held) nofun
  have split : ((srv.roster.sessions.drop count).map Session.slot?).count (some ip) =
      (srv.roster.sessions.map Session.slot?).count (some ip) := by
    rw [← Nat.zero_add (List.count _ _), ← free, ← List.count_append, ← List.map_append,
      List.take_append_drop]
  rw [finished.books.accounts.slots, split]

/-! ## The whole life -/

section Runs

variable {plan : ServerPlan} {shardKey : RequestSender → Nat} {handlers : HandlerTable}

theorem obeyAll_append (srv : Server) (first second : List Command) :
    srv.obeyAll (first ++ second) = (srv.obeyAll first).obeyAll second :=
  List.foldl_append

/-- Of the calls to close a session, the one that succeeds says why it is gone. -/
theorem Underway.departureReason_of_close (underway : Underway srv) {rest : List Command}
    (goesOn : .shutdown ∉ rest) (closed : (srv.close id reason).1 = true) :
    (srv.obeyAll (.close id reason :: rest)).departureReason id = reason := by
  have active : srv.roster.isActive id = true := by
    rw [close_fst] at closed
    exact closed
  have goes : Command.close id reason ≠ .shutdown := nofun
  rcases underway.obey goes with ⟨next, -⟩
  rcases next.obeyAll goesOn with ⟨last, grown⟩
  exact last.books.departureReason (last.books.closingsOf_later grown
    (underway.books.closingsOf_of_active active reason))

/--
In every run of a server, whatever its handlers do: it is started once at most, and a command to
start it fails once it has been started or shut down. Once a started server has been shut down, each
session that it had is closed and gone, its slot is free and nothing of it is left to be written, and
its end has been reported and announced once: because of the shutdown if the session was active by
then, and otherwise for the reason for which it was closed, which is that of the call to close it
that succeeded. All of this stays so, and another shutdown changes nothing.
-/
theorem obeyAll_lifecycle (plan : ServerPlan) (shardKey : RequestSender → Nat)
    (handlers : HandlerTable) (commands : List Command) :
    let new := blank plan shardKey handlers
    let now := new.obeyAll commands
    new.starts commands ≤ 1 ∧
    (.shutdown ∉ commands → .start ∉ commands → ∃ running, now.start = .ok running) ∧
    (.shutdown ∉ commands → .start ∈ commands → now.start = .error (.illegalState .serverStarted)) ∧
    (.shutdown ∈ commands → now.start = .error (.shutdown .server) ∧ now.shutdown = now) ∧
    (∀ e, now.start = .error e → now.obey .start = now) ∧
    ∀ before after, commands = before ++ .shutdown :: after → .shutdown ∉ before → .start ∈ before →
      let last := new.obeyAll before
      let count := last.roster.sessions.length
      (∀ id, id < count → Gone id (last.departureReason id) now ∧
        (last.roster.isActive id = true → last.departureReason id = .shutdown) ∧
        (last.roster.isActive id = false → last.closingsOf id = [(id, last.departureReason id)]) ∧
        ∀ earlier later reason, before = earlier ++ .close id reason :: later →
          ((new.obeyAll earlier).close id reason).1 = true → last.departureReason id = reason) ∧
      ∀ ip, now.roster.filter.connectionsFrom ip =
        ((now.roster.sessions.drop count).map Session.slot?).count (some ip) := by
  intro new now
  have blank : Underway new := underway_blank plan shardKey handlers
  have unstarted : new.lifecycle = ⟨false, false⟩ := rfl
  refine ⟨starts_le commands new, ?_, ?_, ?_, ?_, ?_⟩
  · intro goesOn never
    have serving := (blank.obeyAll goesOn).1.serving
    have idle : now.lifecycle.isStarted = false := by
      rw [Bool.eq_false_iff, Ne, isStarted_obeyAll goesOn blank.serving, unstarted]
      simp [never]
    have fresh : now.lifecycle = ⟨false, false⟩ := by
      have running : now.lifecycle.isShutDown = false := serving
      cases life : now.lifecycle
      simp_all
    rcases start_of_unstarted fresh with ⟨running, started, -⟩
    exact ⟨running, started⟩
  · intro goesOn started
    exact start_of_started (blank.obeyAll goesOn).1.serving
      ((isStarted_obeyAll goesOn blank.serving).mpr (.inr started))
  · intro ended
    have finished := (isShutDown_obeyAll commands new).mpr (.inr ended)
    exact ⟨start_of_shutDown finished, shutdown_of_shutDown finished⟩
  · intro e failed
    simp only [obey, failed]
  · rintro before after rfl goesOn started last count
    rcases blank.obeyAll goesOn with ⟨underway, -⟩
    rcases underway.shutdown ((isStarted_obeyAll goesOn blank.serving).mpr (.inr started)) with
      ⟨finished, reported⟩
    rcases finished.obeyAll after with ⟨forever, grown⟩
    have split : now = (last.shutdown).obeyAll after := obeyAll_append new before (.shutdown :: after)
    rw [← split] at forever grown
    refine ⟨fun id there => ⟨?_, ?_, ?_, ?_⟩, forever.slots⟩
    · exact forever.gone there (forever.books.closingsOf_later grown (reported id there))
    · exact underway.departureReason_of_active
    · intro inactive
      rcases underway.books.closingsOf_of_inactive there inactive with ⟨reason, closed⟩
      rwa [underway.books.departureReason closed]
    · rintro earlier later reason rfl closed
      have early : .shutdown ∉ earlier ∧ .shutdown ∉ later := by
        simpa using goesOn
      rw [show last = _ from obeyAll_append new earlier (.close id reason :: later)]
      exact (blank.obeyAll early.1).1.departureReason_of_close early.2 closed

/-- One of two sessions is closed before the shutdown, and then all is tried again. -/
def lifetime : List Command :=
  [.openWebSocket {} .loopback, .start, .openWebSocket {} .loopback, .close 0 .idle, .shutdown, .start,
    .shutdown]

theorem obeyAll_lifecycle_lifetime :
    let now := (blank {} (fun _ => 0) {}).obeyAll lifetime
    Gone 0 .idle now ∧ Gone 1 .shutdown now ∧ now.start = .error (.shutdown .server) ∧
      now.shutdown = now := by
  intro now
  rcases obeyAll_lifecycle {} (fun _ => 0) {} lifetime with ⟨-, -, -, finished, -, stopped⟩
  rcases stopped (lifetime.take 4) (lifetime.drop 5) rfl (by simp [lifetime]) (by simp [lifetime]) with
    ⟨gone, -⟩
  rcases gone 0 (by decide) with ⟨first, -, -, closed⟩
  rcases gone 1 (by decide) with ⟨second, live, -⟩
  rw [closed (lifetime.take 3) [] .idle rfl (by decide)] at first
  rw [live (by decide)] at second
  exact ⟨first, second, finished (by simp [lifetime])⟩

end Runs

end Server

end SessionNet
