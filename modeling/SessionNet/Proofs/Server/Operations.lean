import SessionNet.Proofs.Dispatch.Keeping
import SessionNet.Server.Plan
import SessionNet.Server.Run

/-!
# Runs of a server

A run starts from a server without sessions and takes operations in any order: connections are
accepted, messages are submitted, shards process requests, sessions are closed, and the dispatcher
is started and stopped. Each operation is a sequence of moves, and what the moves preserve holds
throughout the run.
-/

namespace SessionNet

/-- What is done to a server from outside, or a turn of one of its shards. -/
inductive Operation where
  | openWebSocket (sink : Sink) (remote : SocketAddress)
  | acceptStream (stream : Stream) (remote : SocketAddress)
  | submit (id : SessionId) (message : Message) (transport : TransportKind)
  /-- Process a request past the queues, whoever made it. -/
  | process (request : Request)
  | shardStep (shard : Nat)
  | close (id : SessionId) (reason : CloseReason)
  | closeAll (reason : CloseReason)
  | start
  /-- Accept no more requests; the shards go on with those they have. -/
  | stop

namespace Server

/-- A server without sessions, with handlers and any rule that spreads requests over the shards. -/
def blank (plan : ServerPlan) (shardKey : RequestSender → Nat) (handlers : HandlerTable) : Server :=
  { create plan with
    dispatcher := Dispatcher.create plan.shards plan.requestQueueSize shardKey
    handlers }

def setPhase (srv : Server) (phase : StagePhase) : Server :=
  { srv with dispatcher := { srv.dispatcher with phase } }

/-- The server after an operation; one that fails leaves it as it was. -/
def step (srv : Server) : Operation → Server
  | .openWebSocket sink remote =>
    match srv.createWebSocket sink remote with
    | .ok (_, srv) => srv
    | .error _ => srv
  | .acceptStream stream remote =>
    match srv.acceptStream stream remote with
    | .ok (_, srv) => srv
    | .error _ => srv
  | .submit id message transport => (srv.submit id message transport).1
  | .process request => srv.process request
  | .shardStep shard => srv.shardStep shard
  | .close id reason => (srv.close id reason).2
  | .closeAll reason => (srv.closeAll reason).2
  | .start => srv.startDispatcher
  | .stop => srv.setPhase .stopped

/-- The server after operations in order. -/
def run (srv : Server) (operations : List Operation) : Server := operations.foldl step srv

/-! ## Moves -/

/-- A server that has one more session, which is new and active. -/
structure Opened (srv srv' : Server) : Prop where
  standing : ∀ other, srv'.roster.standing? other =
    if other = srv.roster.sessions.length then some ⟨.none, none, true, none, true⟩
    else srv.roster.standing? other
  length : srv'.roster.sessions.length = srv.roster.sessions.length + 1
  registered : srv'.roster.registered = srv.roster.sessions.length :: srv.roster.registered
  byIdentity : srv'.roster.byIdentity = srv.roster.byIdentity
  boundIdentities : srv'.roster.boundIdentities = srv.roster.boundIdentities
  settings : srv'.roster.settings = srv.roster.settings
  dispatcher : srv'.dispatcher = srv.dispatcher
  notifies : srv'.notifiesDispatcher = srv.notifiesDispatcher
  history : srv'.history = srv.history
  handlers : srv'.handlers = srv.handlers

namespace Opened

variable {srv srv' : Server}

theorem isActive (opened : Opened srv srv') (other : SessionId) :
    srv'.roster.isActive other =
      if other = srv.roster.sessions.length then true else srv.roster.isActive other := by
  simp only [Roster.isActive_eq_standing, opened.standing]
  split <;> rfl

theorem association (opened : Opened srv srv') (other : SessionId) :
    srv'.roster.association? other =
      if other = srv.roster.sessions.length then some .none else srv.roster.association? other := by
  simp only [Roster.association?_eq_standing, opened.standing]
  split <;> rfl

/-- A new session bears no identity, as nobody did under its number before. -/
theorem bearing (opened : Opened srv srv') (other : SessionId) :
    srv'.roster.bearing? other = srv.roster.bearing? other := by
  simp only [Roster.bearing?_eq_standing, opened.standing]
  split
  · rename_i new
    rw [new, Roster.standing?_length]
    rfl
  · rfl

theorem managed (opened : Opened srv srv')
    (managed : ∀ id t, srv.roster.standing? id = some t → t.isManaged = true)
    (id : SessionId) (t : Standing) (ht : srv'.roster.standing? id = some t) :
    t.isManaged = true := by
  rw [opened.standing] at ht
  split at ht
  · rcases Option.some.inj ht with rfl
    rfl
  · exact managed id t ht

theorem association_of_done (opened : Opened srv srv') {id : SessionId}
    (done : srv.roster.association? id = some .done) :
    srv'.roster.association? id = some .done := by
  have old : id ≠ srv.roster.sessions.length := by
    rintro rfl
    simp [Roster.association?_eq_standing, Roster.standing?_length] at done
  simp [opened.association, old, done]

/-- A new session is associated with nothing, so the index and the others stay settled. -/
theorem settled (opened : Opened srv srv') {stage : Stage} (free : stage.attempt? = none)
    (settled : Settled stage srv.roster) : Settled stage srv'.roster where
  attempt id := by
    rw [opened.association]
    split
    · simp [free]
    · exact settled.attempt id
  unbound id unfinished := by
    rw [opened.bearing]
    exact settled.unbound id fun done => unfinished (opened.association_of_done done)
  indexed identity id member := by
    rw [opened.byIdentity] at member
    exact opened.association_of_done (settled.indexed identity id member)

end Opened

/-- A server without sessions has nothing to settle. -/
theorem settled_blank {plan : ServerPlan} {shardKey : RequestSender → Nat} {handlers : HandlerTable}
    {stage : Stage} (free : stage.attempt? = none) :
    Settled stage (blank plan shardKey handlers).roster := by
  have absent : ∀ id, (blank plan shardKey handlers).roster.session? id = none := by
    intro id
    exact List.getElem?_nil
  refine ⟨?_, ?_, ?_⟩
  · intro id
    simp [Roster.association?, absent, free]
  · intro id _
    simp [Roster.bearing?, absent]
  · intro identity id member
    cases member

/-- The parts that operations are made of; requests are processed directly only if that is allowed. -/
inductive Move (direct : Prop) : Server → Server → Prop
  | opening {srv srv' : Server} (opened : Opened srv srv') : Move direct srv srv'
  | aside {srv srv' : Server} (same : SameStanding srv srv') : Move direct srv srv'
  /-- A message is accepted by the shard of its session. -/
  | accept {srv : Server} {dispatcher : Dispatcher} {id : SessionId} {s : Session}
      {message : Message} {transport : TransportKind} (hs : srv.session? id = some s)
      (accepted : srv.dispatcher.enqueue
        ⟨.session id, requestKind s.association message, transport⟩ = .ok dispatcher) :
      Move direct srv { srv with dispatcher }
  | process (srv : Server) (request : Request) (allowed : direct) :
      Move direct srv (srv.process request)
  | shardStep (srv : Server) (shard : Nat) : Move direct srv (srv.shardStep shard)
  | close (srv : Server) (id : SessionId) (reason : CloseReason) :
      Move direct srv (srv.close id reason).2
  /-- The dispatcher gets on; one that is stopped does not accept again. -/
  | turn (srv : Server) {phase : StagePhase}
      (forward : srv.dispatcher.phase = .stopped → phase = .stopped) :
      Move direct srv (srv.setPhase phase)

/-- A sequence of moves. -/
abbrev Moves (direct : Prop) : Server → Server → Prop := Relation.ReflTransGen (Move direct)

section Moves

variable {direct : Prop} {srv srv' : Server} {id : SessionId} {remote : SocketAddress}

/-- A new session takes its slot and is registered. -/
theorem opened_admitSession {create : Roster → Except NetError (SessionId × Roster)}
    (creates : ∀ r, (∃ e, create r = .error e) ∨ ∃ transport, create r =
      .ok (r.register { r.freshSession (some remote) srv.now with transport }))
    (admitted : srv.admitSession remote create = .ok (id, srv')) : Opened srv srv' := by
  obtain ⟨filter, roster, -, made, rfl⟩ := admitSession_eq_ok admitted
  rcases creates { srv.roster with filter } with ⟨e, failed⟩ | ⟨transport, registered⟩
  · cases failed.symm.trans made
  · cases registered.symm.trans made
    -- the slot shows in nothing but the flag that it is held
    refine ⟨?_, ?_, rfl, rfl, rfl, rfl, rfl, rfl, rfl, rfl⟩
    · intro other
      exact (Roster.standing?_update_keeping (f := fun s => { s with holdsSlot := true })
        fun _ => rfl).trans Roster.standing?_register
    · simp [Roster.update]

theorem opened_createWebSocket {sink : Sink} (made : srv.createWebSocket sink remote = .ok (id, srv')) :
    Opened srv srv' :=
  opened_admitSession (fun r => .inr ⟨_, Roster.createWebSocket_eq r sink remote srv.now⟩) made

/-- A server whose readers are stopped closes an accepted session at once. -/
theorem acceptStream_eq_ok {stream : Stream}
    (accepted : srv.acceptStream stream remote = .ok (id, srv')) :
    ∃ after,
      srv.admitSession remote (fun r => r.createSocket stream remote srv.now) = .ok (id, after) ∧
      (srv' = (after.close id .shutdown).2 ∨ srv' = after.openReader id) := by
  unfold acceptStream at accepted
  split at accepted
  · cases accepted
  · rename_i id after admitted
    split at accepted
    · cases accepted
      exact ⟨after, admitted, .inl rfl⟩
    · cases accepted
      exact ⟨after, admitted, .inr rfl⟩

theorem opened_acceptStream {stream : Stream}
    (accepted : srv.acceptStream stream remote = .ok (id, srv')) :
    ∃ after, Opened srv after ∧
      (srv' = (after.close id .shutdown).2 ∨ srv' = after.openReader id) := by
  rcases acceptStream_eq_ok accepted with ⟨after, admitted, ended⟩
  exact ⟨after, opened_admitSession (fun r => r.createSocket_cases stream remote srv.now) admitted,
    ended⟩

theorem moves_createWebSocket {sink : Sink} (made : srv.createWebSocket sink remote = .ok (id, srv')) :
    Moves direct srv srv' :=
  .single (.opening (opened_createWebSocket made))

theorem moves_acceptStream {stream : Stream}
    (accepted : srv.acceptStream stream remote = .ok (id, srv')) : Moves direct srv srv' := by
  rcases opened_acceptStream accepted with ⟨after, opened, ended⟩
  have first : Moves direct srv after := .single (.opening opened)
  rcases ended with rfl | rfl
  · exact first.tail (.close after id .shutdown)
  · exact first.tail (.aside (.of_roster_eq rfl rfl rfl rfl fun _ confined => confined))

theorem moves_submit (srv : Server) (id : SessionId) (message : Message) (transport : TransportKind) :
    Moves direct srv (srv.submit id message transport).1 := by
  unfold submit
  cases hs : srv.session? id with
  | none => exact .refl
  | some s =>
    have counted : SameStanding srv (srv.update id Session.recordMessage) :=
      sameStanding_update srv id fun _ => rfl
    have first : Moves direct srv (srv.update id Session.recordMessage) := .single (.aside counted)
    have hs' : (srv.update id Session.recordMessage).session? id = some s.recordMessage := by
      have updated : (srv.update id Session.recordMessage).roster.session? id =
          (srv.roster.session? id).map Session.recordMessage := Roster.session?_update_self
      have present : srv.roster.session? id = some s := hs
      rw [present] at updated
      exact updated
    dsimp only
    split
    · rename_i dispatcher accepted
      exact first.tail (.accept hs' accepted)
    · split
      · exact first.tail (.aside (sameStanding_update _ id fun _ => rfl))
      · exact first

theorem moves_closeAll (srv : Server) (reason : CloseReason) :
    Moves direct srv (srv.closeAll reason).2 :=
  closeAll_preserves (P := Moves direct srv)
    (fun later id before => before.tail (.close later id reason)) .refl

/-- A shard that has a request takes it off its queue, processes it and gives back its permit. -/
theorem shardStep_cases (srv : Server) (shard : Nat) :
    srv.shardStep shard = srv ∨
      ∃ queued dispatcher after, srv.dispatcher.takeFrom shard = some (queued, dispatcher) ∧
        after = ({ srv with dispatcher } : Server).process queued.request ∧
        srv.shardStep shard = { after with dispatcher := after.dispatcher.finish shard queued } := by
  unfold shardStep
  cases srv.dispatcher.takeFrom shard with
  | none => exact .inl rfl
  | some taken => exact .inr ⟨taken.1, taken.2, _, rfl, rfl, rfl⟩

/-- Every operation is a sequence of moves. -/
theorem moves_step (srv : Server) {operation : Operation}
    (allowed : ∀ request, operation = .process request → direct) :
    Moves direct srv (srv.step operation) := by
  cases operation with
  | openWebSocket sink remote =>
    cases made : srv.createWebSocket sink remote with
    | error e => simpa only [step, made] using .refl
    | ok result => simpa only [step, made] using moves_createWebSocket made
  | acceptStream stream remote =>
    cases accepted : srv.acceptStream stream remote with
    | error e => simpa only [step, accepted] using .refl
    | ok result => simpa only [step, accepted] using moves_acceptStream accepted
  | submit id message transport => exact moves_submit srv id message transport
  | process request => exact .single (.process srv request (allowed request rfl))
  | shardStep shard => exact .single (.shardStep srv shard)
  | close id reason => exact .single (.close srv id reason)
  | closeAll reason => exact moves_closeAll srv reason
  | start =>
    have started : srv.step .start =
        srv.setPhase (if srv.dispatcher.phase = .idle then .running else srv.dispatcher.phase) := by
      simp only [step, startDispatcher, Dispatcher.start, setPhase]
      split <;> rfl
    rw [started]
    refine .single (.turn srv ?_)
    intro stopped
    simp [stopped]
  | stop => exact .single (.turn srv fun _ => rfl)

theorem Moves.preserves {P : Server → Prop} (moves : Moves direct srv srv')
    (hmove : ∀ a b, Move direct a b → P a → P b) (h : P srv) : P srv' := by
  induction moves with
  | refl => exact h
  | tail _ move ih => exact hmove _ _ move ih

/-- What every move preserves, every run preserves. -/
theorem run_preserves {P : Server → Prop} (hmove : ∀ a b, Move direct a b → P a → P b)
    {operations : List Operation} (allowed : ∀ request, .process request ∈ operations → direct) :
    ∀ srv, P srv → P (srv.run operations) := by
  induction operations with
  | nil =>
    intro srv h
    exact h
  | cons operation rest ih =>
    intro srv h
    have here : ∀ request, operation = .process request → direct := by
      intro request same
      exact allowed request (by simp [same])
    have next : P (srv.step operation) := (moves_step srv here).preserves hmove h
    exact ih (fun request member => allowed request (List.mem_cons_of_mem _ member)) _ next

end Moves

end Server

end SessionNet
