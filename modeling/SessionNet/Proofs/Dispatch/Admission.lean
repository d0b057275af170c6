import SessionNet.Proofs.Dispatch.Effects
import SessionNet.Proofs.Server.Operations

/-!
# Order and admission of requests

Requests and notices come in from anywhere while the shards work side by side, each on one request
at a time, and handlers close sessions as they like. Whatever the interleaving is, each accepted
request is processed once, those of one sender in their order, and a shard refuses a request just
when it holds as many bounded ones as it has permits. When the dispatcher has stopped, the shards
still process what was accepted.
-/

namespace SessionNet

/-- What happens to the requests of a server. -/
inductive FloorEvent where
  | openWebSocket (sink : Sink) (remote : SocketAddress)
  | acceptStream (stream : Stream) (remote : SocketAddress)
  | enqueue (request : Request)
  | enqueueNotice (request : Request)
  | close (id : SessionId) (reason : CloseReason)
  | start
  /-- A shard processes the request that it has in hand or, if it has none, takes its next one. -/
  | advance (shard : Nat)

/-- Whether it is the turn of a shard. -/
def FloorEvent.advances (shard : Nat) : FloorEvent → Bool
  | .advance other => other = shard
  | _ => false

/-- A server whose shards work side by side, and the accounts of its requests. -/
structure Floor where
  server : Server
  ledger : Ledger := {}

namespace Floor

/-- A server in any state, with a new dispatcher. -/
def create (srv : Server) (shards capacity : Nat) (shardKey : RequestSender → Nat) : Floor :=
  { server := { srv with dispatcher := .create shards capacity shardKey } }

/-- The server has become another one and told the dispatcher of the sessions that were closed. -/
def become (f : Floor) (srv : Server) : Floor :=
  { server := srv
    ledger := f.ledger.accept (srv.told (srv.closings.drop f.server.closings.length)) }

/-- Hand over a request; one that is refused changes nothing. -/
def submit (f : Floor) (request : Request) (bounded : Bool) : Floor :=
  match f.server.dispatcher.push request bounded with
  | .ok dispatcher =>
    { server := { f.server with dispatcher }, ledger := f.ledger.accept [⟨request, bounded⟩] }
  | .error _ => f

/-- A shard takes its oldest request. -/
def take (f : Floor) (shard : Nat) : Floor :=
  match f.server.dispatcher.takeFrom shard with
  | none => f
  | some (queued, dispatcher) =>
    { server := { f.server with dispatcher }, ledger := f.ledger.hold shard (some queued) }

/-- A shard processes the request that it has in hand, and gives back its permit. -/
def finish (f : Floor) (shard : Nat) (queued : Queued) : Floor :=
  let f := f.become (f.server.process queued.request)
  { server := { f.server with dispatcher := f.server.dispatcher.finish shard queued }
    ledger := f.ledger.finish shard queued }

def advance (f : Floor) (shard : Nat) : Floor :=
  match f.ledger.inHand shard with
  | none => f.take shard
  | some queued => f.finish shard queued

def step (f : Floor) : FloorEvent → Floor
  | .openWebSocket sink remote => f.become (f.server.step (.openWebSocket sink remote))
  | .acceptStream stream remote => f.become (f.server.step (.acceptStream stream remote))
  | .enqueue request => f.submit request true
  | .enqueueNotice request => f.submit request false
  | .close id reason => f.become (f.server.close id reason).2
  | .start => { f with server := f.server.startDispatcher }
  | .advance shard => f.advance shard

def run (f : Floor) (events : List FloorEvent) : Floor := events.foldl step f

/-- The dispatcher accepts nothing more. If it runs, its shards go on with what they have. -/
def stop (f : Floor) : Floor :=
  { f with
    server := if f.server.dispatcher.phase = .running then f.server.setPhase .stopped
      else f.server.stopDispatcher }

/-- The ledger and the dispatcher it is about. -/
def account (f : Floor) : Ledger × Dispatcher := (f.ledger, f.server.dispatcher)

/-- Whether the ledger is right about the dispatcher. -/
abbrev Balanced (f : Floor) : Prop := f.ledger.Balances f.server.dispatcher

/-- The requests of a shard among those of a log. -/
def share (f : Floor) (shard : Nat) (log : List Queued) : List Queued :=
  f.server.dispatcher.share shard log

/-- The requests that a shard is to process, oldest first. -/
def remaining (f : Floor) (shard : Nat) : List Queued := f.ledger.remaining f.server.dispatcher shard

/-- How many bounded requests a shard has accepted and not processed. -/
def outstanding (f : Floor) (shard : Nat) : Nat := f.ledger.outstanding f.server.dispatcher shard

/-- The turns that a shard has made use of. -/
def progress (f : Floor) (shard : Nat) : Nat := f.ledger.progress f.server.dispatcher shard

/-- The turns that a shard needs for the requests that it has. -/
def work (f : Floor) (shard : Nat) : Nat := f.ledger.work f.server.dispatcher shard

variable {f : Floor} {srv : Server} {shard : Nat} {queued : Queued}

/-! ## Events as dealings -/

theorem dealings_become
    (added : srv.dispatcher = f.server.dispatcher.appendAll
      (srv.told (srv.closings.drop f.server.closings.length))) :
    Ledger.Dealings f.account (f.become srv).account := by
  unfold account become
  by_cases stopped : f.server.dispatcher.phase = .stopped
  · have silent : srv.told (srv.closings.drop f.server.closings.length) = [] := by
      refine Server.told_of_stopped ?_ _
      rw [added, Dispatcher.phase_appendAll, stopped]
    rw [silent] at added ⊢
    rw [added, Ledger.accept, List.append_nil]
    exact .refl
  · rw [added]
    exact Ledger.dealings_appendAll stopped fun _ member => Server.bounded_of_told member

theorem dealings_submit (f : Floor) (request : Request) (bounded : Bool) :
    Ledger.Dealings f.account (f.submit request bounded).account := by
  unfold submit
  split
  · rename_i dispatcher pushed
    rcases Dispatcher.append_of_push pushed with ⟨accepting, admitted, rfl⟩
    exact .single (.accept accepting admitted)
  · exact .refl

theorem dealings_process (f : Floor) (request : Request) :
    Ledger.Dealings f.account (f.become (f.server.process request)).account :=
  dealings_become (Server.Reports.process f.server request).dispatcher_eq

theorem dealings_advance (f : Floor) (shard : Nat) :
    Ledger.Dealings f.account (f.advance shard).account := by
  unfold advance
  cases hand : f.ledger.inHand shard with
  | none =>
    dsimp only
    unfold take
    split
    · exact .refl
    · rename_i taken
      exact .single (.take hand taken)
  | some queued => exact (dealings_process f queued.request).tail (.finish hand)

/-- A session that is opened is not reported, but it may be closed at once. -/
theorem dispatcher_of_opened {srv' srv'' : Server} (opened : Server.Opened srv srv')
    (reports : Server.Reports srv' srv'') :
    srv''.dispatcher =
      srv.dispatcher.appendAll (srv''.told (srv''.closings.drop srv.closings.length)) := by
  have closings : srv'.closings = srv.closings := by
    rw [Server.closings, Server.closings, opened.history]
  rw [← opened.dispatcher, ← closings]
  exact reports.dispatcher_eq

/-- Everything that happens is a sequence of dealings. -/
theorem dealings_step (f : Floor) (event : FloorEvent) :
    Ledger.Dealings f.account (f.step event).account := by
  cases event with
  | openWebSocket sink remote =>
    refine dealings_become ?_
    cases made : f.server.createWebSocket sink remote with
    | error e =>
      simp only [Server.step, made]
      exact (Server.Reports.refl f.server).dispatcher_eq
    | ok result =>
      simp only [Server.step, made]
      exact dispatcher_of_opened (Server.opened_createWebSocket made) (.refl _)
  | acceptStream stream remote =>
    refine dealings_become ?_
    cases made : f.server.acceptStream stream remote with
    | error e =>
      simp only [Server.step, made]
      exact (Server.Reports.refl f.server).dispatcher_eq
    | ok result =>
      simp only [Server.step, made]
      rcases Server.opened_acceptStream made with ⟨after, opened, closed | reading⟩
      · rw [closed]
        exact dispatcher_of_opened opened (.close after _ .shutdown)
      · rw [reading]
        exact dispatcher_of_opened opened (.of_silent ⟨fun _ => rfl, rfl, rfl, rfl⟩)
  | enqueue request => exact dealings_submit f request true
  | enqueueNotice request => exact dealings_submit f request false
  | close id reason => exact dealings_become (Server.Reports.close f.server id reason).dispatcher_eq
  | start => exact .single .start
  | advance shard => exact dealings_advance f shard

theorem follows_step (f : Floor) (event : FloorEvent) :
    Ledger.Follows f.account (f.step event).account :=
  .of_dealings (dealings_step f event)

theorem follows_run (events : List FloorEvent) (f : Floor) :
    Ledger.Follows f.account (f.run events).account := by
  induction events generalizing f with
  | nil => exact .refl _
  | cons event rest ih => exact (follows_step f event).trans (ih (f.step event))

/-! ## Turns -/

/-- Whatever is accepted, no turn is made use of. -/
theorem progress_of_follows {g : Floor} (follows : Ledger.Follows f.account g.account)
    (processed : g.ledger.processed = f.ledger.processed)
    (hand : g.ledger.inHand = f.ledger.inHand) : g.progress shard = f.progress shard := by
  have share : g.server.dispatcher.share shard = f.server.dispatcher.share shard := by
    funext log
    exact follows.share shard log
  unfold progress Ledger.progress
  rw [share, processed, hand]

/-- A shard that has nothing in hand makes use of its turn if a request waits. -/
theorem progress_take (other : Nat) (free : f.ledger.inHand shard = none) :
    (f.take shard).progress other =
      f.progress other + if shard = other ∧ f.work shard ≠ 0 then 1 else 0 := by
  cases taken : f.server.dispatcher.takeFrom shard with
  | none =>
    have idle : f.work shard = 0 := by
      rw [work, Ledger.work, Dispatcher.takeFrom_eq_none_iff.mp taken, free]
      rfl
    simp [take, taken, idle]
  | some next =>
    have busy : f.work shard ≠ 0 := by
      rw [work, Ledger.work, Dispatcher.queuedOn_takeFrom taken, if_pos rfl, List.length_cons]
      omega
    simp only [take, taken, ne_eq, busy, not_false_eq_true, and_true]
    exact Ledger.progress_take free taken

theorem progress_finish (other : Nat) (balanced : f.Balanced)
    (hand : f.ledger.inHand shard = some queued) :
    (f.finish shard queued).progress other =
      f.progress other + if shard = other ∧ f.work shard ≠ 0 then 1 else 0 := by
  have follows := Ledger.Follows.of_dealings (dealings_process f queued.request)
  have busy : f.work shard ≠ 0 := by
    rw [work, Ledger.work, hand, Option.toList_some, List.length_singleton]
    omega
  calc (f.finish shard queued).progress other
      = (f.become (f.server.process queued.request)).progress other +
          if shard = other then 1 else 0 := (follows.balances balanced).progress_finish hand
    _ = f.progress other + if shard = other then 1 else 0 := by
        rw [progress_of_follows follows rfl rfl]
    _ = f.progress other + if shard = other ∧ f.work shard ≠ 0 then 1 else 0 := by
        simp only [busy, ne_eq, not_false_eq_true, and_true]

theorem progress_advance (other : Nat) (balanced : f.Balanced) :
    (f.advance shard).progress other =
      f.progress other + if shard = other ∧ f.work shard ≠ 0 then 1 else 0 := by
  unfold advance
  cases hand : f.ledger.inHand shard with
  | none => exact progress_take other hand
  | some queued => exact progress_finish other balanced hand

/-- Only the turns of shards change what they have in hand and what is processed. -/
theorem kept_step {event : FloorEvent} (unturned : ∀ shard, event ≠ .advance shard) :
    (f.step event).ledger.processed = f.ledger.processed ∧
      (f.step event).ledger.inHand = f.ledger.inHand := by
  have submitted : ∀ request bounded,
      (f.submit request bounded).ledger.processed = f.ledger.processed ∧
        (f.submit request bounded).ledger.inHand = f.ledger.inHand := by
    intro request bounded
    unfold submit
    split <;> exact ⟨rfl, rfl⟩
  cases event with
  | enqueue request => exact submitted request true
  | enqueueNotice request => exact submitted request false
  | advance shard => exact absurd rfl (unturned shard)
  | _ => exact ⟨rfl, rfl⟩

/-- A turn of a shard is of use, unless the shard has nothing to do. -/
theorem progress_step (balanced : f.Balanced) (event : FloorEvent) (shard : Nat) :
    (f.step event).progress shard =
      f.progress shard + if event.advances shard = true ∧ f.work shard ≠ 0 then 1 else 0 := by
  by_cases turned : ∃ other, event = .advance other
  · rcases turned with ⟨other, rfl⟩
    have advanced : (f.step (.advance other)).progress shard = _ := progress_advance shard balanced
    rw [advanced]
    by_cases here : other = shard <;> simp [FloorEvent.advances, here]
  · have unturned : ∀ other, event ≠ .advance other := fun other same => turned ⟨other, same⟩
    have elsewhere : event.advances shard = false := by
      cases event with
      | advance other => exact absurd rfl (unturned other)
      | _ => rfl
    rw [progress_of_follows (follows_step f event) (kept_step unturned).1 (kept_step unturned).2]
    simp [elsewhere]

/-- After enough turns a shard has processed all that it had accepted before. -/
theorem progress_run (balanced : f.Balanced) (events : List FloorEvent) (shard : Nat) :
    min (f.progress shard + events.countP (·.advances shard))
        (2 * (f.share shard f.ledger.accepted).length) ≤ (f.run events).progress shard := by
  -- by induction on the events, from any floor that balances
  induction events generalizing f with
  | nil => exact Nat.min_le_left _ _
  | cons event rest ih =>
    have follows := follows_step f event
    have later : _ ≤ ((f.step event).run rest).progress shard := ih (follows.balances balanced)
    have used := progress_step balanced event shard
    have more : (f.share shard f.ledger.accepted).length ≤
        ((f.step event).share shard (f.step event).ledger.accepted).length :=
      (follows.share_accepted shard).length_le
    have whole : f.progress shard + f.work shard = 2 * (f.share shard f.ledger.accepted).length :=
      balanced.progress_add_work shard
    rw [List.countP_cons]
    refine Nat.le_trans ?_ later
    -- a turn that is of no use finds that all is processed already
    by_cases turned : event.advances shard = true <;> by_cases idle : f.work shard = 0 <;>
      simp only [turned, idle, ne_eq, not_true_eq_false, not_false_eq_true, and_true, and_false,
        if_true, if_false] at used ⊢ <;> omega

/-! ## Stopping -/

/-- The dispatcher runs from the moment it is started. -/
theorem phase_run_of_start {events : List FloorEvent} (started : .start ∈ events) (f : Floor)
    (accepting : f.server.dispatcher.phase ≠ .stopped) :
    (f.run events).server.dispatcher.phase = .running := by
  induction events generalizing f with
  | nil => cases started
  | cons event rest ih =>
    rcases List.mem_cons.mp started with rfl | later
    · have running : (f.step .start).server.dispatcher.phase = .running := by
        show f.server.dispatcher.start.phase = .running
        unfold Dispatcher.start
        cases phase : f.server.dispatcher.phase with
        | idle => rfl
        | running => exact phase
        | stopped => exact absurd phase accepting
      exact (follows_run rest (f.step .start)).running running
    · exact ih later (f.step event) (mt (follows_step f event).stopped.mp accepting)

theorem phase_stop (f : Floor) : f.stop.server.dispatcher.phase = .stopped := by
  unfold stop
  dsimp only
  split
  · rfl
  · rename_i idle
    unfold Server.stopDispatcher
    rw [if_neg idle]
    rfl

theorem stop_of_running (running : f.server.dispatcher.phase = .running) :
    f.stop = { f with server := f.server.setPhase .stopped } := by
  unfold stop
  rw [if_pos running]

/-- A shard with nothing in hand makes two turns for a request, and has nothing in hand again. -/
theorem advance_advance (free : f.ledger.inHand shard = none) :
    (f.run [.advance shard, .advance shard]).server = f.server.shardStep shard ∧
      ∀ other, f.ledger.inHand other = none →
        (f.run [.advance shard, .advance shard]).ledger.inHand other = none := by
  show ((f.advance shard).advance shard).server = _ ∧ ∀ other, f.ledger.inHand other = none →
    ((f.advance shard).advance shard).ledger.inHand other = none
  unfold Server.shardStep
  cases taken : f.server.dispatcher.takeFrom shard with
  | none =>
    have idle : f.advance shard = f := by
      simp only [advance, free, take, taken]
    rw [idle, idle]
    exact ⟨rfl, fun _ nothing => nothing⟩
  | some next =>
    have first : f.advance shard =
        { server := { f.server with dispatcher := next.2 }
          ledger := f.ledger.hold shard (some next.1) } := by
      simp only [advance, free, take, taken]
    have hand : (f.ledger.hold shard (some next.1)).inHand shard = some next.1 := if_pos rfl
    rw [first, advance]
    dsimp only
    rw [hand]
    refine ⟨rfl, ?_⟩
    intro other nothing
    show (if other = shard then none
      else if other = shard then some next.1 else f.ledger.inHand other) = none
    split
    · rfl
    · exact nothing

/-- While the dispatcher is stopped, each request that is processed is one less. -/
theorem pending_shardStep {dispatcher : Dispatcher} (stopped : srv.dispatcher.phase = .stopped)
    (taken : srv.dispatcher.takeFrom shard = some (queued, dispatcher)) :
    srv.dispatcher.pending = (srv.shardStep shard).dispatcher.pending + 1 := by
  have still : dispatcher.phase = .stopped := (Dispatcher.frame_takeFrom taken).2.2.trans stopped
  have same : (({ srv with dispatcher } : Server).process queued.request).dispatcher = dispatcher :=
    Server.dispatcher_process_of_stopped still queued.request
  unfold Server.shardStep
  rw [taken]
  dsimp only
  rw [same, Dispatcher.pending_finish]
  exact Dispatcher.pending_takeFrom taken

theorem work_eq_zero (free : f.ledger.inHand shard = none)
    (empty : f.server.dispatcher.queuedOn shard = []) : f.work shard = 0 := by
  rw [work, Ledger.work, empty, free]
  rfl

/-- To drain the shards is to give them turns, until none has anything to do. -/
theorem drain (steps : Nat) (f : Floor) (stopped : f.server.dispatcher.phase = .stopped)
    (free : ∀ shard, f.ledger.inHand shard = none) :
    ∃ turns, (f.run turns).server = f.server.drainShards steps ∧
      (f.server.dispatcher.pending ≤ steps → ∀ shard, (f.run turns).work shard = 0) := by
  induction steps generalizing f with
  | zero =>
    refine ⟨[], rfl, ?_⟩
    intro few shard
    have nothing : f.server.dispatcher.pending = 0 := Nat.le_zero.mp few
    exact work_eq_zero (free shard) (Dispatcher.queuedOn_of_pending_eq_zero nothing shard)
  | succ steps ih =>
    unfold Server.drainShards
    cases busy : f.server.dispatcher.busyShard? with
    | none =>
      refine ⟨[], rfl, ?_⟩
      intro _ shard
      exact work_eq_zero (free shard) (Dispatcher.queuedOn_of_busyShard?_eq_none busy shard)
    | some shard =>
      rcases Dispatcher.takeFrom_of_busyShard? busy with ⟨queued, dispatcher, taken⟩
      rcases advance_advance (free shard) with ⟨turned, still⟩
      have fewer := pending_shardStep stopped taken
      have phase := (follows_run [.advance shard, .advance shard] f).stopped.mpr stopped
      rcases ih (f.run [.advance shard, .advance shard]) phase fun other => still other (free other)
        with ⟨turns, drained, done⟩
      rw [turned] at drained done
      refine ⟨.advance shard :: .advance shard :: turns, drained, ?_⟩
      intro few
      exact done (by omega)

/-! ## Any interleaving -/

/-- Every accepted request is processed once and in its turn, and nothing else is. -/
structure InOrder (f : Floor) : Prop where
  /-- What a shard has accepted it has processed, has in hand or keeps waiting, in this order. -/
  shards : ∀ shard, f.share shard f.ledger.processed ++ f.remaining shard =
    f.share shard f.ledger.accepted
  senders : ∀ sender, Ledger.ofSender sender f.ledger.processed ++
      Ledger.ofSender sender (f.remaining (f.server.dispatcher.shardOf sender)) =
    Ledger.ofSender sender f.ledger.accepted
  /-- Whatever else happens, a shard needs two turns for each request that it has accepted. -/
  eventually : ∀ shard events, f.work shard ≤ events.countP (·.advances shard) →
    f.share shard f.ledger.accepted <+: (f.run events).share shard (f.run events).ledger.processed

/-- A shard has room for as many bounded requests as it has permits, and for any notices. -/
structure Admits (f : Floor) (permits : Nat) : Prop where
  refuses : ∀ request, f.server.dispatcher.enqueue request =
      .error (.requestQueueFull (f.server.dispatcher.shardOf request.sender)) ↔
    f.outstanding (f.server.dispatcher.shardOf request.sender) = permits
  accepts : ∀ request, f.outstanding (f.server.dispatcher.shardOf request.sender) ≠ permits →
    ∃ dispatcher, f.server.dispatcher.enqueue request = .ok dispatcher
  unchanged : ∀ request, f.outstanding (f.server.dispatcher.shardOf request.sender) = permits →
    f.step (.enqueue request) = f
  notices : ∀ request, ∃ dispatcher, f.server.dispatcher.enqueueNotice request = .ok dispatcher
  /-- The permits that are free, and those of the requests that are not processed, are all. -/
  free : ∀ index shard, f.server.dispatcher.shards[index]? = some shard →
    f.server.dispatcher.capacity - shard.permitsInUse + f.outstanding index = permits

/-- What was accepted before the dispatcher stopped is processed, and nothing else. -/
structure Stops (f : Floor) : Prop where
  inOrder : ∀ later, (f.stop.run later).InOrder
  processed : ∀ later shard, f.work shard ≤ later.countP (·.advances shard) →
    (f.stop.run later).share shard (f.stop.run later).ledger.processed =
      f.share shard f.ledger.accepted
  /-- To stop the dispatcher is to give its shards enough turns. -/
  drains : (∀ shard, f.ledger.inHand shard = none) →
    ∃ later, (f.stop.run later).server = f.server.stopDispatcher ∧
      ∀ shard, (f.stop.run later).share shard (f.stop.run later).ledger.processed =
        f.share shard f.ledger.accepted

theorem inOrder (balanced : f.Balanced) : f.InOrder where
  shards := balanced.kept
  senders := balanced.kept_of_sender
  eventually shard events turns := by
    have follows := follows_run events f
    have made := progress_run balanced events shard
    have whole : f.progress shard + f.work shard = 2 * (f.share shard f.ledger.accepted).length :=
      balanced.progress_add_work shard
    -- both are beginnings of what the shard has accepted by then, so their lengths decide
    have before : f.share shard f.ledger.accepted <+:
        (f.run events).share shard (f.run events).ledger.accepted := follows.share_accepted shard
    have now : (f.run events).share shard (f.run events).ledger.processed <+:
        (f.run events).share shard (f.run events).ledger.accepted :=
      ⟨_, (follows.balances balanced).kept shard⟩
    refine List.prefix_of_prefix_length_le before now ?_
    have one : ((f.run events).ledger.inHand shard).toList.length ≤ 1 := by
      cases (f.run events).ledger.inHand shard <;> simp
    have reached : (f.run events).progress shard =
        2 * ((f.run events).share shard (f.run events).ledger.processed).length +
          ((f.run events).ledger.inHand shard).toList.length := rfl
    omega

theorem admits (balanced : f.Balanced) (accepting : f.server.dispatcher.phase ≠ .stopped) :
    f.Admits f.server.dispatcher.capacity where
  refuses request := by
    rw [balanced.enqueue_eq accepting]
    split
    · rename_i full
      exact ⟨fun _ => full, fun _ => rfl⟩
    · rename_i room
      exact ⟨nofun, fun full => absurd full room⟩
  accepts request room := ⟨_, (balanced.enqueue_eq accepting request).trans (if_neg room)⟩
  unchanged request full := by
    have refused : f.server.dispatcher.push request true = _ :=
      (balanced.enqueue_eq accepting request).trans (if_pos full)
    show f.submit request true = f
    rw [submit, refused]
  notices request := ⟨_, Dispatcher.enqueueNotice_of_accepting accepting⟩
  free index shard hshard := by
    have used : f.server.dispatcher.permitsOn index = shard.permitsInUse := by
      rw [Dispatcher.permitsOn, hshard]
      rfl
    have within := balanced.within index
    rw [outstanding, balanced.outstanding_eq, ← used]
    exact Nat.sub_add_cancel within

/-- A shard that has nothing to do has processed all that it accepted. -/
theorem processed_of_work_eq_zero (balanced : f.Balanced) (done : f.work shard = 0) :
    f.share shard f.ledger.processed = f.share shard f.ledger.accepted := by
  have empty : f.ledger.remaining f.server.dispatcher shard = [] := by
    unfold work Ledger.work at done
    rw [Ledger.remaining, List.append_eq_nil_iff, ← List.length_eq_zero_iff,
      ← List.length_eq_zero_iff]
    omega
  have kept := balanced.kept shard
  rwa [empty, List.append_nil] at kept

/-- A stopped dispatcher accepts nothing, so the requests of each shard stay the same. -/
theorem share_stop (running : f.server.dispatcher.phase = .running) (later : List FloorEvent)
    (shard : Nat) :
    (f.stop.run later).share shard (f.stop.run later).ledger.accepted =
      f.share shard f.ledger.accepted := by
  have follows := follows_run later f.stop
  have closed : (f.stop.run later).ledger.accepted = f.stop.ledger.accepted :=
    follows.closed (phase_stop f)
  calc (f.stop.run later).share shard (f.stop.run later).ledger.accepted
      = (f.stop.run later).share shard f.stop.ledger.accepted := by rw [closed]
    _ = f.stop.share shard f.stop.ledger.accepted := follows.share shard _
    _ = f.share shard f.ledger.accepted := by
        rw [stop_of_running running]
        rfl

theorem stops (balanced : f.Balanced) (running : f.server.dispatcher.phase = .running) :
    f.Stops := by
  have stopped := stop_of_running running
  have still : f.stop.Balanced := by
    rw [stopped]
    exact balanced.of_shards rfl rfl rfl
  have after : ∀ later, (f.stop.run later).Balanced :=
    fun later => (follows_run later f.stop).balances still
  refine ⟨fun later => inOrder (after later), ?_, ?_⟩
  · intro later shard turns
    have enough : f.stop.work shard ≤ later.countP (·.advances shard) := by
      rw [stopped]
      exact turns
    have unstopped : f.stop.share shard f.stop.ledger.accepted = _ := share_stop running [] shard
    have processed := (inOrder still).eventually shard later enough
    rw [unstopped] at processed
    have accepted : (f.stop.run later).share shard (f.stop.run later).ledger.processed <+:
        f.share shard f.ledger.accepted := by
      rw [← share_stop running later]
      exact ⟨_, (after later).kept shard⟩
    exact accepted.eq_of_length_le processed.length_le
  · intro free
    rcases drain f.stop.server.shardWork f.stop (phase_stop f) free with ⟨turns, drained, done⟩
    refine ⟨turns, ?_, ?_⟩
    · rw [drained, stopped, Server.stopDispatcher]
      simp only [running, if_true]
      rfl
    · intro shard
      have idle := done (Nat.le_add_right _ _) shard
      rw [processed_of_work_eq_zero (after turns) idle]
      exact share_stop running turns shard

/--
In any interleaving, and whatever the handlers do, requests are admitted as there are permits, and
processed once and in order. Once the dispatcher has stopped, everything is refused, and what was
accepted before is still processed.
-/
theorem run_in_order (srv : Server) (shards queueSize : Nat) (shardKey : RequestSender → Nat)
    (events : List FloorEvent) :
    let f := (create srv shards queueSize shardKey).run events
    f.InOrder ∧ f.Admits (max 1 queueSize) ∧ (.start ∈ events → f.Stops) ∧
      ∀ later, (f.stop.run later).ledger.accepted = f.ledger.accepted ∧ ∀ request,
        (f.stop.run later).server.dispatcher.enqueue request = .error (.shutdown .dispatcher) ∧
        (f.stop.run later).server.dispatcher.enqueueNotice request =
          .error (.shutdown .dispatcher) := by
  intro f
  have follows := follows_run events (create srv shards queueSize shardKey)
  have idle : (create srv shards queueSize shardKey).server.dispatcher.phase ≠ .stopped := by
    simp [create, Dispatcher.create]
  have balanced : f.Balanced := follows.balances (Ledger.Balances.create shards queueSize shardKey)
  have accepting : f.server.dispatcher.phase ≠ .stopped := mt follows.stopped.mp idle
  have capacity : f.server.dispatcher.capacity = max 1 queueSize := follows.capacity
  refine ⟨inOrder balanced, capacity ▸ admits balanced accepting, ?_, ?_⟩
  · intro started
    exact stops balanced (phase_run_of_start started _ idle)
  · intro later
    have after := follows_run later f.stop
    have stopped : (f.stop.run later).server.dispatcher.phase = .stopped :=
      after.stopped.mpr (phase_stop f)
    refine ⟨after.closed (phase_stop f), ?_⟩
    intro request
    refine ⟨?_, Dispatcher.enqueueNotice_of_stopped stopped⟩
    rw [Dispatcher.enqueue, Dispatcher.push_eq_append, if_pos stopped]

-- with one permit a request is refused until the one before it has been processed
example :
    let request : Request := ⟨.session 0, .sessionMessage .empty, .tcp⟩
    let f := (create (.blank {} RequestSender.number {}) 2 1 RequestSender.number).run
      [.enqueue request, .advance 0, .enqueue request, .advance 0, .enqueue request]
    f.ledger.accepted.length = 2 ∧ f.outstanding 0 = 1 := ⟨rfl, rfl⟩

end Floor

end SessionNet
