import SessionNet.Proofs.Server.Traffic

/-!
# Packets for several sessions

A packet with a list of recipients is copied to each of them in turn. What becomes of a copy depends
on its recipient alone, because handing over a packet changes no other session. The first refusal is
reported, and the recipients behind it are served all the same.
-/

namespace SessionNet

/-! ## One queue -/

namespace PacketQueue

/-- An insertion leaves one packet with the id, and the packets with other ids as they were. -/
theorem Ascending.filter_insertSorted {packets : List Packet} (ascending : Ascending packets)
    (packet : Packet) :
    (PacketQueue.insertSorted packet packets).filter (·.id == packet.id) = [packet] ∧
      (PacketQueue.insertSorted packet packets).filter (·.id != packet.id) =
        packets.filter (·.id != packet.id) := by
  induction packets with
  | nil => simp [PacketQueue.insertSorted]
  | cons first rest ih =>
    obtain ⟨least, sorted⟩ := List.pairwise_cons.mp ascending
    obtain ⟨copies, others⟩ := ih sorted
    -- unless the packet goes behind the first one, none behind that has its id
    have alone : packet.id ≤ first.id → rest.filter (·.id == packet.id) = [] := by
      intro below
      simp only [List.filter_eq_nil_iff, beq_iff_eq]
      exact fun other later => Nat.ne_of_gt (Nat.lt_of_le_of_lt below (least other later))
    unfold PacketQueue.insertSorted
    split
    case isTrue below =>
      have different : first.id ≠ packet.id := Nat.ne_of_gt below
      simp [different, alone (Nat.le_of_lt below)]
    case isFalse notBelow =>
      split
      case isTrue same => simp [same, ← alone (Nat.le_of_eq same)]
      case isFalse different =>
        have different : first.id ≠ packet.id := Ne.symm different
        simp [different, copies, others]

end PacketQueue

/-! ## One session -/

namespace Session

variable {s : Session} {packet : Packet} {error : NetError}

/-- Mark a session if the writers take it. -/
def mark (s : Session) (accepting : Bool) : Session :=
  { s with writeScheduled := s.writeScheduled || accepting }

/-- A session after a packet was handed to it, which marks it if it accepted the packet. -/
def handed (s : Session) (packet : Packet) (accepting : Bool) : Session :=
  if (s.enqueue packet).2.isOk then (s.enqueue packet).1.mark accepting else (s.enqueue packet).1

/-- A packet that is accepted was admitted to the queue. -/
theorem handed_of_accepted (accepted : (s.enqueue packet).2 = .ok ()) (accepting : Bool) :
    ∃ queue, s.queue.put packet = .ok queue ∧
      s.handed packet accepting = ({ s with queue } : Session).mark accepting := by
  unfold handed
  rw [accepted]
  unfold enqueue at accepted ⊢
  cases active : s.isActive with
  | false => simp [active] at accepted
  | true =>
    cases admitted : s.queue.put packet with
    | error fault => simp [active, admitted] at accepted
    | ok queue => exact ⟨queue, rfl, rfl⟩

/-- A refusal shows in the counters, and only if the session is active. -/
theorem handed_of_refused (refused : (s.enqueue packet).2 = .error error) (accepting : Bool) :
    s.handed packet accepting = if s.isActive then s.recordDropped else s := by
  unfold handed
  rw [refused]
  unfold enqueue at refused ⊢
  cases active : s.isActive with
  | false => rfl
  | true =>
    cases admitted : s.queue.put packet with
    | error fault => rfl
    | ok queue => simp [active, admitted] at refused

end Session

namespace Server

variable {srv srv' : Server} {id other : SessionId} {s : Session} {packet : Packet}

/-! ## One recipient -/

/-- Whether the writers still take sessions. -/
def accepting (srv : Server) : Bool := srv.writers.phase != .stopped

/-- Whether a packet puts a session on a run queue. -/
def wakes (srv : Server) (packet : Packet) (id : SessionId) : Bool :=
  srv.accepting && !srv.isMarked id && (srv.enqueue id packet).2.isOk

theorem session?_schedule (srv : Server) (id : SessionId) :
    (srv.schedule id).session? id = (srv.session? id).map (·.mark srv.accepting) := by
  unfold Session.mark accepting
  by_cases stopped : srv.writers.phase = .stopped
  · simp [schedule, stopped]
  · simp [session?_schedule_self stopped, bne_iff_ne.mpr stopped]

/-- A session that is marked is not put on a run queue again. -/
theorem queues_schedule_eq (srv : Server) (id : SessionId) : (srv.schedule id).writers.queues =
    if srv.accepting && !srv.isMarked id then
      srv.writers.queues.modify (id % srv.writers.queues.length) (· ++ [id])
    else srv.writers.queues := by
  by_cases stopped : srv.writers.phase = .stopped
  · simp [schedule, accepting, stopped]
  · cases marked : srv.isMarked id <;> simp [queues_schedule stopped, accepting, stopped, marked]

/-- What a session answers to a packet depends on that session alone. -/
theorem enqueue_snd_congr (same : srv'.session? id = srv.session? id) :
    (srv'.enqueue id packet).2 = (srv.enqueue id packet).2 := by
  unfold enqueue
  rw [same]
  cases srv.session? id <;> rfl

theorem enqueue_snd_of_session (hs : srv.session? id = some s) :
    (srv.enqueue id packet).2 = (s.enqueue packet).2 := by
  simp [enqueue, hs]

theorem enqueueAndSchedule_eq (srv : Server) (id : SessionId) (packet : Packet) :
    srv.enqueueAndSchedule id packet =
      (if (srv.enqueue id packet).2.isOk then (srv.enqueue id packet).1.schedule id
        else (srv.enqueue id packet).1, (srv.enqueue id packet).2) := by
  unfold enqueueAndSchedule
  rcases srv.enqueue id packet with ⟨queued, _ | _⟩ <;> rfl

theorem writers_enqueue (srv : Server) (id : SessionId) (packet : Packet) :
    (srv.enqueue id packet).1.writers = srv.writers := by
  rw [enqueue_eq]
  rfl

theorem isMarked_enqueue : (srv.enqueue id packet).1.isMarked id = srv.isMarked id := by
  unfold isMarked
  rw [enqueue_eq, session?_update_self]
  cases srv.session? id with
  | none => rfl
  | some s =>
    obtain ⟨queue, counters, heq⟩ := s.exists_enqueue_eq packet
    simp [heq]

/-- The recipient is handed the packet. -/
theorem session?_enqueueAndSchedule_self : (srv.enqueueAndSchedule id packet).1.session? id =
    (srv.session? id).map (·.handed packet srv.accepting) := by
  have same : (srv.enqueue id packet).1.accepting = srv.accepting := by
    unfold accepting
    rw [writers_enqueue]
  rw [enqueueAndSchedule_eq]
  cases hs : srv.session? id with
  | none => simp [enqueue, hs, Except.isOk, Except.toBool]
  | some s =>
    have queued : (srv.enqueue id packet).1.session? id = some (s.enqueue packet).1 := by
      rw [enqueue_eq, session?_update_self, hs]
      rfl
    unfold Session.handed
    rw [enqueue_snd_of_session hs]
    cases accepted : (s.enqueue packet).2.isOk with
    | false => simpa [accepted] using queued
    | true => simp [session?_schedule, queued, same, accepted]

/-- Handing a packet to one session changes no other session. -/
theorem session?_enqueueAndSchedule_of_ne (differs : other ≠ id) :
    (srv.enqueueAndSchedule id packet).1.session? other = srv.session? other := by
  have kept : (srv.enqueue id packet).1.session? other = srv.session? other := by
    rw [enqueue_eq, session?_update_of_ne srv differs]
  rcases srv.enqueueAndSchedule_fst id packet with refused | accepted
  · rw [refused, kept]
  · rw [accepted, session?_schedule_of_ne _ differs, kept]

theorem accepting_enqueueAndSchedule :
    (srv.enqueueAndSchedule id packet).1.accepting = srv.accepting := by
  unfold accepting
  rcases srv.enqueueAndSchedule_fst id packet with refused | accepted
  · rw [refused, writers_enqueue]
  · rw [accepted, phase_schedule, writers_enqueue]

theorem queues_enqueueAndSchedule : (srv.enqueueAndSchedule id packet).1.writers.queues =
    if srv.wakes packet id then
      srv.writers.queues.modify (id % srv.writers.queues.length) (· ++ [id])
    else srv.writers.queues := by
  have same : (srv.enqueue id packet).1.accepting = srv.accepting := by
    unfold accepting
    rw [writers_enqueue]
  rw [enqueueAndSchedule_eq]
  unfold wakes
  cases accepted : (srv.enqueue id packet).2.isOk with
  | false => simp [writers_enqueue]
  | true => simp [queues_schedule_eq, writers_enqueue, isMarked_enqueue, same]

/-- Nothing but the sessions and the run queues of a server changes. -/
theorem enqueueAndSchedule_frame (srv : Server) (id : SessionId) (packet : Packet) :
    ∃ sessions queues, (srv.enqueueAndSchedule id packet).1 =
      { srv with
        roster := { srv.roster with sessions }
        writers := { srv.writers with queues } } := by
  rcases srv.enqueueAndSchedule_fst id packet with refused | accepted
  · exact ⟨_, srv.writers.queues, refused.trans (srv.enqueue_eq id packet)⟩
  · rw [accepted, enqueue_eq]
    rcases (srv.update id fun s => (s.enqueue packet).1).schedule_cases id with
      same | ⟨_, scheduled⟩
    · exact ⟨_, srv.writers.queues, same⟩
    · exact ⟨_, _, scheduled⟩

/-! ## Every recipient -/

variable {recipients : List SessionId}

/-- A server after a packet was handed to sessions in order. -/
def handEach (srv : Server) (packet : Packet) (recipients : List SessionId) : Server :=
  recipients.foldl (fun srv id => (srv.enqueueAndSchedule id packet).1) srv

/-- Why a session refuses a packet, if it does. -/
def refusal? (srv : Server) (packet : Packet) (id : SessionId) : Option NetError :=
  match (srv.enqueue id packet).2 with
  | .ok () => none
  | .error error => some error

theorem refusal?_eq_none : srv.refusal? packet id = none ↔ (srv.enqueue id packet).2 = .ok () := by
  unfold refusal?
  cases (srv.enqueue id packet).2 <;> simp

theorem refusal?_eq_some {error : NetError} :
    srv.refusal? packet id = some error ↔ (srv.enqueue id packet).2 = .error error := by
  unfold refusal?
  cases (srv.enqueue id packet).2 <;> simp

theorem session?_handEach_of_not_mem (unlisted : other ∉ recipients) :
    (srv.handEach packet recipients).session? other = srv.session? other := by
  induction recipients generalizing srv with
  | nil => rfl
  | cons id rest ih =>
    obtain ⟨differs, later⟩ := not_or.mp (mt List.mem_cons.mpr unlisted)
    exact (ih later).trans (session?_enqueueAndSchedule_of_ne differs)

/-- A recipient that is listed once is handed the packet as if it were the only one. -/
theorem session?_handEach_of_mem (distinct : recipients.Nodup) (listed : id ∈ recipients) :
    (srv.handEach packet recipients).session? id =
      (srv.session? id).map (·.handed packet srv.accepting) := by
  induction recipients generalizing srv with
  | nil => cases listed
  | cons first rest ih =>
    obtain ⟨unlisted, distinct⟩ := List.nodup_cons.mp distinct
    rcases List.mem_cons.mp listed with rfl | later
    · exact (session?_handEach_of_not_mem unlisted).trans session?_enqueueAndSchedule_self
    · -- what came before has not touched it
      have differs : id ≠ first := ne_of_mem_of_not_mem later unlisted
      refine (ih distinct later).trans ?_
      rw [session?_enqueueAndSchedule_of_ne differs, accepting_enqueueAndSchedule]

/-- Whether a session is woken depends on no other session. -/
theorem wakes_enqueueAndSchedule_of_ne (differs : other ≠ id) :
    (srv.enqueueAndSchedule id packet).1.wakes packet other = srv.wakes packet other := by
  have same : (srv.enqueueAndSchedule id packet).1.session? other = srv.session? other :=
    session?_enqueueAndSchedule_of_ne differs
  unfold wakes isMarked
  rw [accepting_enqueueAndSchedule, enqueue_snd_congr same, same]

/-- Each run queue grows by the recipients that are woken and belong to it, in order. -/
theorem queues_handEach (distinct : recipients.Nodup) (worker : Nat) :
    (srv.handEach packet recipients).writers.queues[worker]? =
      srv.writers.queues[worker]?.map (· ++ recipients.filter fun id =>
        id % srv.writers.queues.length == worker && srv.wakes packet id) := by
  induction recipients generalizing srv with
  | nil => simp [handEach]
  | cons id rest ih =>
    obtain ⟨unlisted, distinct⟩ := List.nodup_cons.mp distinct
    have length : (srv.enqueueAndSchedule id packet).1.writers.queues.length =
        srv.writers.queues.length := by
      rw [queues_enqueueAndSchedule]
      split <;> simp
    -- handing the packet to the first recipient wakes none of the others
    have later : rest.filter (fun other => other % srv.writers.queues.length == worker &&
        (srv.enqueueAndSchedule id packet).1.wakes packet other) =
          rest.filter fun other =>
            other % srv.writers.queues.length == worker && srv.wakes packet other := by
      refine List.filter_congr fun other member => ?_
      rw [wakes_enqueueAndSchedule_of_ne (ne_of_mem_of_not_mem member unlisted)]
    refine (ih distinct).trans ?_
    rw [length, later, queues_enqueueAndSchedule]
    -- the first recipient joins its own run queue, in front of those behind it
    cases woken : srv.wakes packet id with
    | false => simp [woken]
    | true =>
      by_cases here : id % srv.writers.queues.length = worker
      · simp [woken, here, Function.comp_def]
      · simp [woken, here]

theorem handEach_frame (srv : Server) (packet : Packet) (recipients : List SessionId) :
    ∃ sessions queues, srv.handEach packet recipients =
      { srv with
        roster := { srv.roster with sessions }
        writers := { srv.writers with queues } } := by
  induction recipients generalizing srv with
  | nil => exact ⟨srv.roster.sessions, srv.writers.queues, rfl⟩
  | cons id rest ih =>
    obtain ⟨_, _, first⟩ := srv.enqueueAndSchedule_frame id packet
    obtain ⟨sessions, queues, later⟩ := ih (srv.enqueueAndSchedule id packet).1
    refine ⟨sessions, queues, later.trans ?_⟩
    rw [first]

/-- The loop of a multicast from any server, with the first refusal so far. -/
theorem foldl_enqueueAndSchedule
    {next : Server × Except NetError Unit → SessionId → Server × Except NetError Unit}
    (each : ∀ srv result id, next (srv, result) id = ((srv.enqueueAndSchedule id packet).1,
      result.bind fun _ => (srv.enqueueAndSchedule id packet).2))
    (distinct : recipients.Nodup) (srv : Server) (result : Except NetError Unit) :
    recipients.foldl next (srv, result) = (srv.handEach packet recipients,
      result.bind fun _ => (recipients.findSome? (srv.refusal? packet)).elim (.ok ()) .error) := by
  induction recipients generalizing srv result with
  | nil => cases result <;> rfl
  | cons id rest ih =>
    obtain ⟨unlisted, distinct⟩ := List.nodup_cons.mp distinct
    -- the recipients behind the first one answer as they would have before it
    have later : rest.findSome? ((srv.enqueueAndSchedule id packet).1.refusal? packet) =
        rest.findSome? (srv.refusal? packet) := by
      rw [← List.head?_filterMap, ← List.head?_filterMap]
      refine congrArg List.head? (List.filterMap_congr fun other member => ?_)
      have differs : other ≠ id := ne_of_mem_of_not_mem member unlisted
      unfold refusal?
      rw [enqueue_snd_congr (session?_enqueueAndSchedule_of_ne differs)]
    have answer : (srv.enqueueAndSchedule id packet).2 = (srv.enqueue id packet).2 := by
      rw [enqueueAndSchedule_eq]
    rw [List.foldl_cons, each, ih distinct, later, answer, List.findSome?_cons]
    unfold handEach refusal?
    rw [List.foldl_cons]
    rcases result with _ | ⟨⟩
    · -- an earlier refusal is the one that is reported
      rfl
    · cases (srv.enqueue id packet).2 <;> rfl

theorem multicast_eq (distinct : recipients.Nodup) :
    srv.multicast recipients packet = (srv.handEach packet recipients,
      (recipients.findSome? (srv.refusal? packet)).elim (.ok ()) .error) := by
  refine foldl_enqueueAndSchedule ?_ distinct srv (.ok ())
  rintro srv (_ | _) id <;> rfl

/-! ## Order in the queues -/

/-- In every queue the packets stand in ascending order of their ids. -/
def Ordered (srv : Server) : Prop :=
  srv.Everywhere fun _ s => PacketQueue.Ascending s.queue.packets

namespace Ordered

/-- Whatever follows from a pass, it adds no packet. -/
theorem passEnded {result : Except NetError WritePass} (ordered : srv.Ordered)
    (ended : PassEnded id srv result srv') : srv'.Ordered := by
  cases ended with
  | drained => exact ordered
  | yielded => exact Everywhere.schedule ordered fun _ kept => kept
  | blocked => exact Everywhere.update ordered fun _ _ kept => kept
  | failed => exact Everywhere.close ordered fun _ _ _ => List.Pairwise.nil

/-- A pass takes packets off the front. -/
theorem runPass (ordered : srv.Ordered) (id : SessionId) : (srv.runPass id).Ordered := by
  cases hs : srv.session? id with
  | none => simpa only [Server.runPass, hs] using ordered
  | some s =>
    cases active : s.isActive with
    | false =>
      rw [runPass_of_closed hs active]
      exact ordered.update fun _ _ kept => kept
    | true =>
      obtain ⟨count, -, taken, -⟩ :=
        (Session.passed_writePass s srv.writers.budget srv.supply).taken
      have released : (srv.release id (s.writePass srv.writers.budget srv.supply)).Ordered := by
        refine Everywhere.replace ordered (session?_release_self hs _) ?_
          fun other differs => session?_release_of_ne srv _ differs
        show PacketQueue.Ascending (s.writePass _ _).session.queue.packets
        rw [taken]
        exact List.Pairwise.drop (ordered id s hs)
      exact passEnded released (runPass_of_active hs active)

theorem enqueueAndSchedule (ordered : srv.Ordered) (id : SessionId) (packet : Packet) :
    (srv.enqueueAndSchedule id packet).1.Ordered := by
  have queued : (srv.enqueue id packet).1.Ordered := by
    rw [enqueue_eq]
    refine Everywhere.update ordered fun s _ kept => ?_
    unfold Session.enqueue
    cases s.isActive with
    | false => exact kept
    | true =>
      cases admitted : s.queue.put packet with
      | error fault => exact kept
      | ok queue =>
        obtain ⟨-, -, rfl⟩ := PacketQueue.put_eq_ok.mp admitted
        exact kept.insertSorted
  rcases srv.enqueueAndSchedule_fst id packet with refused | accepted
  · rwa [refused]
  · rw [accepted]
    exact Everywhere.schedule queued fun _ kept => kept

theorem carried {handed : SessionId → Packet → Prop} (ordered : srv.Ordered)
    (move : Carried handed srv srv') : srv'.Ordered := by
  cases move with
  | aside aside =>
    intro id s hs
    refine ordered id s ?_
    simpa only [session?, Roster.session?, aside.sessions] using hs
  | opening fresh sessions => exact Everywhere.opening ordered sessions (fresh.queue ▸ .nil)
  | alter alters =>
    refine Everywhere.alters ordered alters fun s altered kept => ?_
    rwa [altered.queue]
  | hand => exact ordered.enqueueAndSchedule _ _
  | serve worker =>
    unfold writerStep
    split
    · rename_i id rest _
      have popped : ({ srv with writers :=
          { srv.writers with queues := srv.writers.queues.set worker rest } } : Server).Ordered :=
        ordered
      exact popped.runPass id
    · exact ordered
  | writable id =>
    have resumed : (srv.update id fun s => { s with awaitsWritable := false }).Ordered :=
      Everywhere.update ordered fun _ _ kept => kept
    have claimed : ((srv.update id fun s => { s with awaitsWritable := false }).update id
        fun s => { s with writeScheduled := true }).Ordered :=
      Everywhere.update resumed fun _ _ kept => kept
    unfold streamWritable
    split
    · exact ordered
    · dsimp only
      split
      · split
        · exact resumed
        · exact claimed.runPass id
      · exact ordered
  | close id reason => exact Everywhere.close ordered fun _ _ _ => List.Pairwise.nil

theorem carryAll (ordered : srv.Ordered) (events : List Traffic) :
    (srv.carryAll events).Ordered := by
  unfold Server.carryAll
  refine List.foldlRecOn events carry ordered ?_
  intro before ordered event _
  have carries : Carries (fun _ _ => True) before (before.carry event) :=
    carries_carry before event fun _ _ _ => trivial
  exact carries.preserves (fun _ _ move ordered => ordered.carried move) ordered

/-- A server without sessions has no queue. -/
theorem blank (plan : ServerPlan) (shardKey : RequestSender → Nat) (handlers : HandlerTable) :
    (Server.blank plan shardKey handlers).Ordered :=
  fun _ _ hs => nomatch List.getElem?_nil.symm.trans hs

end Ordered

/-! ## A packet with recipients -/

/--
What a packet for several sessions has done to a server. Every recipient was asked on its own: it
has the packet once and is scheduled, or it is as it was, with one more packet dropped if it is
active. Nothing else has changed, and the first refusal in the order of the list is reported.
-/
structure FannedOut (srv : Server) (recipients : List SessionId) (copy : Packet)
    (srv' : Server) (result : Except NetError Unit) : Prop where
  accepted : ∀ id ∈ recipients, ∀ s, srv.session? id = some s → (s.enqueue copy).2 = .ok () →
    ∃ queue, s.queue.put copy = .ok queue ∧
      srv'.session? id =
        some { s with queue, writeScheduled := s.writeScheduled || srv.accepting } ∧
      queue.packets.filter (·.id == copy.id) = [copy] ∧
      queue.packets.filter (·.id != copy.id) = s.queue.packets.filter (·.id != copy.id)
  refused : ∀ id ∈ recipients, ∀ s error, srv.session? id = some s →
    (s.enqueue copy).2 = .error error →
      srv'.session? id = some (if s.isActive then s.recordDropped else s)
  others : ∀ other ∉ recipients, srv'.session? other = srv.session? other
  queues : ∀ worker, srv'.writers.queues[worker]? =
    srv.writers.queues[worker]?.map (· ++ recipients.filter fun id =>
      id % srv.writers.queues.length == worker && srv.wakes copy id)
  frame : ∃ sessions queues, srv' =
    { srv with
      roster := { srv.roster with sessions }
      writers := { srv.writers with queues } }
  result_ok : result = .ok () ↔ ∀ id ∈ recipients, (srv.enqueue id copy).2 = .ok ()
  result_error : ∀ error, result = .error error ↔
    ∃ before id after, recipients = before ++ id :: after ∧
      (srv.enqueue id copy).2 = .error error ∧
      ∀ other ∈ before, (srv.enqueue other copy).2 = .ok ()

theorem fannedOut_multicast (ordered : srv.Ordered) (distinct : recipients.Nodup) :
    FannedOut srv recipients packet (srv.multicast recipients packet).1
      (srv.multicast recipients packet).2 := by
  rw [multicast_eq distinct]
  refine ⟨?_, ?_, ?_, queues_handEach distinct, handEach_frame srv packet recipients, ?_, ?_⟩
  · intro id listed s hs accepts
    obtain ⟨queue, admitted, handed⟩ := Session.handed_of_accepted accepts srv.accepting
    have now : (srv.handEach packet recipients).session? id = _ :=
      session?_handEach_of_mem distinct listed
    rw [hs, Option.map_some, handed] at now
    obtain ⟨copies, rest⟩ := (ordered id s hs).filter_insertSorted packet
    obtain ⟨-, -, rfl⟩ := PacketQueue.put_eq_ok.mp admitted
    exact ⟨_, admitted, now, copies, rest⟩
  · intro id listed s error hs refuses
    have now : (srv.handEach packet recipients).session? id = _ :=
      session?_handEach_of_mem distinct listed
    rwa [hs, Option.map_some, Session.handed_of_refused refuses] at now
  · exact fun other unlisted => session?_handEach_of_not_mem unlisted
  · simp only [← refusal?_eq_none, ← List.findSome?_eq_none_iff]
    cases recipients.findSome? (srv.refusal? packet) <;> simp
  · intro error
    simp only [← refusal?_eq_none, ← refusal?_eq_some, ← List.findSome?_eq_some_iff]
    cases recipients.findSome? (srv.refusal? packet) <;> simp

/--
A packet with a list of distinct recipients goes to each of them by its own queue and no further,
whatever session it is handed to.
-/
theorem sendPacket_fansOut (ordered : srv.Ordered) (listed : packet.recipients? = some recipients)
    (distinct : recipients.Nodup) (target : SessionId) :
    FannedOut srv recipients { packet with recipients? := none }
      (srv.sendPacket target packet).1 (srv.sendPacket target packet).2 := by
  unfold sendPacket
  rw [listed]
  exact fannedOut_multicast ordered distinct

/-- Queues of two packets that shed from half of that on. -/
def narrowPlan : ServerPlan :=
  { sessions := { queueCapacity := 2, queuePolicy := .shedding 0x42480000 } }

/-- A packet that must be delivered. -/
def urgent (id : Nat) : Packet := { id, payload := [], priority := .guaranteed }

/-- Five sessions: the second is closed, the queue of the third is full, the fourth one sheds. -/
def mixedServer : Server :=
  (blank narrowPlan RequestSender.number {}).carryAll
    [.openWebSocket .loopback, .openWebSocket .loopback, .openWebSocket .loopback,
      .openWebSocket .loopback, .openWebSocket .loopback, .close 1 .administrative,
      .sendPacket 2 (urgent 0), .sendPacket 2 (urgent 1), .sendPacket 3 (urgent 2)]

/-- News for all of them but the last. -/
def news : Packet := { id := 7, payload := [1, 2, 3], recipients? := some [2, 1, 3, 0] }

theorem sendPacket_fansOut_mixed :
    mixedServer.Ordered ∧ news.recipients? = some [2, 1, 3, 0] ∧ [2, 1, 3, 0].Nodup ∧
      FannedOut mixedServer [2, 1, 3, 0] { news with recipients? := none }
        (mixedServer.sendPacket 4 news).1 (mixedServer.sendPacket 4 news).2 ∧
      (mixedServer.sendPacket 4 news).2 = .error .queueFull ∧
      ((mixedServer.sendPacket 4 news).1.roster.sessions.map fun s =>
        (s.queue.packets.map (·.id), s.counters.packetsDropped)) =
          [([7], 0), ([], 0), ([0, 1], 1), ([2], 1), ([], 0)] := by
  have ordered : mixedServer.Ordered := (Ordered.blank _ _ _).carryAll _
  exact ⟨ordered, rfl, by decide, sendPacket_fansOut ordered rfl (by decide) 4,
    by decide +kernel, by decide +kernel⟩

end Server

end SessionNet
