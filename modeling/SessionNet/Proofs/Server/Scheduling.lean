import SessionNet.Proofs.Server.Traffic

/-!
# No session is forgotten and none is served twice

A session that has something to write is on a run queue, or a blocked stream will bring it back
there. The mark on a session says whether it is on a run queue, so it is on one at most once. A turn
serves the session at the front, within its budget, and puts it behind all others if packets remain.
-/

namespace SessionNet

/-! ## Run queues -/

section Queues

variable {queues : List (List SessionId)} {worker : Nat} {id : SessionId} {rest : List SessionId}

/-- Putting a session at the end of a run queue adds one occurrence of it. -/
theorem count_flatten_modify (inside : worker < queues.length) (other : SessionId) :
    (queues.modify worker (· ++ [id])).flatten.count other =
      [id].count other + queues.flatten.count other := by
  induction queues generalizing worker with
  | nil => exact absurd inside (Nat.not_lt_zero worker)
  | cons queue queues ih =>
    cases worker with
    | zero =>
      simp only [List.modify_zero_cons, List.flatten_cons, List.count_append]
      omega
    | succ worker =>
      have later := ih (Nat.lt_of_succ_lt_succ inside)
      simp only [List.modify_succ_cons, List.flatten_cons, List.count_append, later]
      omega

/-- Taking the first session of a run queue off it takes one occurrence away. -/
theorem count_flatten_set (front : queues[worker]? = some (id :: rest)) (other : SessionId) :
    queues.flatten.count other = [id].count other + (queues.set worker rest).flatten.count other := by
  induction queues generalizing worker with
  | nil => simp at front
  | cons queue queues ih =>
    cases worker with
    | zero =>
      rcases Option.some.inj front with rfl
      simp only [List.set_cons_zero, List.flatten_cons, List.count_append]
      rw [← List.singleton_append, List.count_append]
      omega
    | succ worker =>
      have later := ih (show queues[worker]? = some (id :: rest) by simpa using front)
      simp only [List.set_cons_succ, List.flatten_cons, List.count_append, later]
      omega

/-- A session put back goes behind those that waited with it. -/
theorem modify_set (front : queues[worker]? = some (id :: rest)) :
    (queues.set worker rest).modify worker (· ++ [id]) = queues.set worker (rest ++ [id]) := by
  have inside : worker < queues.length := (List.getElem?_eq_some_iff.mp front).1
  apply List.ext_getElem?
  intro other
  rw [List.getElem?_modify, List.getElem?_set, List.getElem?_set]
  by_cases same : worker = other
  · subst same
    simp [inside]
  · simp [same]

end Queues

/-! ## Sessions -/

namespace Session

/-- Whether packets wait that nothing keeps from being written. -/
def isUnfinished (s : Session) : Bool := s.isActive && !s.queue.isEmpty && s.pending?.isNone

/-- An active session with something to write is marked, or waits for its stream. -/
structure Attended (s : Session) : Prop where
  queued : s.isActive = true → s.queue.packets ≠ [] → s.pending? = none → s.writeScheduled = true
  pending : s.isActive = true → s.pending?.isSome = true →
    s.writeScheduled = true ∨ s.awaitsWritable = true

/-- A turn took at most so many packets off the queue, and wrote these and what was pending at most. -/
def Turned (budget : Nat) (s t : Session) : Prop :=
  ∃ count ≤ budget, (t.isActive = true → t.queue.packets = s.queue.packets.drop count) ∧
    t.counters.packetsWritten ≤ s.counters.packetsWritten + s.pending?.toList.length + count

namespace Attended

variable {s t : Session}

theorem of_marked (marked : s.writeScheduled = true) : s.Attended :=
  ⟨fun _ _ _ => marked, fun _ _ => .inl marked⟩

theorem of_closed (closed : s.isActive = false) : s.Attended := by
  refine ⟨?_, ?_⟩ <;> simp [closed]

theorem of_altered (attended : s.Attended) (altered : s.Altered t) : t.Attended where
  queued := by
    rw [altered.active, altered.queue, altered.pending, altered.scheduled]
    exact attended.queued
  pending := by
    rw [altered.active, altered.pending, altered.scheduled, altered.awaits]
    exact attended.pending

end Attended

theorem Turned.refl (budget : Nat) (s : Session) : s.Turned budget s :=
  ⟨0, Nat.zero_le budget, fun _ => rfl, Nat.le_add_right _ _⟩

end Session

namespace Server

variable {srv srv' : Server} {id other : SessionId} {s t : Session} {reason : CloseReason}

/-! ## Marks -/

theorem isMarked_update_self (srv : Server) (id : SessionId) (f : Session → Session) :
    (srv.update id f).isMarked id = (srv.session? id).any fun s => (f s).writeScheduled := by
  unfold isMarked
  rw [session?_update_self, Option.any_map]

theorem isMarked_update_of_ne (srv : Server) {f : Session → Session} (differs : other ≠ id) :
    (srv.update id f).isMarked other = srv.isMarked other := by
  unfold isMarked
  rw [session?_update_of_ne srv differs]

/--
The run queues hold each session in the place given by its number, once if it is marked and not at
all otherwise. A session that was claimed for a pass is marked, but on no run queue.
-/
structure Marked (claimed? : Option SessionId) (srv : Server) : Prop where
  accepting : srv.writers.phase ≠ .stopped
  workers : 0 < srv.writers.queues.length
  placed : ∀ worker queue, srv.writers.queues[worker]? = some queue →
    ∀ id ∈ queue, id % srv.writers.queues.length = worker
  marked : ∀ id, claimed?.toList.count id + srv.writers.queues.flatten.count id =
    (srv.isMarked id).toNat

/-- Every session that has something to write is attended to. -/
abbrev Attended (srv : Server) : Prop := srv.Everywhere fun _ s => s.Attended

namespace Marked

variable {claimed? : Option SessionId}

/-- Run queues and marks that stay as they are. -/
theorem of_same (marked : srv.Marked claimed?) (queues : srv'.writers.queues = srv.writers.queues)
    (phase : srv'.writers.phase = .stopped → srv.writers.phase = .stopped)
    (marks : ∀ id, srv'.isMarked id = srv.isMarked id) : srv'.Marked claimed? where
  accepting stopped := marked.accepting (phase stopped)
  workers := by
    rw [queues]
    exact marked.workers
  placed := by
    rw [queues]
    exact marked.placed
  marked id := by
    rw [queues, marks]
    exact marked.marked id

/-- Something else about a session changes. -/
theorem update (marked : srv.Marked claimed?) {f : Session → Session}
    (keeps : ∀ s, srv.session? id = some s → (f s).writeScheduled = s.writeScheduled) :
    (srv.update id f).Marked claimed? := by
  refine marked.of_same rfl (fun stopped => stopped) ?_
  intro other
  by_cases same : other = id
  · subst same
    rw [isMarked_update_self]
    unfold isMarked
    cases hs : srv.session? other with
    | none => rfl
    | some s => exact keeps s hs
  · exact isMarked_update_of_ne srv same

theorem isMarked_of_claimed (marked : srv.Marked (some id)) : srv.isMarked id = true := by
  have counted := marked.marked id
  simp only [Option.toList_some, List.count_singleton_self] at counted
  cases mark : srv.isMarked id with
  | true => rfl
  | false =>
    rw [mark] at counted
    simp only [Bool.toNat_false] at counted
    omega

/-- The session that was claimed is given back: it is no longer marked, and on no run queue. -/
theorem release (marked : srv.Marked (some id)) {f : Session → Session}
    (unmarks : ∀ s, (f s).writeScheduled = false) : (srv.update id f).Marked none := by
  refine ⟨marked.accepting, marked.workers, marked.placed, ?_⟩
  intro other
  have counted := marked.marked other
  by_cases same : other = id
  · subst same
    rw [marked.isMarked_of_claimed] at counted
    rw [isMarked_update_self]
    simp only [Option.toList_some, List.count_singleton_self, Bool.toNat_true] at counted
    have nowhere : srv.writers.queues.flatten.count other = 0 := by omega
    calc
      (none : Option SessionId).toList.count other + srv.writers.queues.flatten.count other = 0 := by
        simp [nowhere]
      _ = ((srv.session? other).any fun s => (f s).writeScheduled).toNat := by simp [unmarks]
  · have elsewhere : [id].count other = 0 := by simp [Ne.symm same]
    rw [isMarked_update_of_ne srv same]
    rwa [Option.toList_some, elsewhere] at counted

/-- A session that is not marked is claimed by marking it. -/
theorem claim (marked : srv.Marked none) (hs : srv.session? id = some s)
    (free : s.writeScheduled = false) {f : Session → Session}
    (marks : ∀ s, (f s).writeScheduled = true) : (srv.update id f).Marked (some id) := by
  refine ⟨marked.accepting, marked.workers, marked.placed, ?_⟩
  intro other
  have counted := marked.marked other
  simp only [Option.toList_none, List.count_nil, Nat.zero_add] at counted
  by_cases same : other = id
  · subst same
    have unmarked : srv.isMarked other = false := by simp [isMarked, hs, free]
    have nowhere : srv.writers.queues.flatten.count other = 0 := by simpa [unmarked] using counted
    rw [isMarked_update_self]
    calc
      [other].count other + srv.writers.queues.flatten.count other = 1 := by simp [nowhere]
      _ = ((srv.session? other).any fun s => (f s).writeScheduled).toNat := by simp [hs, marks]
  · have elsewhere : [id].count other = 0 := by simp [Ne.symm same]
    rw [isMarked_update_of_ne srv same]
    rwa [Option.toList_some, elsewhere, Nat.zero_add]

/-- A writer claims the first session on its run queue. -/
theorem pop (marked : srv.Marked none) {worker : Nat} {rest : List SessionId}
    (front : srv.writers.queues[worker]? = some (id :: rest)) :
    ({ srv with writers := { srv.writers with queues := srv.writers.queues.set worker rest } } :
      Server).Marked (some id) where
  accepting := marked.accepting
  workers := by
    simp only [List.length_set]
    exact marked.workers
  placed other queue here := by
    simp only [List.length_set]
    dsimp only at here
    rw [List.getElem?_set] at here
    split at here
    · rename_i same
      split at here
      · cases here
        intro member inside
        rw [← same]
        exact marked.placed worker _ front member (List.mem_cons_of_mem _ inside)
      · cases here
    · exact marked.placed other queue here
  marked other := by
    have counted := marked.marked other
    have taken := count_flatten_set front other
    simp only [Option.toList_none, List.count_nil, Nat.zero_add] at counted
    simp only [Option.toList_some]
    rw [← taken, counted]
    rfl

end Marked

/-! ## Scheduling a session -/

theorem isMarked_schedule (hs : srv.session? id = some s) (accepting : srv.writers.phase ≠ .stopped) :
    (srv.schedule id).isMarked other = (decide (other = id) || srv.isMarked other) := by
  unfold isMarked
  by_cases same : other = id
  · subst same
    simp [session?_schedule_self accepting, hs]
  · simp [session?_schedule_of_ne srv same, same]

theorem Marked.schedule (marked : srv.Marked none) (hs : srv.session? id = some s) :
    (srv.schedule id).Marked none := by
  have accepting := marked.accepting
  have queues : (srv.schedule id).writers.queues = _ := queues_schedule accepting
  cases mark : srv.isMarked id with
  | true =>
    -- a session that is marked is on its run queue already
    simp only [mark, if_true] at queues
    refine marked.of_same queues (fun stopped => (phase_schedule srv id).symm.trans stopped) ?_
    intro other
    rw [isMarked_schedule hs accepting]
    by_cases same : other = id <;> simp [same, mark]
  | false =>
    simp only [mark, Bool.false_eq_true, if_false] at queues
    have inside : id % srv.writers.queues.length < srv.writers.queues.length :=
      Nat.mod_lt _ marked.workers
    refine ⟨?_, ?_, ?_, ?_⟩
    · rw [phase_schedule]
      exact accepting
    · rw [queues, List.length_modify]
      exact marked.workers
    · intro worker queue here member inside
      rw [queues, List.getElem?_modify] at here
      rw [queues, List.length_modify]
      rcases Option.map_eq_some_iff.mp here with ⟨before, there, rfl⟩
      split at inside
      · rename_i same
        rcases List.mem_append.mp inside with old | new
        · exact marked.placed worker before there member old
        · rw [List.mem_singleton.mp new]
          exact same
      · exact marked.placed worker before there member inside
    · intro other
      have counted := marked.marked other
      simp only [Option.toList_none, List.count_nil, Nat.zero_add] at counted ⊢
      rw [queues, count_flatten_modify inside, counted, isMarked_schedule hs accepting]
      by_cases same : other = id
      · subst same
        simp [mark]
      · simp [same, Ne.symm same]

/-! ## A pass -/

/-- Closing a session leaves its mark to the writer that comes by. -/
theorem isMarked_close (srv : Server) (id : SessionId) (reason : CloseReason) (other : SessionId) :
    (srv.close id reason).2.isMarked other = srv.isMarked other := by
  unfold isMarked
  by_cases same : other = id
  · subst same
    rw [session?_close_self, Option.any_map]
    cases srv.session? other with
    | none => rfl
    | some s => cases hactive : s.isActive <;> simp [hactive, Session.tearDown]
  · rw [session?_close_of_ne srv same]

theorem Marked.close {claimed? : Option SessionId} (marked : srv.Marked claimed?) (id : SessionId)
    (reason : CloseReason) : (srv.close id reason).2.Marked claimed? := by
  have writers := (writing_close srv id reason).1
  refine marked.of_same (congrArg Writers.queues writers) ?_ (isMarked_close srv id reason)
  intro stopped
  rwa [writers] at stopped

/-- One session was served: within its budget, and last in line if packets remain. -/
structure Serves (id : SessionId) (s : Session) (srv srv' : Server) : Prop where
  session : ∃ t, srv'.session? id = some t ∧ s.Turned srv.writers.budget t ∧ t.Attended ∧
    srv'.writers.queues =
      if t.isUnfinished then srv.writers.queues.modify (id % srv.writers.queues.length) (· ++ [id])
      else srv.writers.queues
  others : ∀ other, other ≠ id → srv'.session? other = srv.session? other

theorem Serves.attended (serves : Serves id s srv srv') (attended : srv.Attended) : srv'.Attended := by
  rcases serves.session with ⟨t, ht, -, here, -⟩
  exact attended.replace ht here serves.others

/-- A session after a pass, its claim given back and the run queues as they were. -/
structure Released (id : SessionId) (s u : Session) (srv after : Server) : Prop where
  marked : after.Marked none
  here : after.session? id = some u
  others : ∀ other, other ≠ id → after.session? other = srv.session? other
  queues : after.writers.queues = srv.writers.queues
  unmarked : u.writeScheduled = false
  active : u.isActive = true
  turned : s.Turned srv.writers.budget u

namespace Released

variable {u : Session} {after : Server}

/-- Nothing is left to write. -/
theorem drained (released : Released id s u srv after) (leaves : WritePass.drained.Leaves u) :
    after.Marked none ∧ Serves id s srv after := by
  have finished : u.isUnfinished = false := by
    simp [Session.isUnfinished, PacketQueue.isEmpty, leaves.1]
  have attended : u.Attended := by
    refine ⟨?_, ?_⟩ <;> simp [leaves.1, leaves.2]
  refine ⟨released.marked, ⟨u, released.here, released.turned, attended, ?_⟩, released.others⟩
  simpa [finished] using released.queues

/-- Packets remain, so the session goes to the end of its run queue. -/
theorem yielded (released : Released id s u srv after) (leaves : WritePass.yielded.Leaves u) :
    (after.schedule id).Marked none ∧ Serves id s srv (after.schedule id) := by
  have accepting := released.marked.accepting
  have unmarked : after.isMarked id = false := by simp [isMarked, released.here, released.unmarked]
  have unfinished : Session.isUnfinished { u with writeScheduled := true } = true := by
    simp [Session.isUnfinished, PacketQueue.isEmpty, leaves.1, leaves.2, released.active]
  refine ⟨released.marked.schedule released.here,
    ⟨{ u with writeScheduled := true }, ?_, released.turned, .of_marked rfl, ?_⟩, ?_⟩
  · simp [session?_schedule_self accepting, released.here]
  · simp [queues_schedule accepting, unmarked, unfinished, released.queues]
  · intro other differs
    rw [session?_schedule_of_ne after differs]
    exact released.others other differs

/-- The stream takes no more, so its reader is asked to see to the session. -/
theorem blocked (released : Released id s u srv after) (leaves : WritePass.blocked.Leaves u) :
    (after.update id fun s => { s with awaitsWritable := true }).Marked none ∧
      Serves id s srv (after.update id fun s => { s with awaitsWritable := true }) := by
  have finished : Session.isUnfinished { u with awaitsWritable := true } = false := by
    have pending : u.pending?.isNone = false := by
      rw [← Option.not_isSome, show u.pending?.isSome = true from leaves]
      rfl
    simp [Session.isUnfinished, pending]
  refine ⟨released.marked.update fun _ _ => rfl,
    ⟨{ u with awaitsWritable := true }, ?_, released.turned, ?_, ?_⟩, ?_⟩
  · simp [session?_update_self, released.here]
  · refine ⟨?_, fun _ _ => .inr rfl⟩
    intro _ _ clear
    have pending : u.pending?.isSome = true := leaves
    simp [show u.pending? = none from clear] at pending
  · simpa [finished, Server.update] using released.queues
  · intro other differs
    rw [session?_update_of_ne after differs]
    exact released.others other differs

/-- Writing failed, so the session is closed. -/
theorem failed (released : Released id s u srv after) :
    (after.close id .writeError).2.Marked none ∧
      Serves id s srv (after.close id .writeError).2 := by
  rcases released.turned with ⟨count, bounded, -, written⟩
  have writers := (writing_close after id .writeError).1
  refine ⟨released.marked.close id .writeError,
    ⟨u.tearDown .writeError, ?_, ⟨count, bounded, nofun, written⟩, .of_closed rfl, ?_⟩, ?_⟩
  · simp [session?_close_self, released.here, released.active]
  · simpa [writers, Session.isUnfinished, Session.tearDown] using released.queues
  · intro other differs
    rw [session?_close_of_ne after differs]
    exact released.others other differs

end Released

/-- A pass over a claimed session frees the claim, and whatever then remains is attended to. -/
theorem runPass_serves (marked : srv.Marked (some id)) (hs : srv.session? id = some s) :
    (srv.runPass id).Marked none ∧ Serves id s srv (srv.runPass id) := by
  cases active : s.isActive with
  | false =>
    rw [runPass_of_closed hs active]
    refine ⟨marked.release fun _ => rfl,
      ⟨{ s with writeScheduled := false }, ?_, ?_, ?_, ?_⟩, ?_⟩
    · simp [session?_update_self, hs]
    · exact ⟨0, Nat.zero_le _, fun _ => rfl, Nat.le_add_right _ _⟩
    · exact .of_closed active
    · simp [Session.isUnfinished, active, Server.update]
    · exact fun other differs => srv.session?_update_of_ne differs
  | true =>
    have ended := runPass_of_active hs active
    have passed := Session.passed_writePass s srv.writers.budget srv.supply
    have served := Session.served_writePass s srv.writers.budget srv.supply
    generalize s.writePass srv.writers.budget srv.supply = pass at ended passed served
    rcases passed.taken with ⟨count, bounded, packets, written⟩
    have released : Released id s { pass.session with writeScheduled := false } srv
        (srv.release id pass) := by
      have given : (srv.update id fun _ => { pass.session with writeScheduled := false }).Marked none :=
        marked.release fun _ => rfl
      have still : pass.session.isActive = true :=
        (congrArg Standing.isActive served.standing).trans active
      exact ⟨given.of_same rfl (fun stopped => stopped) fun _ => rfl, session?_release_self hs pass,
        fun other => session?_release_of_ne srv pass, rfl, rfl, still, count, bounded,
        fun _ => packets, written⟩
    have leaves := passed.leaves
    -- how the pass ended says what is left of the session
    generalize pass.result = result at ended leaves
    generalize srv.runPass id = srv' at ended ⊢
    cases ended with
    | drained => exact released.drained (leaves .drained rfl)
    | yielded => exact released.yielded (leaves .yielded rfl)
    | blocked => exact released.blocked (leaves .blocked rfl)
    | failed e => exact released.failed

/-! ## Moves -/

/-- What every move preserves. -/
structure Scheduled (srv : Server) : Prop where
  marked : srv.Marked none
  attended : srv.Attended

namespace Scheduled

/-- The session at the front of a run queue is there, and its writer serves it. -/
theorem writerStep (scheduled : srv.Scheduled) {worker : Nat} {rest : List SessionId}
    (front : srv.writers.queues[worker]? = some (id :: rest)) :
    (srv.writerStep worker).Scheduled ∧ ∃ s, srv.session? id = some s ∧
      Serves id s
        { srv with writers := { srv.writers with queues := srv.writers.queues.set worker rest } }
        (srv.writerStep worker) := by
  have popped := scheduled.marked.pop front
  have mark := popped.isMarked_of_claimed
  have stepped : srv.writerStep worker =
      ({ srv with writers := { srv.writers with queues := srv.writers.queues.set worker rest } } :
        Server).runPass id := by
    simp only [Server.writerStep, front]
  rcases (Option.any_eq_true _ _).mp mark with ⟨s, hs, -⟩
  rcases runPass_serves popped hs with ⟨marked, serves⟩
  rw [stepped]
  exact ⟨⟨marked, serves.attended scheduled.attended⟩, s, hs, serves⟩

/-- A stream that takes bytes again is served at once, unless a writer is about to. -/
theorem streamWritable (scheduled : srv.Scheduled) (hs : srv.session? id = some s) :
    (srv.streamWritable id).Scheduled ∧
      ∃ t, (srv.streamWritable id).session? id = some t ∧ s.Turned srv.writers.budget t ∧
        ((srv.streamWritable id).writers.queues = srv.writers.queues ∨
          (srv.streamWritable id).writers.queues =
            srv.writers.queues.modify (id % srv.writers.queues.length) (· ++ [id])) := by
  unfold Server.streamWritable
  simp only [hs]
  split
  · -- the reader's turn is used up, whoever does the writing
    have taken : (srv.update id fun s => { s with awaitsWritable := false }).Marked none :=
      scheduled.marked.update fun _ _ => rfl
    have here : (srv.update id fun s => { s with awaitsWritable := false }).session? id =
        some { s with awaitsWritable := false } := by
      simp [session?_update_self, hs]
    have others : ∀ other, other ≠ id →
        (srv.update id fun s => { s with awaitsWritable := false }).session? other =
          srv.session? other :=
      fun other differs => session?_update_of_ne srv differs
    split
    · rename_i already
      exact ⟨⟨taken, scheduled.attended.replace here (.of_marked already) others⟩, _, here,
        .refl _ s, .inl rfl⟩
    · rename_i free
      have claimed := taken.claim here (Bool.eq_false_iff.mpr free)
        (f := fun s => { s with writeScheduled := true }) fun _ => rfl
      have there : ((srv.update id fun s => { s with awaitsWritable := false }).update id
          fun s => { s with writeScheduled := true }).session? id =
          some { s with awaitsWritable := false, writeScheduled := true } := by
        rw [session?_update_self, here]
        rfl
      have attended : ((srv.update id fun s => { s with awaitsWritable := false }).update id
          fun s => { s with writeScheduled := true }).Attended := by
        refine scheduled.attended.replace there (.of_marked rfl) ?_
        intro other differs
        rw [session?_update_of_ne _ differs]
        exact others other differs
      rcases runPass_serves claimed there with ⟨marked, serves⟩
      rcases serves.session with ⟨t, ht, turned, -, queues⟩
      refine ⟨⟨marked, serves.attended attended⟩, t, ht, turned, ?_⟩
      cases unfinished : t.isUnfinished with
      | true =>
        simp only [unfinished, if_true] at queues
        exact .inr queues
      | false =>
        simp only [unfinished, Bool.false_eq_true, if_false] at queues
        exact .inl queues
  · exact ⟨scheduled, s, hs, .refl _ s, .inl rfl⟩

/-- A session that is altered keeps its mark and needs no more than before. -/
theorem alters {f : Session → Session} (scheduled : srv.Scheduled)
    (alters : AltersOne id f srv srv') :
    srv'.Scheduled := by
  refine ⟨scheduled.marked.of_same (congrArg Writers.queues alters.writers) ?_ ?_, ?_⟩
  · rw [alters.writers]
    exact fun stopped => stopped
  · intro other
    unfold isMarked
    by_cases same : other = id
    · subst same
      rw [alters.session?_self]
      cases hs : srv.session? other with
      | none => rfl
      | some s => exact (alters.altered s hs).scheduled
    · rw [alters.session?_of_ne same]
  · exact scheduled.attended.alters alters fun s altered here => here.of_altered altered

/-- A packet is queued on a session, which then is on its run queue, or refused. -/
theorem enqueueAndSchedule (scheduled : srv.Scheduled) (id : SessionId) (packet : Packet) :
    (srv.enqueueAndSchedule id packet).1.Scheduled := by
  rcases srv.enqueueAndSchedule_cases id packet with ⟨f, alters⟩ | ⟨s, queue, hs, -, queued⟩
  · exact scheduled.alters alters
  · have here : (srv.update id fun _ => { s with queue }).session? id = some { s with queue } := by
      simp [session?_update_self, hs]
    have marked : (srv.update id fun _ => { s with queue }).Marked none := by
      refine scheduled.marked.update ?_
      intro u present
      rcases Option.some.inj (hs.symm.trans present) with rfl
      rfl
    rw [queued]
    refine ⟨marked.schedule here, ?_⟩
    -- the session is marked now, so it does not matter what it has to write
    have stored : ((srv.update id fun _ => { s with queue }).schedule id).session? id =
        some { s with queue, writeScheduled := true } := by
      rw [session?_schedule_self marked.accepting, here]
      rfl
    refine scheduled.attended.replace stored (.of_marked rfl) ?_
    · intro other differs
      rw [session?_schedule_of_ne _ differs]
      exact session?_update_of_ne srv differs

/-- A new session has nothing to write and is on no run queue. -/
theorem opening (scheduled : srv.Scheduled) (fresh : s.Fresh)
    (sessions : srv'.roster.sessions = srv.roster.sessions ++ [s])
    (writers : srv'.writers = srv.writers) : srv'.Scheduled := by
  have found := session?_of_append sessions
  have absent : srv.session? srv.roster.sessions.length = none := by
    simp [session?, Roster.session?]
  refine ⟨scheduled.marked.of_same (congrArg Writers.queues writers) ?_ ?_, ?_⟩
  · rw [writers]
    exact fun stopped => stopped
  · intro other
    unfold isMarked
    rw [found]
    split
    · rename_i same
      simp [same, absent, fresh.scheduled]
    · rfl
  · refine scheduled.attended.opening sessions ⟨fun _ waiting => absurd fresh.queue waiting, ?_⟩
    intro _ pending
    simp [fresh.pending] at pending

theorem carried {handed : SessionId → Packet → Prop} (scheduled : srv.Scheduled)
    (move : Carried handed srv srv') : srv'.Scheduled := by
  cases move with
  | aside aside =>
    have found : ∀ id, srv'.session? id = srv.session? id := by
      intro id
      simp only [session?, Roster.session?, aside.sessions]
    refine ⟨scheduled.marked.of_same aside.queues aside.phase ?_, ?_⟩
    · intro id
      simp only [isMarked, found]
    · intro id s hs
      rw [found] at hs
      exact scheduled.attended id s hs
  | opening fresh sessions writers => exact scheduled.opening fresh sessions writers
  | alter alters => exact scheduled.alters alters
  | hand => exact scheduled.enqueueAndSchedule _ _
  | serve worker =>
    cases waiting : srv.writers.queues[worker]? with
    | none => simpa only [Server.writerStep, waiting] using scheduled
    | some queue =>
      cases queue with
      | nil => simpa only [Server.writerStep, waiting] using scheduled
      | cons id rest => exact (scheduled.writerStep waiting).1
  | writable id =>
    cases hs : srv.session? id with
    | none => simpa only [Server.streamWritable, hs] using scheduled
    | some s => exact (scheduled.streamWritable hs).1
  | close id reason =>
    exact ⟨scheduled.marked.close id reason, scheduled.attended.close fun _ _ _ => .of_closed rfl⟩

/-- A server without sessions has nothing to schedule. -/
theorem blank (plan : ServerPlan) (shardKey : RequestSender → Nat) (handlers : HandlerTable) :
    (Server.blank plan shardKey handlers).Scheduled := by
  have absent : ∀ id, (Server.blank plan shardKey handlers).session? id = none :=
    fun id => List.getElem?_nil
  have queues : (Server.blank plan shardKey handlers).writers.queues =
      List.replicate (max 1 plan.writers) [] := rfl
  refine ⟨⟨nofun, ?_, ?_, ?_⟩, ?_⟩
  · rw [queues, List.length_replicate]
    exact Nat.le_max_left 1 plan.writers
  · intro worker queue here id member
    rw [queues, List.getElem?_replicate] at here
    split at here <;> cases here
    cases member
  · intro id
    simp [queues, isMarked, absent]
  · intro id s hs
    rw [absent] at hs
    cases hs

theorem carryAll (scheduled : srv.Scheduled) (events : List Traffic) :
    (srv.carryAll events).Scheduled := by
  unfold Server.carryAll
  refine List.foldlRecOn events carry scheduled ?_
  intro before scheduled event _
  have carries : Carries (fun _ _ => True) before (before.carry event) :=
    carries_carry before event fun _ _ _ => trivial
  exact carries.preserves (fun _ _ move scheduled => scheduled.carried move) scheduled

end Scheduled

/--
After any events a session is on the run queues exactly if it is marked, and then once. An active
session with packets and nothing pending is marked; one with a pending write is marked or waits for
its stream. A turn of a writer serves the session at the front, takes no more packets than the
budget, and puts it behind all that wait if packets remain; so does a stream that takes bytes again.
-/
theorem run_scheduled (plan : ServerPlan) (shardKey : RequestSender → Nat) (handlers : HandlerTable)
    (events : List Traffic) :
    let srv := (blank plan shardKey handlers).carryAll events
    (∀ id, srv.writers.queues.flatten.count id = (srv.isMarked id).toNat) ∧
    (∀ id s, srv.session? id = some s → s.isActive = true →
      (s.queue.packets ≠ [] → s.pending? = none → s.writeScheduled = true) ∧
      (s.pending?.isSome = true → s.writeScheduled = true ∨ s.awaitsWritable = true)) ∧
    (∀ worker id rest, srv.writers.queues[worker]? = some (id :: rest) →
      ∃ s t, srv.session? id = some s ∧ (srv.writerStep worker).session? id = some t ∧
        s.Turned srv.writers.budget t ∧
        (∀ other, other ≠ id → (srv.writerStep worker).session? other = srv.session? other) ∧
        (srv.writerStep worker).writers.queues =
          srv.writers.queues.set worker (if t.isUnfinished then rest ++ [id] else rest)) ∧
    ∀ id s, srv.session? id = some s →
      ∃ t, (srv.streamWritable id).session? id = some t ∧ s.Turned srv.writers.budget t ∧
        ((srv.streamWritable id).writers.queues = srv.writers.queues ∨
          (srv.streamWritable id).writers.queues =
            srv.writers.queues.modify (id % srv.writers.queues.length) (· ++ [id])) := by
  intro srv
  have scheduled : srv.Scheduled := (Scheduled.blank plan shardKey handlers).carryAll events
  refine ⟨?_, ?_, ?_, ?_⟩
  · intro id
    simpa using scheduled.marked.marked id
  · intro id s hs active
    have attended := scheduled.attended id s hs
    exact ⟨attended.queued active, attended.pending active⟩
  · intro worker id rest front
    rcases scheduled.writerStep front with ⟨-, s, hs, serves⟩
    rcases serves.session with ⟨t, ht, turned, -, queues⟩
    refine ⟨s, t, hs, ht, turned, serves.others, ?_⟩
    -- the session belongs to the writer that served it
    have place : id % srv.writers.queues.length = worker :=
      scheduled.marked.placed worker _ front id (by simp)
    rw [queues]
    split
    · simp only [List.length_set, place, modify_set front]
    · rfl
  · intro id s hs
    exact (scheduled.streamWritable hs).2

end Server

end SessionNet
