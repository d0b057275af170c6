import SessionNet.Proofs.Dispatch.Keeping

/-!
# Requests that wait on a shard

All requests of a session wait on one shard, in the order in which they were accepted. What is
handed to the dispatcher is appended there, and what a shard takes is the first of its requests. So
the notices of a session's end can be counted: a notice is on its shard, or it has been taken.
-/

namespace SessionNet

theorem Request.sender_of_ends {request : Request} {id : SessionId} (ends : request.ends? = some id) :
    request.sender = .session id := by
  unfold ends? at ends
  split at ends
  · rename_i sender _ here _
    rw [here, Option.some.inj ends]
  · cases ends

namespace Dispatcher

/-- The requests on the shard of a session, oldest first. -/
def waiting (d : Dispatcher) (id : SessionId) : List Request :=
  (d.shards[d.shardOf (.session id)]?).elim [] fun shard => shard.queued.map (·.request)

/-- How many notices of the session's end wait on its shard. -/
def notices (d : Dispatcher) (id : SessionId) : Nat :=
  (d.waiting id).countP fun request => request.ends? = some id

/-- Every request is on the shard of its sender. -/
def Placed (d : Dispatcher) : Prop :=
  ∀ index shard, d.shards[index]? = some shard →
    ∀ queued ∈ shard.queued, d.shardOf queued.request.sender = index

section Shards

variable {d d' : Dispatcher} {id : SessionId} {index : Nat} {f : Shard → Shard}
variable {request : Request} {bounded : Bool} {queued : Queued}

theorem shardOf_update (sender : RequestSender) :
    (d.update index f).shardOf sender = d.shardOf sender := by
  simp [shardOf, update]

theorem shard_update {other : Nat} :
    (d.update index f).shards[other]? =
      if index = other then (d.shards[other]?).map f else d.shards[other]? := by
  rw [update, List.getElem?_modify]
  split
  · rfl
  · simp

theorem waiting_update :
    (d.update index f).waiting id =
      if index = d.shardOf (.session id) then
        (d.shards[index]?).elim [] fun shard => (f shard).queued.map (·.request)
      else d.waiting id := by
  simp only [waiting, shardOf_update, shard_update]
  split
  · rename_i here
    subst here
    cases d.shards[d.shardOf (.session id)]? <;> rfl
  · rfl

theorem Placed.update (placed : d.Placed)
    (hf : ∀ shard, d.shards[index]? = some shard → ∀ queued ∈ (f shard).queued,
      queued ∈ shard.queued ∨ d.shardOf queued.request.sender = index) :
    (d.update index f).Placed := by
  intro other shard hshard queued member
  rw [shardOf_update]
  rw [shard_update] at hshard
  split at hshard
  · rename_i here
    subst here
    rcases Option.map_eq_some_iff.mp hshard with ⟨old, hold, rfl⟩
    rcases hf old hold queued member with present | new
    · exact placed _ old hold queued present
    · exact new
  · exact placed other shard hshard queued member

/-! ### Accepting a request -/

theorem push_eq_ok (pushed : d.push request bounded = .ok d') :
    d.phase ≠ .stopped ∧ d' = d.update (d.shardOf request.sender) fun shard =>
      { queued := shard.queued ++ [⟨request, bounded⟩]
        permitsInUse := shard.permitsInUse + bounded.toNat } := by
  unfold push at pushed
  dsimp only at pushed
  split at pushed
  · cases pushed
  · rename_i accepting
    split at pushed
    · cases pushed
    · cases pushed
      exact ⟨accepting, rfl⟩

theorem shard_of_nonempty (nonempty : 0 < d.shards.length) (sender : RequestSender) :
    ∃ shard, d.shards[d.shardOf sender]? = some shard :=
  ⟨_, List.getElem?_eq_getElem (Nat.mod_lt _ nonempty)⟩

theorem waiting_push (nonempty : 0 < d.shards.length) (pushed : d.push request bounded = .ok d') :
    d'.waiting id =
      if d.shardOf request.sender = d.shardOf (.session id) then d.waiting id ++ [request]
      else d.waiting id := by
  rcases push_eq_ok pushed with ⟨-, rfl⟩
  rw [waiting_update]
  split
  · rename_i here
    rcases shard_of_nonempty nonempty request.sender with ⟨shard, hshard⟩
    simp [waiting, ← here, hshard]
  · rfl

theorem notices_push (nonempty : 0 < d.shards.length) (pushed : d.push request bounded = .ok d') :
    d'.notices id = d.notices id + if request.ends? = some id then 1 else 0 := by
  rw [notices, waiting_push nonempty pushed]
  split
  · rw [List.countP_append, List.countP_singleton]
    simp [notices]
  · rename_i elsewhere
    have foreign : request.ends? ≠ some id := by
      intro ends
      rw [Request.sender_of_ends ends] at elsewhere
      exact elsewhere rfl
    simp [notices, foreign]

theorem mem_waiting_push {other : Request} (nonempty : 0 < d.shards.length)
    (pushed : d.push request bounded = .ok d') (member : other ∈ d'.waiting id) :
    other ∈ d.waiting id ∨ other = request := by
  rw [waiting_push nonempty pushed] at member
  split at member
  · simpa using member
  · exact .inl member

theorem Placed.push (placed : d.Placed) (pushed : d.push request bounded = .ok d') : d'.Placed := by
  rcases push_eq_ok pushed with ⟨-, rfl⟩
  refine placed.update ?_
  intro shard _ queued member
  rcases List.mem_append.mp member with old | new
  · exact .inl old
  · rw [List.mem_singleton.mp new]
    exact .inr rfl

/-! ### Taking a request -/

theorem takeFrom_eq_some (taken : d.takeFrom index = some (queued, d')) :
    ∃ shard rest, d.shards[index]? = some shard ∧ shard.queued = queued :: rest ∧
      d' = d.update index fun shard => { shard with queued := rest } := by
  unfold takeFrom at taken
  cases hshard : d.shards[index]? with
  | none => simp [hshard] at taken
  | some shard =>
    simp only [hshard] at taken
    cases hqueued : shard.queued with
    | nil => simp [hqueued] at taken
    | cons first rest =>
      simp only [hqueued, Option.some.injEq, Prod.mk.injEq] at taken
      rcases taken with ⟨rfl, rfl⟩
      exact ⟨shard, rest, rfl, hqueued, rfl⟩

theorem waiting_takeFrom (taken : d.takeFrom index = some (queued, d')) :
    d.waiting id = if index = d.shardOf (.session id) then queued.request :: d'.waiting id
      else d'.waiting id := by
  rcases takeFrom_eq_some taken with ⟨shard, rest, hshard, hqueued, rfl⟩
  rw [waiting_update]
  split
  · rename_i here
    simp [waiting, ← here, hshard, hqueued]
  · rfl

theorem mem_waiting_of_takeFrom (placed : d.Placed) (taken : d.takeFrom index = some (queued, d'))
    (sender : queued.request.sender = .session id) : queued.request ∈ d.waiting id := by
  rcases takeFrom_eq_some taken with ⟨shard, rest, hshard, hqueued, rfl⟩
  have here := placed index shard hshard queued (by simp [hqueued])
  rw [sender] at here
  simp [waiting, here, hshard, hqueued]

theorem notices_takeFrom (id : SessionId) (placed : d.Placed) (taken : d.takeFrom index = some (queued, d')) :
    d.notices id = d'.notices id + if queued.request.ends? = some id then 1 else 0 := by
  rw [notices, waiting_takeFrom taken]
  split
  · rw [List.countP_cons]
    simp [notices]
  · rename_i elsewhere
    have foreign : queued.request.ends? ≠ some id := by
      intro ends
      rcases takeFrom_eq_some taken with ⟨shard, rest, hshard, hqueued, -⟩
      have here := placed index shard hshard queued (by simp [hqueued])
      rw [Request.sender_of_ends ends] at here
      exact elsewhere here.symm
    simp [notices, foreign]

theorem Placed.takeFrom (placed : d.Placed) (taken : d.takeFrom index = some (queued, d')) :
    d'.Placed := by
  rcases takeFrom_eq_some taken with ⟨shard, rest, hshard, hqueued, rfl⟩
  refine placed.update ?_
  intro same hsame queued member
  rcases Option.some.inj (hshard.symm.trans hsame) with rfl
  exact .inl (by simp [hqueued, member])

/-! ### Finishing a request -/

theorem waiting_finish : (d.finish index queued).waiting id = d.waiting id := by
  rw [finish, waiting_update]
  split
  · rename_i here
    simp [waiting, ← here]
  · rfl

theorem notices_finish : (d.finish index queued).notices id = d.notices id := by
  rw [notices, waiting_finish, notices]

theorem Placed.finish (placed : d.Placed) : (d.finish index queued).Placed :=
  placed.update fun _ _ _ member => .inl member

end Shards

end Dispatcher

/-! ## Closing a session -/

namespace Server

section Close

variable {srv : Server} {id other : SessionId} {reason : CloseReason} {s : Session}

/-- The notice of a session's end is accepted, unless the dispatcher is stopped. -/
theorem dispatcher_close_of_active (reason : CloseReason) (notifies : srv.notifiesDispatcher = true)
    (hs : srv.session? id = some s) (active : s.isActive = true) (managed : s.isManaged = true) :
    srv.dispatcher.phase = .stopped ∧ (srv.close id reason).2.dispatcher = srv.dispatcher ∨
      srv.dispatcher.phase ≠ .stopped ∧ ∃ transport,
        srv.dispatcher.push ⟨.session id, .sessionClosed reason, transport⟩ false =
          .ok (srv.close id reason).2.dispatcher := by
  have reported : (({ srv with roster := (srv.roster.close id reason).2 } : Server).reportClosed id
      s.transport.kind reason).dispatcher = _ := dispatcher_reportClosed notifies
  rw [close_of_managed hs active managed]
  dsimp only
  rw [reported]
  by_cases stopped : srv.dispatcher.phase = .stopped
  · exact .inl ⟨stopped, by simp [stopped]⟩
  · refine .inr ⟨stopped, s.transport.kind, ?_⟩
    rw [if_neg stopped]
    exact Dispatcher.enqueueNotice_of_accepting stopped

theorem notices_close (other : SessionId) (nonempty : 0 < srv.dispatcher.shards.length)
    (notifies : srv.notifiesDispatcher = true) (hs : srv.session? id = some s)
    (active : s.isActive = true) (managed : s.isManaged = true) :
    (srv.close id reason).2.dispatcher.notices other = srv.dispatcher.notices other +
      if other = id ∧ srv.dispatcher.phase ≠ .stopped then 1 else 0 := by
  rcases dispatcher_close_of_active reason notifies hs active managed with
    ⟨stopped, same⟩ | ⟨accepting, transport, pushed⟩
  · simp [same, stopped]
  · rw [Dispatcher.notices_push nonempty pushed]
    simp [Request.ends?, accepting, eq_comm]

/-- All that a closing adds to a queue is the notice of it. -/
theorem mem_waiting_close {request : Request} (nonempty : 0 < srv.dispatcher.shards.length)
    (notifies : srv.notifiesDispatcher = true) (hs : srv.session? id = some s)
    (active : s.isActive = true) (managed : s.isManaged = true)
    (member : request ∈ (srv.close id reason).2.dispatcher.waiting other) :
    request ∈ srv.dispatcher.waiting other ∨ request.kind = .sessionClosed reason := by
  rcases dispatcher_close_of_active reason notifies hs active managed with
    ⟨-, same⟩ | ⟨-, transport, pushed⟩
  · rw [same] at member
    exact .inl member
  · rcases Dispatcher.mem_waiting_push nonempty pushed member with old | rfl
    · exact .inl old
    · exact .inr rfl

theorem placed_close (placed : srv.dispatcher.Placed) (notifies : srv.notifiesDispatcher = true)
    (hs : srv.session? id = some s) (active : s.isActive = true) (managed : s.isManaged = true) :
    (srv.close id reason).2.dispatcher.Placed := by
  rcases dispatcher_close_of_active reason notifies hs active managed with
    ⟨-, same⟩ | ⟨-, transport, pushed⟩
  · rwa [same]
  · exact placed.push pushed

end Close

end Server

end SessionNet
