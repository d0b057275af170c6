import SessionNet.Proofs.Server.Farewells

/-!
# The books of a server

The ends recorded of a session are those that were announced and those that wait, in this order, as
long as the dispatcher accepts; and once it has stopped, for the sessions that were closed before.
With this go the accounts of the roster and the reason that each closed session keeps. Whatever is
done with a server, the books are kept.
-/

namespace SessionNet.Server

variable {srv srv' srv'' : Server} {id : SessionId}

/-! ## The books -/

/--
The accounts of the roster are right, a session is reported as closed once and for the reason it
keeps, and what was reported of these sessions was announced or waits to be. Once the dispatcher has
stopped, these sessions are closed ones.
-/
structure Books (who : SessionId → Prop) (srv : Server) : Prop where
  accounts : srv.roster.Accounts
  reported : ∀ id, srv.closingsOf id = (srv.session? id).elim [] (Session.ends id)
  notifies : srv.notifiesDispatcher = true
  nonempty : 0 < srv.dispatcher.shards.length
  placed : srv.dispatcher.Placed
  conserved : ∀ id, who id → srv.closingsOf id = srv.farewells id ++ srv.dispatcher.farewells id
  stopped : srv.dispatcher.phase = .stopped → ∀ id, who id →
    id < srv.roster.sessions.length ∧ srv.roster.isActive id = false

/-- The phase of the dispatcher was set, and otherwise what no account is about. -/
structure Rephased (phase : StagePhase) (srv srv' : Server) : Prop where
  roster : srv'.roster = srv.roster
  history : srv'.history = srv.history
  notifies : srv'.notifiesDispatcher = srv.notifiesDispatcher
  dispatcher : srv'.dispatcher = { srv.dispatcher with phase }

namespace Rephased

variable {phase : StagePhase}

theorem closings (rephased : Rephased phase srv srv') : srv'.closings = srv.closings := by
  rw [Server.closings, rephased.history, Server.closings]

theorem farewells (rephased : Rephased phase srv srv') (id : SessionId) :
    srv'.farewells id = srv.farewells id := by
  rw [Server.farewells, eventsOf, rephased.history]
  rfl

end Rephased

/-- A request was taken off its shard, and the end that it is the notice of was announced. -/
structure Taken (queued : Queued) (dispatcher : Dispatcher) (srv taken : Server) : Prop where
  roster : taken.roster = srv.roster
  dispatcher : taken.dispatcher = dispatcher
  notifies : taken.notifiesDispatcher = srv.notifiesDispatcher
  lifecycle : taken.lifecycle = srv.lifecycle
  closings : taken.closings = srv.closings
  farewells : ∀ id, taken.farewells id =
    srv.farewells id ++ queued.request.ending?.toList.filter (·.1 == id)

/-- Whatever comes of a request, it begins with the announcement that it asks for. -/
theorem exists_taken_process (srv : Server) (queued : Queued) (dispatcher : Dispatcher) :
    ∃ taken, Taken queued dispatcher srv taken ∧
      Happenings taken (({ srv with dispatcher } : Server).process queued.request) := by
  cases ending : queued.request.ending? with
  | none =>
    refine ⟨{ srv with dispatcher }, ⟨rfl, rfl, rfl, rfl, rfl, ?_⟩, happenings_process ending _⟩
    intro id
    rw [ending]
    exact (List.append_nil _).symm
  | some closing =>
    rcases exists_happenings_process ending { srv with dispatcher } with
      ⟨identity?, delivered, happenings⟩
    refine ⟨({ srv with dispatcher } : Server).record (.event (.sessionWillBeClosed closing.1
      identity? closing.2) delivered), ⟨rfl, rfl, rfl, rfl, ?_, ?_⟩, happenings⟩
    · exact (closings_record _ _).trans (List.append_nil _)
    · intro id
      rw [ending]
      exact farewells_record _ _

section Close

variable {s : Session} {reason : CloseReason}

theorem closingsOf_close (other : SessionId) (hs : srv.session? id = some s)
    (active : s.isActive = true) (managed : s.isManaged = true) :
    (srv.close id reason).2.closingsOf other =
      srv.closingsOf other ++ if other = id then [(id, reason)] else [] := by
  have present : srv.roster.session? id = some s := hs
  have reported : srv.roster.isReported id = true := by
    simp [Roster.isReported, Roster.standing?, present, Session.standing, active, managed]
  have recorded : (srv.close id reason).2.closings = srv.closings ++ [(id, reason)] := by
    rw [closings_close, reported]
    rfl
  rw [closingsOf, recorded, List.filter_append, closingsOf]
  by_cases same : other = id
  · simp [same]
  · simp [same, Ne.symm same]

theorem farewells_close (other : SessionId) :
    (srv.close id reason).2.farewells other = srv.farewells other := by
  rcases history_close srv id reason with same | recorded
  · rw [farewells, eventsOf, same]
    rfl
  · rw [farewells, eventsOf, recorded]
    exact congrArg (List.filterMap _) eventsOf_closed

end Close

namespace Books

variable {who who' : SessionId → Prop}

theorem weaken (books : Books who srv) (fewer : ∀ id, who' id → who id) : Books who' srv :=
  { books with
    conserved := fun id member => books.conserved id (fewer id member)
    stopped := fun phase id member => books.stopped phase id (fewer id member) }

theorem quiet (books : Books who srv) (quiet : Quiet srv srv') : Books who srv' where
  accounts := books.accounts.continues quiet.roster
  reported id := by
    have ends : ∀ s t : Session, s.Continues t → Session.ends id t = Session.ends id s := by
      intro s t here
      rw [Session.ends, Session.ends, here.closeReason]
    have same : (srv'.session? id).elim [] (Session.ends id) =
        (srv.session? id).elim [] (Session.ends id) :=
      quiet.roster.elim_session? ends id
    rw [closingsOf, quiet.closings, same]
    exact books.reported id
  notifies := quiet.notifies.trans books.notifies
  nonempty := quiet.dispatcher ▸ books.nonempty
  placed := quiet.dispatcher ▸ books.placed
  conserved id member := by
    rw [closingsOf, quiet.closings, quiet.farewells, quiet.dispatcher]
    exact books.conserved id member
  stopped phase id member := by
    rw [quiet.dispatcher] at phase
    rw [quiet.roster.length, quiet.roster.isActive]
    exact books.stopped phase id member

theorem close (books : Books who srv) (id : SessionId) (reason : CloseReason) :
    Books who (srv.close id reason).2 := by
  cases hactive : srv.roster.isActive id with
  | false => rwa [close_of_not_active hactive]
  | true =>
    rcases Roster.isActive_eq_true_iff.mp hactive with ⟨s, hs, active⟩
    have present : srv.session? id = some s := hs
    have intact := books.accounts.intact id s hs
    have managed := intact.managed
    have kept : Kept srv (srv.close id reason).2 := .close srv id reason
    refine ⟨?_, ?_, ?_, ?_, ?_, ?_, ?_⟩
    · rw [roster_close]
      exact books.accounts.close id reason
    · intro other
      rw [closingsOf_close other hs active managed, books.reported]
      by_cases same : other = id
      · subst same
        rw [session?_close_self, present]
        simp [active, Session.ends, Session.tearDown, intact.unclosed active]
      · rw [session?_close_of_ne srv same, if_neg same, List.append_nil]
    · exact kept.notifies.trans books.notifies
    · rw [kept.shards]
      exact books.nonempty
    · exact placed_close books.placed books.notifies hs active managed
    · intro other member
      rw [closingsOf_close other hs active managed, farewells_close, books.conserved other member]
      rcases dispatcher_close_of_active reason books.notifies hs active managed with
        ⟨stopped, same⟩ | ⟨-, transport, pushed⟩
      · -- this session is not one of those that the books of a stopped dispatcher are about
        have foreign : other ≠ id := by
          rintro rfl
          exact Bool.false_ne_true ((books.stopped stopped other member).2.symm.trans hactive)
        rw [same, if_neg foreign, List.append_nil]
      · rw [Dispatcher.farewells_push books.nonempty pushed, List.append_assoc]
        by_cases own : other = id
        · simp [own, Request.ending?]
        · simp [own, Ne.symm own, Request.ending?]
    · intro phase other member
      rw [kept.phase] at phase
      rw [kept.length, roster_close, Roster.isActive_close]
      have before := books.stopped phase other member
      exact ⟨before.1, by rw [before.2, Bool.and_false]⟩

theorem accept (books : Books who srv) {dispatcher : Dispatcher} {request : Request}
    (plain : request.ending? = none) (accepted : srv.dispatcher.enqueue request = .ok dispatcher) :
    Books who { srv with dispatcher } := by
  have pushed : srv.dispatcher.push request true = .ok dispatcher := accepted
  rcases Dispatcher.push_eq_ok pushed with ⟨accepting, appended⟩
  refine ⟨books.accounts, books.reported, books.notifies, ?_, books.placed.push pushed, ?_, ?_⟩
  · rw [appended]
    exact Nat.lt_of_lt_of_eq books.nonempty (List.length_modify _ _ _).symm
  · intro id member
    have same : dispatcher.farewells id = _ := Dispatcher.farewells_push books.nonempty pushed
    rw [plain, Option.toList_none, List.filter_nil, List.append_nil] at same
    exact (books.conserved id member).trans (congrArg (srv.farewells id ++ ·) same.symm)
  · intro phase
    rw [appended] at phase
    exact absurd phase accepting

theorem happenings (books : Books who srv) (happenings : Happenings srv srv') : Books who srv' := by
  induction happenings with
  | refl => exact books
  | tail _ happening ih =>
    cases happening with
    | quiet quiet => exact ih.quiet quiet
    | close id reason => exact ih.close id reason
    | accept plain accepted => exact ih.accept plain accepted

/-- A change of the phase of the dispatcher, and of what no account is about. -/
theorem rephase (books : Books who srv) {phase : StagePhase} (rephased : Rephased phase srv srv')
    (stopped : phase = .stopped → ∀ id, who id →
      id < srv.roster.sessions.length ∧ srv.roster.isActive id = false) : Books who srv' where
  accounts := rephased.roster ▸ books.accounts
  reported id := by
    rw [closingsOf, rephased.closings, session?, rephased.roster]
    exact books.reported id
  notifies := rephased.notifies.trans books.notifies
  nonempty := rephased.dispatcher ▸ books.nonempty
  placed := rephased.dispatcher ▸ books.placed
  conserved id member := by
    have before := books.conserved id member
    rw [closingsOf, rephased.closings, rephased.farewells, rephased.dispatcher]
    exact before
  stopped phased id member := by
    rw [rephased.dispatcher] at phased
    rw [rephased.roster]
    exact stopped phased id member

/-! ### The reason of a closing -/

/-- A session that is closed has been reported once, for the reason that it keeps. -/
theorem closingsOf_of_inactive (books : Books who srv) (there : id < srv.roster.sessions.length)
    (inactive : srv.roster.isActive id = false) :
    ∃ reason, srv.closingsOf id = [(id, reason)] := by
  have hs : srv.roster.session? id = some srv.roster.sessions[id] := List.getElem?_eq_getElem there
  rcases books.accounts.of_inactive hs inactive with ⟨reason, ended, -⟩
  have present : srv.session? id = some srv.roster.sessions[id] := hs
  refine ⟨reason, ?_⟩
  rw [books.reported, present]
  simp [Session.ends, ended.closeReason]

theorem ended_of_closingsOf (books : Books who srv) {reason : CloseReason}
    (reported : srv.closingsOf id = [(id, reason)]) :
    ∃ s, srv.session? id = some s ∧ s.Ended reason ∧ s.slot? = none := by
  rw [books.reported] at reported
  cases hs : srv.session? id with
  | none => simp [hs] at reported
  | some s =>
    have closed : s.closeReason? = some reason := by
      cases hreason : s.closeReason? <;> simp [hs, Session.ends, hreason] at reported
      rw [reported]
    rcases (books.accounts.intact id s hs).life with ⟨-, unclosed⟩ | ⟨reason', ended, free⟩
    · exact absurd (unclosed.symm.trans closed) (Option.some_ne_none _).symm
    · rcases Option.some.inj (closed.symm.trans ended.closeReason) with rfl
      exact ⟨s, rfl, ended, free⟩

/-- What has been reported of a session is all that ever will be. -/
theorem closingsOf_later (later : Books who srv') {reason : CloseReason}
    (grown : srv.closings <+: srv'.closings) (reported : srv.closingsOf id = [(id, reason)]) :
    srv'.closingsOf id = [(id, reason)] := by
  -- the record of a session only grows, and has room for one end
  have longer : srv.closingsOf id <+: srv'.closingsOf id := grown.filter _
  have one : (srv'.closingsOf id).length ≤ 1 := by
    rw [later.reported]
    cases srv'.session? id with
    | none => exact Nat.zero_le 1
    | some s => cases hreason : s.closeReason? <;> simp [Session.ends, hreason]
  rw [reported] at longer
  exact (longer.eq_of_length_le one).symm

theorem closingsOf_of_active (books : Books who srv) (active : srv.roster.isActive id = true)
    (reason : CloseReason) : (srv.close id reason).2.closingsOf id = [(id, reason)] := by
  rcases Roster.isActive_eq_true_iff.mp active with ⟨s, hs, hactive⟩
  have intact := books.accounts.intact id s hs
  have present : srv.session? id = some s := hs
  rw [closingsOf_close id hs hactive intact.managed, books.reported, present, if_pos rfl]
  simp [Session.ends, intact.unclosed hactive]

/-! ### Turns of shards -/

/-- The end that a request is the notice of no longer waits, and has been announced. -/
theorem take (books : Books who srv) {shard : Nat} {queued : Queued} {dispatcher : Dispatcher}
    (next : srv.dispatcher.takeFrom shard = some (queued, dispatcher))
    (taken : Taken queued dispatcher srv srv') : Books who srv' := by
  rcases Dispatcher.frame_takeFrom next with ⟨shards, -, phase⟩
  refine ⟨taken.roster ▸ books.accounts, ?_, taken.notifies.trans books.notifies, ?_, ?_, ?_, ?_⟩
  · intro id
    rw [closingsOf, taken.closings, session?, taken.roster]
    exact books.reported id
  · rw [taken.dispatcher, shards]
    exact books.nonempty
  · rw [taken.dispatcher]
    exact books.placed.takeFrom next
  · intro id member
    -- what was the first to wait is the last that was announced
    have before := books.conserved id member
    rw [Dispatcher.farewells_takeFrom books.placed next, ← List.append_assoc,
      ← taken.farewells] at before
    rw [closingsOf, taken.closings, taken.dispatcher]
    exact before
  · intro stopped id member
    rw [taken.dispatcher, phase] at stopped
    rw [taken.roster]
    exact books.stopped stopped id member

theorem finish (books : Books who srv) (shard : Nat) (queued : Queued) :
    Books who { srv with dispatcher := srv.dispatcher.finish shard queued } where
  accounts := books.accounts
  reported := books.reported
  notifies := books.notifies
  nonempty := Nat.lt_of_lt_of_eq books.nonempty (List.length_modify _ _ _).symm
  placed := books.placed.finish
  conserved id member := by
    have same : (srv.dispatcher.finish shard queued).farewells id = srv.dispatcher.farewells id :=
      Dispatcher.farewells_finish
    exact (books.conserved id member).trans (congrArg (srv.farewells id ++ ·) same.symm)
  stopped := books.stopped

end Books

/-- A turn of a shard takes a request, announces the end that it is the notice of, and goes on. -/
theorem shardStep_happens (srv : Server) (shard : Nat) :
    srv.shardStep shard = srv ∨ ∃ queued dispatcher taken after,
      srv.dispatcher.takeFrom shard = some (queued, dispatcher) ∧
      Taken queued dispatcher srv taken ∧ Happenings taken after ∧
      srv.shardStep shard = { after with dispatcher := after.dispatcher.finish shard queued } := by
  rcases shardStep_cases srv shard with idle | ⟨queued, dispatcher, after, next, rfl, heq⟩
  · exact .inl idle
  · rcases exists_taken_process srv queued dispatcher with ⟨taken, announced, happenings⟩
    exact .inr ⟨queued, dispatcher, taken, _, next, announced, happenings, heq⟩

theorem Books.shardStep {who : SessionId → Prop} (books : Books who srv) (shard : Nat) :
    Books who (srv.shardStep shard) := by
  rcases shardStep_happens srv shard with idle | ⟨queued, _, _, _, next, taken, happenings, heq⟩
  · rwa [idle]
  · rw [heq]
    exact ((books.take next taken).happenings happenings).finish shard queued

/-! ## What goes on -/

/--
A server stays where it is in its life, as does its dispatcher, keeps what was reported and the
sessions it has, and gets nothing to do once the dispatcher has stopped.
-/
structure Onward (srv srv' : Server) : Prop where
  lifecycle : srv'.lifecycle = srv.lifecycle
  phase : srv'.dispatcher.phase = srv.dispatcher.phase
  closings : srv.closings <+: srv'.closings
  length : srv.roster.sessions.length ≤ srv'.roster.sessions.length
  idle : srv.dispatcher.phase = .stopped → srv.dispatcher.IsIdle → srv'.dispatcher.IsIdle

namespace Onward

theorem refl (srv : Server) : Onward srv srv :=
  ⟨rfl, rfl, List.prefix_rfl, Nat.le_refl _, fun _ nothing => nothing⟩

theorem trans (first : Onward srv srv') (second : Onward srv' srv'') : Onward srv srv'' where
  lifecycle := second.lifecycle.trans first.lifecycle
  phase := second.phase.trans first.phase
  closings := first.closings.trans second.closings
  length := Nat.le_trans first.length second.length
  idle stopped nothing := second.idle (first.phase.trans stopped) (first.idle stopped nothing)

theorem of_quiet (quiet : Quiet srv srv') : Onward srv srv' where
  lifecycle := quiet.lifecycle
  phase := congrArg Dispatcher.phase quiet.dispatcher
  closings := quiet.closings ▸ List.prefix_rfl
  length := Nat.le_of_eq quiet.roster.length.symm
  idle _ nothing := by rwa [quiet.dispatcher]

theorem close (srv : Server) (id : SessionId) (reason : CloseReason) :
    Onward srv (srv.close id reason).2 := by
  have kept : Kept srv (srv.close id reason).2 := .close srv id reason
  have reports := Reports.close srv id reason
  refine ⟨lifecycle_close srv id reason, kept.phase, ?_, Nat.le_of_eq kept.length.symm, ?_⟩
  · rcases reports.added with ⟨new, added, -⟩
    exact ⟨new, added.symm⟩
  · intro stopped nothing
    -- a stopped dispatcher is told nothing
    rw [reports.dispatcher_eq, told_of_stopped (reports.phase.trans stopped)]
    exact nothing

theorem of_happenings (happenings : Happenings srv srv') : Onward srv srv' := by
  induction happenings with
  | refl => exact .refl srv
  | tail _ happening ih =>
    cases happening with
    | quiet quiet => exact ih.trans (.of_quiet quiet)
    | close id reason => exact ih.trans (.close _ id reason)
    | accept plain accepted =>
      rcases Dispatcher.push_eq_ok accepted with ⟨accepting, rfl⟩
      exact ih.trans ⟨rfl, rfl, List.prefix_rfl, Nat.le_refl _,
        fun stopped _ => absurd stopped accepting⟩

theorem shardStep (srv : Server) (shard : Nat) : Onward srv (srv.shardStep shard) := by
  rcases shardStep_happens srv shard with
    same | ⟨queued, dispatcher, taken, after, next, announced, happenings, heq⟩
  · rw [same]
    exact .refl srv
  · have onward := of_happenings happenings
    have first : Onward srv taken := by
      refine ⟨announced.lifecycle, ?_, announced.closings ▸ List.prefix_rfl, ?_, ?_⟩
      · rw [announced.dispatcher]
        exact (Dispatcher.frame_takeFrom next).2.2
      · exact Nat.le_of_eq (by rw [announced.roster])
      · -- there is nothing to be taken from an idle dispatcher
        intro _ idle
        have nothing := Dispatcher.takeFrom_eq_none_iff.mpr (idle shard)
        exact absurd (next.symm.trans nothing) (Option.some_ne_none _)
    rw [heq]
    refine first.trans (onward.trans ⟨rfl, rfl, List.prefix_rfl, Nat.le_refl _, ?_⟩)
    intro _ idle index
    exact Dispatcher.queuedOn_finish.trans (idle index)

end Onward

end SessionNet.Server
