import SessionNet.Proofs.Dispatch.Association
import SessionNet.Proofs.Server.Closing

/-!
# What processing a request never undoes

Sessions are neither made nor reopened while a request is processed, who is associated stays so,
the history only grows, and the dispatcher keeps its phase and its shards. This is one relation
between two states of a server, which every step of a request keeps.
-/

namespace SessionNet

/-- A standing that may have been closed and may have become associated since. -/
structure Standing.Kept (t t' : Standing) : Prop where
  managed : t'.isManaged = t.isManaged
  done : t.association = .done → t'.association = .done
  closed : t.isActive = false → t'.isActive = false

namespace Standing.Kept

variable {t t' t'' : Standing}

theorem refl (t : Standing) : t.Kept t := ⟨rfl, id, id⟩

theorem trans (first : t.Kept t') (second : t'.Kept t'') : t.Kept t'' where
  managed := second.managed.trans first.managed
  done done := second.done (first.done done)
  closed closed := second.closed (first.closed closed)

theorem transition (t : Standing) {source target : AssociationState}
    (forward : source ≠ .done ∨ target = .done) : t.Kept (t.transition source target) := by
  rcases keeps_of_transition t source target with ⟨-, active, -, managed⟩
  refine ⟨managed, ?_, ?_⟩
  · intro done
    rcases forward with elsewhere | finished
    · exact association_transition_of_done done elsewhere
    · unfold Standing.transition
      split
      · exact finished
      · exact done
  · intro closed
    rwa [active]

theorem bind (t : Standing) (identity : String) : t.Kept (t.bind identity) := by
  have bound : Kept { t with identity? := some identity } (t.bind identity) :=
    transition _ (.inr rfl)
  exact ⟨bound.managed, bound.done, bound.closed⟩

theorem disown (t : Standing) : t.Kept t.disown := ⟨rfl, id, id⟩

theorem close (t : Standing) (reason : CloseReason) : t.Kept (t.close reason) := by
  rcases keeps_of_close t reason with ⟨association, -, managed, active⟩
  refine ⟨managed, ?_, fun _ => active⟩
  intro done
  rwa [association]

end Standing.Kept

namespace Server

/-- What has happened between two states of a server while requests were processed. -/
structure Kept (srv srv' : Server) : Prop where
  standing : ∀ id, Option.Rel Standing.Kept (srv.roster.standing? id) (srv'.roster.standing? id)
  length : srv'.roster.sessions.length = srv.roster.sessions.length
  settings : srv'.roster.settings = srv.roster.settings
  notifies : srv'.notifiesDispatcher = srv.notifiesDispatcher
  phase : srv'.dispatcher.phase = srv.dispatcher.phase
  shards : srv'.dispatcher.shards.length = srv.dispatcher.shards.length
  shardKey : srv'.dispatcher.shardKey = srv.dispatcher.shardKey
  history : srv.history <:+ srv'.history

namespace Kept

variable {srv srv' srv'' : Server} {id : SessionId} {identity : String}
variable {mayClose : ServerEvent → SessionId → Prop} {request : Request}

theorem refl (srv : Server) : Kept srv srv where
  standing _ := rel_refl Standing.Kept.refl _
  length := rfl
  settings := rfl
  notifies := rfl
  phase := rfl
  shards := rfl
  shardKey := rfl
  history := List.suffix_rfl

/-- A change to one shard. -/
theorem of_update (srv : Server) (index : Nat) (f : Shard → Shard) :
    Kept srv { srv with dispatcher := srv.dispatcher.update index f } :=
  { refl srv with phase := rfl, shards := List.length_modify _ _ _, shardKey := rfl }

theorem trans (first : Kept srv srv') (second : Kept srv' srv'') : Kept srv srv'' where
  standing id := rel_trans (fun _ _ _ => .trans) (first.standing id) (second.standing id)
  length := second.length.trans first.length
  settings := second.settings.trans first.settings
  notifies := second.notifies.trans first.notifies
  phase := second.phase.trans first.phase
  shards := second.shards.trans first.shards
  shardKey := second.shardKey.trans first.shardKey
  history := first.history.trans second.history

/-! ### Reading the relation -/

section Reading

variable {t' : Standing}

theorem standing_before (kept : Kept srv srv') (ht : srv'.roster.standing? id = some t') :
    ∃ t, srv.roster.standing? id = some t ∧ t.Kept t' := by
  have rel := kept.standing id
  rw [ht] at rel
  generalize hbefore : srv.roster.standing? id = before at rel
  cases rel with
  | some h => exact ⟨_, rfl, h⟩

theorem isSome_standing (kept : Kept srv srv') (id : SessionId) :
    (srv'.roster.standing? id).isSome = (srv.roster.standing? id).isSome := by
  have rel := kept.standing id
  generalize srv.roster.standing? id = before at rel
  generalize srv'.roster.standing? id = after at rel
  cases rel <;> rfl

theorem done (kept : Kept srv srv') (done : srv.roster.association? id = some .done) :
    srv'.roster.association? id = some .done := by
  rw [Roster.association?_eq_standing] at done ⊢
  have rel := kept.standing id
  generalize srv.roster.standing? id = before at rel done
  generalize srv'.roster.standing? id = after at rel
  cases rel with
  | none => cases done
  | some h => exact congrArg some (h.done (Option.some.inj done))

end Reading

/-! ### What keeps it -/

/-- A change of the roster alone, to the standing of one session. -/
theorem of_roster {r : Roster} {f : Standing → Standing} (hf : ∀ t : Standing, t.Kept (f t))
    (standing : ∀ other, r.standing? other =
      if other = id then (srv.roster.standing? other).map f else srv.roster.standing? other)
    (length : r.sessions.length = srv.roster.sessions.length)
    (settings : r.settings = srv.roster.settings) : Kept srv { srv with roster := r } where
  standing other := by
    simp only [standing]
    split
    · exact rel_map fun t _ => hf t
    · exact rel_refl Standing.Kept.refl _
  length := length
  settings := settings
  notifies := rfl
  phase := rfl
  shards := rfl
  shardKey := rfl
  history := List.suffix_rfl

theorem of_sameStanding (same : SameStanding srv srv') : Kept srv srv' where
  standing id := by
    rw [same.standing]
    exact rel_refl Standing.Kept.refl _
  length := same.length
  settings := same.settings
  notifies := same.notifies
  phase := by rw [same.dispatcher]
  shards := by rw [same.dispatcher]
  shardKey := by rw [same.dispatcher]
  history := by simp only [same.history, List.suffix_rfl]

theorem close (srv : Server) (id : SessionId) (reason : CloseReason) :
    Kept srv (srv.close id reason).2 where
  standing other := by
    rw [roster_close, Roster.standing?_close]
    split
    · exact rel_map fun t _ => .close t reason
    · exact rel_refl Standing.Kept.refl _
  length := by rw [roster_close, Roster.length_close]
  settings := by rw [roster_close, Roster.settings_close]
  notifies := notifies_close srv id reason
  phase := (dispatcher_close_frame srv id reason).1
  shards := (dispatcher_close_frame srv id reason).2.1
  shardKey := (dispatcher_close_frame srv id reason).2.2
  history := history_close_suffix srv id reason

theorem record (srv : Server) (o : Occurrence) : Kept srv (srv.record o) :=
  { refl srv with history := List.suffix_cons o srv.history }

theorem of_emits {event : ServerEvent} (emits : Emits mayClose event srv srv') :
    Kept srv srv' := by
  rcases emits with ⟨delivered, drift⟩
  refine drift.preserves (P := fun later => Kept srv later) ?_ ?_ (.record srv _)
  · intro later id reason _ kept
    exact kept.trans (.close later id reason)
  · intro later later' same kept
    exact kept.trans (.of_sameStanding same)

theorem transition (srv : Server) (id : SessionId) {source target : AssociationState}
    (forward : source ≠ .done ∨ target = .done) : Kept srv (srv.transition id source target) := by
  refine of_roster (fun t => .transition t forward)
    (fun _ => Roster.standing?_transition source target) ?_ ?_
  · rw [Roster.transition_eq_update]
    exact List.length_modify _ _ _
  · rw [Roster.transition_eq_update]
    rfl

theorem bind (srv : Server) (identity : String) (id : SessionId) :
    Kept srv { srv with roster := srv.roster.bind identity id } := by
  refine of_roster (fun t => .bind t identity) (fun _ => Roster.standing?_bind) ?_ ?_
  · rw [Roster.bind_eq]
    simp only [Roster.update, List.length_modify]
  · rw [Roster.bind_eq]
    rfl

theorem moved (srv : Server) (identity : String) (id old : SessionId) :
    Kept srv (srv.moved identity id old) := by
  have bound : Kept srv { srv with roster := srv.roster.bind identity id } := .bind srv identity id
  have disowned : Kept { srv with roster := srv.roster.bind identity id }
      (srv.moved identity id old) := by
    refine of_roster .disown (fun _ => Roster.standing?_disown) ?_ rfl
    simp only [Roster.update, List.length_modify]
  exact bound.trans disowned

theorem takeOver {old : SessionId} (live : srv.liveHolder? identity id = some old) :
    Kept srv (srv.takeOver identity id) := by
  rw [takeOver_eq live]
  exact (moved srv identity id old).trans (.close _ old .reconnected)

theorem associate (srv : Server) (identity : String) (id : SessionId) :
    Kept srv { srv with roster := (srv.roster.associate identity id).2 } := by
  refine Roster.associate_preserves (P := fun r => Kept srv { srv with roster := r }) (.refl srv)
    ?_ ?_ ?_
  · exact fun r before => before.trans (.bind { srv with roster := r } identity id)
  · exact fun r before => before.trans (.transition { srv with roster := r } id (.inl (by decide)))
  · intro r count before
    have counted : Kept { srv with roster := r }
        { srv with roster := { r with boundIdentities := count } } :=
      ⟨fun _ => rel_refl Standing.Kept.refl _, rfl, rfl, rfl, rfl, rfl, rfl, List.suffix_rfl⟩
    exact before.trans counted

theorem of_step {a b : Stage × Server} (step : Step mayClose request a b) : Kept a.2 b.2 := by
  cases step with
  | skip => exact .refl _
  | aside same => exact .of_sameStanding same
  | remark _ emits => exact .of_emits emits
  | deliver _ _ _ _ emits => exact .of_emits emits
  | report _ emits => exact .of_emits emits
  | begin => exact .transition _ _ (.inl (by decide))
  | ask _ _ emits => exact .of_emits emits
  | takeOver live => exact .takeOver live
  | associate => exact .associate _ _ _
  | already _ emits => exact .trans (.transition _ _ (.inr rfl)) (.of_emits emits)
  | refuse _ emits => exact .trans (.transition _ _ (.inl (by decide))) (.of_emits emits)
  | announce _ _ emits => exact .of_emits emits
  | fallBack => exact .transition _ _ (.inl (by decide))
  | close => exact .close _ _ _

theorem process (confined : srv.handlers.Confined mayClose) (request : Request) :
    Kept srv (srv.process request) := by
  have path : Path mayClose request (.ready, srv) (.over, srv.process request) :=
    process_path confined
  exact path.preserves (P := fun _ later => Kept srv later)
    (fun _ _ step kept => kept.trans (.of_step step)) (.refl srv)

end Kept

end Server

end SessionNet
