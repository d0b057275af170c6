import SessionNet.Proofs.Server.Changes
import SessionNet.Proofs.Server.Closing
import SessionNet.Proofs.Session.Passes

/-!
# What serving a session changes

Scheduling a session marks it and puts it on a run queue; a pass stores the session it leaves and
ends with what follows from its result. Nothing else about any session changes.
-/

namespace SessionNet.Server

variable {srv srv' : Server} {id other : SessionId} {s t : Session} {reason : CloseReason}

/-! ## Sessions -/

theorem session?_update_self (srv : Server) (id : SessionId) (f : Session → Session) :
    (srv.update id f).session? id = (srv.session? id).map f :=
  Roster.session?_update_self

theorem session?_update_of_ne (srv : Server) {f : Session → Session} (differs : other ≠ id) :
    (srv.update id f).session? other = srv.session? other :=
  Roster.session?_update_of_ne differs

theorem session?_close_self (srv : Server) (id : SessionId) (reason : CloseReason) :
    (srv.close id reason).2.session? id =
      (srv.session? id).map fun s => if s.isActive then s.tearDown reason else s := by
  unfold session?
  rw [roster_close]
  exact Roster.session?_close_self

theorem session?_close_of_ne (srv : Server) {reason : CloseReason} (differs : other ≠ id) :
    (srv.close id reason).2.session? other = srv.session? other := by
  unfold session?
  rw [roster_close]
  exact Roster.session?_close_of_ne differs

/-- Closing a session concerns neither the writers nor what they encode with. -/
theorem writing_close (srv : Server) (id : SessionId) (reason : CloseReason) :
    (srv.close id reason).2.writers = srv.writers ∧ (srv.close id reason).2.supply = srv.supply := by
  rcases exists_close_eq srv id reason with ⟨_, _, _, heq⟩
  rw [heq]
  exact ⟨rfl, rfl⟩

/-- Something holds of every session, registered or not. -/
def Everywhere (R : SessionId → Session → Prop) (srv : Server) : Prop :=
  ∀ id s, srv.session? id = some s → R id s

namespace Everywhere

variable {R : SessionId → Session → Prop}

/-- One session has become another one, and the others are as they were. -/
theorem replace (everywhere : srv.Everywhere R) (ht : srv'.session? id = some t) (here : R id t)
    (others : ∀ other, other ≠ id → srv'.session? other = srv.session? other) :
    srv'.Everywhere R := by
  intro other u hu
  by_cases same : other = id
  · subst same
    rcases Option.some.inj (ht.symm.trans hu) with rfl
    exact here
  · rw [others other same] at hu
    exact everywhere other u hu

theorem update (everywhere : srv.Everywhere R) {f : Session → Session}
    (here : ∀ s, srv.session? id = some s → R id s → R id (f s)) :
    (srv.update id f).Everywhere R := by
  intro other u hu
  by_cases same : other = id
  · subst same
    rw [session?_update_self] at hu
    rcases Option.map_eq_some_iff.mp hu with ⟨s, hs, rfl⟩
    exact here s hs (everywhere other s hs)
  · rw [session?_update_of_ne srv same] at hu
    exact everywhere other u hu

theorem close (everywhere : srv.Everywhere R)
    (here : ∀ s, R id s → s.isActive = true → R id (s.tearDown reason)) :
    (srv.close id reason).2.Everywhere R := by
  intro other u hu
  by_cases same : other = id
  · subst same
    rw [session?_close_self] at hu
    rcases Option.map_eq_some_iff.mp hu with ⟨s, hs, rfl⟩
    cases active : s.isActive with
    | true => exact here s (everywhere other s hs) active
    | false => exact everywhere other s hs
  · rw [session?_close_of_ne srv same] at hu
    exact everywhere other u hu

end Everywhere

/-! ## Scheduling -/

/-- Whether a session is marked as being on a run queue or being written. -/
def isMarked (srv : Server) (id : SessionId) : Bool := (srv.session? id).any (·.writeScheduled)

theorem roster_schedule (accepting : srv.writers.phase ≠ .stopped) :
    (srv.schedule id).roster =
      if srv.isMarked id then srv.roster
      else srv.roster.update id fun s => { s with writeScheduled := true } := by
  unfold schedule isMarked
  split <;> rfl

/-- An unmarked session goes to the end of the run queue it belongs to. -/
theorem queues_schedule (accepting : srv.writers.phase ≠ .stopped) :
    (srv.schedule id).writers.queues =
      if srv.isMarked id then srv.writers.queues
      else srv.writers.queues.modify (id % srv.writers.queues.length) (· ++ [id]) := by
  unfold schedule isMarked
  split <;> rfl

theorem phase_schedule (srv : Server) (id : SessionId) :
    (srv.schedule id).writers.phase = srv.writers.phase := by
  rcases srv.schedule_cases id with same | ⟨queues, scheduled⟩
  · rw [same]
  · rw [scheduled]

theorem supply_schedule (srv : Server) (id : SessionId) : (srv.schedule id).supply = srv.supply := by
  rcases srv.schedule_cases id with same | ⟨queues, scheduled⟩
  · rw [same]
  · rw [scheduled]
    rfl

/-- A session that is scheduled is marked, and nothing else about it changes. -/
theorem session?_schedule_self (accepting : srv.writers.phase ≠ .stopped) :
    (srv.schedule id).session? id =
      (srv.session? id).map fun s => { s with writeScheduled := true } := by
  unfold session?
  rw [roster_schedule accepting]
  split
  · rename_i already
    cases hs : srv.roster.session? id with
    | none => rfl
    | some s =>
      have mark : s.writeScheduled = true := by simpa [isMarked, session?, hs] using already
      simp [← mark]
  · exact Roster.session?_update_self

theorem session?_schedule_of_ne (srv : Server) (differs : other ≠ id) :
    (srv.schedule id).session? other = srv.session? other := by
  rcases srv.schedule_cases id with same | ⟨queues, scheduled⟩
  · rw [same]
  · rw [scheduled]
    exact session?_update_of_ne srv differs

/-- What does not depend on marks holds of every session after scheduling one. -/
theorem Everywhere.schedule {R : SessionId → Session → Prop} (everywhere : srv.Everywhere R)
    (unmarking : ∀ s, R id s → R id { s with writeScheduled := true }) :
    (srv.schedule id).Everywhere R := by
  rcases srv.schedule_cases id with same | ⟨queues, scheduled⟩
  · rwa [same]
  · rw [scheduled]
    exact everywhere.update fun s _ => unmarking s

/-! ## Passes -/

/-- The server with what a pass left of a session, whose claim is given back. -/
def release (srv : Server) (id : SessionId) (pass : Writing WritePass) : Server :=
  { srv.update id fun _ => { pass.session with writeScheduled := false } with supply := pass.supply }

theorem session?_release_self (hs : srv.session? id = some s) (pass : Writing WritePass) :
    (srv.release id pass).session? id = some { pass.session with writeScheduled := false } := by
  have updated := srv.session?_update_self id fun _ => { pass.session with writeScheduled := false }
  rw [hs] at updated
  exact updated

theorem session?_release_of_ne (srv : Server) (pass : Writing WritePass) (differs : other ≠ id) :
    (srv.release id pass).session? other = srv.session? other :=
  session?_update_of_ne srv differs

/-- What follows from the result of a pass. -/
inductive PassEnded (id : SessionId) (after : Server) : Except NetError WritePass → Server → Prop
  | drained : PassEnded id after (.ok .drained) after
  | yielded : PassEnded id after (.ok .yielded) (after.schedule id)
  | blocked : PassEnded id after (.ok .blocked)
      (after.update id fun s => { s with awaitsWritable := true })
  | failed (e : NetError) : PassEnded id after (.error e) (after.close id .writeError).2

/-- The pass over a session that is closed only gives back its claim. -/
theorem runPass_of_closed (hs : srv.session? id = some s) (closed : s.isActive = false) :
    srv.runPass id = srv.update id fun s => { s with writeScheduled := false } := by
  simp [runPass, hs, closed]

/-- A pass stores the session it leaves; one that drained the queue has left nothing in it. -/
theorem runPass_of_active (hs : srv.session? id = some s) (active : s.isActive = true) :
    PassEnded id (srv.release id (s.writePass srv.writers.budget srv.supply))
      (s.writePass srv.writers.budget srv.supply).result (srv.runPass id) := by
  have passed := Session.passed_writePass s srv.writers.budget srv.supply
  unfold runPass
  simp only [hs, active, Bool.not_true, Bool.false_eq_true, if_false]
  rcases hpass : s.writePass srv.writers.budget srv.supply with ⟨t, supply, result⟩
  rw [hpass] at passed
  rcases result with e | _ | _ | _
  · exact .failed e
  · have packets : t.queue.packets = [] := (passed.leaves .drained rfl).1
    have empty : t.queue.isEmpty = true := by simp [PacketQueue.isEmpty, packets]
    simp only [empty, if_true]
    exact .drained
  · exact .yielded
  · exact .blocked

end SessionNet.Server
