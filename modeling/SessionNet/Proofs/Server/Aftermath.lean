import SessionNet.Proofs.Server.Books

/-!
# What a request adds to the queues

Whatever is processed, what it adds to the queues are the notices of the sessions that it closes,
and each of these was open before. So a shard that is given nothing else to do comes to rest.
-/

namespace SessionNet

/-- How many sessions are open. -/
def Roster.openCount (r : Roster) : Nat := ((List.range r.sessions.length).filter r.isActive).length

/-- One session less is open after a closing that is reported. -/
theorem Roster.openCount_close (r : Roster) (id : SessionId) (reason : CloseReason) :
    (r.close id reason).2.openCount + (if r.isReported id then 1 else 0) ≤ r.openCount := by
  have others : (List.range (r.close id reason).2.sessions.length).filter
      (r.close id reason).2.isActive =
        ((List.range r.sessions.length).filter r.isActive).filter (· != id) := by
    rw [length_close, List.filter_filter]
    refine List.filter_congr fun other _ => ?_
    rw [isActive_close]
  rw [openCount, openCount, others]
  split
  · rename_i reported
    have active : r.isActive id = true := by
      rw [isReported] at reported
      rw [isActive_eq_standing]
      cases hs : r.standing? id with
      | none => simp [hs] at reported
      | some t => simp_all
    obtain ⟨s, hs, -⟩ := isActive_eq_true_iff.mp active
    have there : id < r.sessions.length := (List.getElem?_eq_some_iff.mp hs).1
    have counted : id ∈ (List.range r.sessions.length).filter r.isActive :=
      List.mem_filter.mpr ⟨List.mem_range.mpr there, active⟩
    refine Nat.succ_le_of_lt (List.length_filter_lt_length_iff_exists.mpr ⟨id, counted, ?_⟩)
    simp
  · exact List.length_filter_le _ _

namespace Server

variable {srv srv' : Server} {new : List (SessionId × CloseReason)}

/-! ## What is closed -/

/-- What is added to the record are closings, each of a session that was open and no longer is. -/
structure Closes (srv srv' : Server) (new : List (SessionId × CloseReason)) : Prop where
  closings : srv'.closings = srv.closings ++ new
  closed : ∀ closing ∈ new, srv'.roster.isActive closing.1 = false
  fewer : srv'.roster.openCount + new.length ≤ srv.roster.openCount

theorem exists_closes_of_happenings (happenings : Happenings srv srv') :
    ∃ new, Closes srv srv' new := by
  -- what is quiet or accepted closes nothing, and each closing that is recorded is of one session
  induction happenings with
  | refl => exact ⟨[], (List.append_nil _).symm, nofun, Nat.le_refl _⟩
  | @tail before after _ happening ih =>
    obtain ⟨new, closes⟩ := ih
    cases happening with
    | quiet quiet =>
      have same : after.roster.isActive = before.roster.isActive := funext quiet.roster.isActive
      refine ⟨new, quiet.closings.trans closes.closings, ?_, ?_⟩
      · rw [same]
        exact closes.closed
      · rw [Roster.openCount, quiet.roster.length, same]
        exact closes.fewer
    | close id reason =>
      have one := before.roster.openCount_close id reason
      have fewer := closes.fewer
      refine ⟨new ++ if before.roster.isReported id then [(id, reason)] else [], ?_, ?_, ?_⟩
      · rw [closings_close, closes.closings, List.append_assoc]
      · intro closing member
        rw [roster_close, Roster.isActive_close]
        obtain earlier | here := List.mem_append.mp member
        · rw [closes.closed closing earlier, Bool.and_false]
        · split at here
          · rw [List.mem_singleton.mp here]
            simp
          · cases here
      · rw [roster_close, List.length_append]
        split at one <;> simp_all <;> omega
    | accept plain accepted => exact ⟨new, closes.closings, closes.closed, closes.fewer⟩

/-- Whatever is processed, the notices of what it closes are all that is added to the queues. -/
theorem exists_closes_process (srv : Server) (request : Request) :
    ∃ new, Closes srv (srv.process request) new ∧
      (srv.process request).dispatcher = srv.dispatcher.appendAll (srv.told new) := by
  obtain ⟨new, closes⟩ : ∃ new, Closes srv (srv.process request) new := by
    -- only the announcement of an end comes before what happens
    obtain ⟨taken, announced, happenings⟩ :=
      exists_taken_process srv ⟨request, false⟩ srv.dispatcher
    obtain ⟨new, closes⟩ := exists_closes_of_happenings happenings
    exact ⟨new, announced.closings ▸ closes.closings, closes.closed,
      announced.roster ▸ closes.fewer⟩
  obtain ⟨new', closings, dispatcher⟩ := (Reports.process srv request).added
  obtain rfl : new = new' := List.append_cancel_left (closes.closings.symm.trans closings)
  exact ⟨new, closes, dispatcher⟩

/-! ## What waits for a session -/

/-- The notices of what was closed are at the end of the queue. -/
theorem waiting_of_told (nonempty : 0 < srv.dispatcher.shards.length)
    (added : srv'.dispatcher = srv.dispatcher.appendAll (srv.told new)) (id : SessionId) :
    ∃ notices, srv'.dispatcher.waiting id = srv.dispatcher.waiting id ++ notices ∧
      notices.length ≤ new.length ∧
      ∀ request ∈ notices, ∃ closing ∈ new, request = (srv.notice closing).request := by
  have told : (srv.told new).length ≤ new.length ∧
      ∀ queued ∈ srv.told new, ∃ closing ∈ new, queued = srv.notice closing := by
    unfold Server.told
    split
    · refine ⟨Nat.le_of_eq (List.length_map _), fun queued member => ?_⟩
      obtain ⟨closing, here, rfl⟩ := List.mem_map.mp member
      exact ⟨closing, here, rfl⟩
    · exact ⟨Nat.zero_le _, nofun⟩
  refine ⟨_, by rw [added, Dispatcher.waiting_appendAll nonempty], ?_, ?_⟩
  · rw [List.length_map]
    exact Nat.le_trans (List.length_filter_le _ _) told.1
  · intro request member
    obtain ⟨queued, shared, rfl⟩ := List.mem_map.mp member
    obtain ⟨closing, here, rfl⟩ := told.2 queued (List.mem_filter.mp shared).1
    exact ⟨closing, here, rfl⟩

/-- Of the notices that are accepted, those of a session are on the shard of it. -/
theorem farewells_told (srv : Server) (id : SessionId) (new : List (SessionId × CloseReason)) :
    (((srv.dispatcher.share (srv.dispatcher.shardOf (.session id)) (srv.told new)).map
        (·.request)).filterMap Request.ending?).filter (·.1 == id) =
      if srv.isListening then new.filter (·.1 == id) else [] := by
  unfold told
  split
  · induction new with
    | nil => rfl
    | cons closing rest ih =>
      unfold Dispatcher.share at ih ⊢
      rw [List.map_cons, List.filter_cons]
      by_cases own : closing.1 = id
      · subst own
        simpa [notice, Request.ending?] using ih
      · -- the notice of another session may be there as well
        split <;> simpa [notice, Request.ending?, own] using ih
  · rfl

theorem farewells_of_told (nonempty : 0 < srv.dispatcher.shards.length)
    (added : srv'.dispatcher = srv.dispatcher.appendAll (srv.told new)) (id : SessionId) :
    srv'.dispatcher.farewells id = srv.dispatcher.farewells id ++
      if srv.isListening then new.filter (·.1 == id) else [] := by
  rw [added, Dispatcher.farewells, Dispatcher.waiting_appendAll nonempty, List.filterMap_append,
    List.filter_append, farewells_told, Dispatcher.farewells]

end Server

end SessionNet
