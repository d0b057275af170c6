import SessionNet.Proofs.Session.Standing

/-!
# What closing a session does to the server

Closing an active managed session changes its roster, records the end, and hands a notice of it to
the dispatcher, unless that is stopped. Closing anything else leaves the server as it was.
-/

namespace SessionNet

namespace Roster

theorem settings_remove (r : Roster) (id : SessionId) : (r.remove id).2.settings = r.settings := by
  cases hs : r.session? id with
  | none => rw [remove_of_none hs]
  | some s =>
    rw [remove_eq hs]
    cases s.identity? with
    | none => rfl
    | some identity =>
      simp only [Option.elim_some, removeIdentity]
      split <;> rfl

theorem settings_close (r : Roster) (id : SessionId) (reason : CloseReason) :
    (r.close id reason).2.settings = r.settings := by
  cases hactive : r.isActive id with
  | false => rw [close_of_not_active hactive]
  | true =>
    rcases isActive_eq_true_iff.mp hactive with ⟨s, hs, active⟩
    have kept : (r.releaseSlot s).settings = r.settings := by
      unfold releaseSlot
      split <;> rfl
    rw [close_of_active hs active]
    split
    · rw [settings_remove]
      exact kept
    · exact kept

theorem length_close (r : Roster) (id : SessionId) (reason : CloseReason) :
    (r.close id reason).2.sessions.length = r.sessions.length := by
  cases hactive : r.isActive id with
  | false => rw [close_of_not_active hactive]
  | true =>
    rcases isActive_eq_true_iff.mp hactive with ⟨s, hs, active⟩
    rw [sessions_close hs active, List.length_modify]

end Roster

namespace Dispatcher

variable {d : Dispatcher} {request : Request}

/-- A notice goes to the shard of its sender, whatever permits are in use. -/
theorem enqueueNotice_of_accepting (accepting : d.phase ≠ .stopped) :
    d.enqueueNotice request = .ok (d.update (d.shardOf request.sender) fun shard =>
      { shard with queued := shard.queued ++ [⟨request, false⟩] }) := by
  simp [enqueueNotice, push, accepting]

theorem enqueueNotice_of_stopped (stopped : d.phase = .stopped) :
    d.enqueueNotice request = .error (.shutdown .dispatcher) := by
  simp [enqueueNotice, push, stopped]

end Dispatcher

namespace Server

variable {srv : Server} {id : SessionId} {reason : CloseReason} {transport : TransportKind}

theorem close_of_not_active (inactive : srv.roster.isActive id = false) :
    (srv.close id reason).2 = srv := by
  unfold close
  cases hs : srv.session? id with
  | none => rfl
  | some s =>
    have hs' : srv.roster.session? id = some s := hs
    have closed : srv.roster.close id reason = (false, srv.roster) := by
      have hactive : s.isActive = false := by simpa [Roster.isActive, hs'] using inactive
      simp [Roster.close, hs', hactive]
    simp [closed]

theorem close_of_managed {s : Session} (hs : srv.session? id = some s) (active : s.isActive = true)
    (managed : s.isManaged = true) :
    srv.close id reason = (true,
      ({ srv with roster := (srv.roster.close id reason).2 } : Server).reportClosed id
        s.transport.kind reason) := by
  have hs' : srv.roster.session? id = some s := hs
  have closed : (srv.roster.close id reason).1 = true := by
    simp [Roster.close, hs', active, managed]
  simp only [close, hs, closed, managed, Bool.and_self, if_true]

theorem history_reportClosed :
    (srv.reportClosed id transport reason).history = .closed id reason :: srv.history := by
  unfold reportClosed notify
  dsimp only
  split
  · split <;> rfl
  · rfl

theorem dispatcher_reportClosed (notifies : srv.notifiesDispatcher = true) :
    (srv.reportClosed id transport reason).dispatcher =
      if srv.dispatcher.phase = .stopped then srv.dispatcher
      else srv.dispatcher.update (srv.dispatcher.shardOf (.session id)) fun shard =>
        { shard with
          queued := shard.queued ++ [⟨⟨.session id, .sessionClosed reason, transport⟩, false⟩] } := by
  simp only [reportClosed, record, notifies, if_true, notify]
  by_cases stopped : srv.dispatcher.phase = .stopped
  · simp only [Dispatcher.enqueueNotice_of_stopped stopped, stopped, if_true]
  · simp only [Dispatcher.enqueueNotice_of_accepting stopped, stopped, if_false]

theorem notifies_reportClosed :
    (srv.reportClosed id transport reason).notifiesDispatcher = srv.notifiesDispatcher := by
  unfold reportClosed notify
  dsimp only
  split
  · split <;> rfl
  · rfl

/-- Whatever is closed, the phase, the number of the shards and the key stay. -/
theorem dispatcher_close_frame (srv : Server) (id : SessionId) (reason : CloseReason) :
    (srv.close id reason).2.dispatcher.phase = srv.dispatcher.phase ∧
      (srv.close id reason).2.dispatcher.shards.length = srv.dispatcher.shards.length ∧
      (srv.close id reason).2.dispatcher.shardKey = srv.dispatcher.shardKey := by
  have noticed : ∀ (srv : Server) (request : Request),
      (srv.notify request).dispatcher.phase = srv.dispatcher.phase ∧
        (srv.notify request).dispatcher.shards.length = srv.dispatcher.shards.length ∧
        (srv.notify request).dispatcher.shardKey = srv.dispatcher.shardKey := by
    intro srv request
    unfold notify
    by_cases stopped : srv.dispatcher.phase = .stopped
    · rw [Dispatcher.enqueueNotice_of_stopped stopped]
      exact ⟨rfl, rfl, rfl⟩
    · rw [Dispatcher.enqueueNotice_of_accepting stopped]
      exact ⟨rfl, List.length_modify _ _ _, rfl⟩
  unfold close
  split
  · exact ⟨rfl, rfl, rfl⟩
  · dsimp only
    split
    · unfold reportClosed
      dsimp only
      split
      · exact noticed _ _
      · exact ⟨rfl, rfl, rfl⟩
    · exact ⟨rfl, rfl, rfl⟩

/-- Closing a session changes the roster, the queues of the dispatcher and the history. -/
theorem exists_close_eq (srv : Server) (id : SessionId) (reason : CloseReason) :
    ∃ roster dispatcher history,
      (srv.close id reason).2 = { srv with roster, dispatcher, history } := by
  have noticed : ∀ (srv : Server) (request : Request),
      ∃ dispatcher, srv.notify request = { srv with dispatcher } := by
    intro srv request
    unfold notify
    split <;> exact ⟨_, rfl⟩
  unfold close
  split
  · exact ⟨_, _, _, rfl⟩
  · dsimp only
    split
    · unfold reportClosed
      dsimp only
      split
      · rcases noticed (({ srv with roster := (srv.roster.close id reason).2 } : Server).record
          (.closed id reason)) ⟨.session id, .sessionClosed reason, _⟩ with ⟨dispatcher, heq⟩
        exact ⟨_, _, _, heq⟩
      · exact ⟨_, _, _, rfl⟩
    · exact ⟨_, _, _, rfl⟩

theorem notifies_close (srv : Server) (id : SessionId) (reason : CloseReason) :
    (srv.close id reason).2.notifiesDispatcher = srv.notifiesDispatcher := by
  rcases exists_close_eq srv id reason with ⟨_, _, _, heq⟩
  rw [heq]

theorem lifecycle_close (srv : Server) (id : SessionId) (reason : CloseReason) :
    (srv.close id reason).2.lifecycle = srv.lifecycle := by
  rcases exists_close_eq srv id reason with ⟨_, _, _, heq⟩
  rw [heq]

theorem history_close (srv : Server) (id : SessionId) (reason : CloseReason) :
    (srv.close id reason).2.history = srv.history ∨
      (srv.close id reason).2.history = .closed id reason :: srv.history := by
  unfold close
  split
  · exact .inl rfl
  · dsimp only
    split
    · exact .inr history_reportClosed
    · exact .inl rfl

theorem history_close_suffix (srv : Server) (id : SessionId) (reason : CloseReason) :
    srv.history <:+ (srv.close id reason).2.history := by
  rcases history_close srv id reason with same | grown
  · simp only [same, List.suffix_rfl]
  · simp only [grown, List.suffix_cons]

theorem closeAll_eq_foldl (srv : Server) (reason : CloseReason) :
    (srv.closeAll reason).2 =
      (srv.roster.registeredWhere fun _ => true).foldl (fun srv id => (srv.close id reason).2) srv := by
  unfold closeAll closeEach
  exact (List.foldl_hom Prod.snd fun _ _ => rfl).symm

/-- What closing one session keeps, closing all of them keeps. -/
theorem closeAll_preserves {P : Server → Prop} {srv : Server} {reason : CloseReason}
    (close : ∀ srv id, P srv → P (srv.close id reason).2) (h : P srv) :
    P (srv.closeAll reason).2 := by
  rw [closeAll_eq_foldl]
  exact List.foldlRecOn _ _ h fun later before id _ => close later id before

end Server

end SessionNet
