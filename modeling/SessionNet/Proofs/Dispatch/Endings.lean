import SessionNet.Proofs.Dispatch.Notices
import SessionNet.Proofs.Dispatch.Orderly

/-!
# Counting the ends of a session

The end of a session is a notice that waits on its shard, then a notice in hand, and then an event.
While the session is open there is none of these, and once it is closed there is one, and only one,
unless the dispatcher was stopped before. Closing makes it, and nothing else does.
-/

namespace SessionNet

/-- A session that is there and no longer open. -/
def Roster.IsClosed (r : Roster) (id : SessionId) : Prop :=
  ∃ s, r.session? id = some s ∧ s.isActive = false

theorem Roster.isClosed_iff {r : Roster} {id : SessionId} :
    r.IsClosed id ↔ (r.standing? id).isSome = true ∧ r.isActive id = false := by
  cases hs : r.session? id <;> simp [IsClosed, standing?, isActive, hs]

/-- A message request is made only for an associated session. -/
def Request.Fair (request : Request) (r : Roster) (id : SessionId) : Prop :=
  request.sender = .session id → ∀ message, request.kind = .sessionMessage message →
    r.association? id = some .done

namespace Server

/-- The request in hand: it is, until something has come of it. -/
def Stage.hand? (request : Request) : Stage → Option Request
  | .ready => some request
  | _ => none

/-! ## Sessions and shards -/

/-- What the counting of notices relies on. -/
structure Routed (srv : Server) : Prop where
  managed : ∀ id t, srv.roster.standing? id = some t → t.isManaged = true
  notifies : srv.notifiesDispatcher = true
  nonempty : 0 < srv.dispatcher.shards.length
  placed : srv.dispatcher.Placed

namespace Routed

variable {srv srv' : Server} {id old : SessionId} {identity : String}
variable {mayClose : ServerEvent → SessionId → Prop} {request : Request}

theorem of_kept (routed : Routed srv) (kept : Kept srv srv') (placed : srv'.dispatcher.Placed) :
    Routed srv' := by
  refine ⟨?_, kept.notifies.trans routed.notifies, ?_, placed⟩
  · intro id t' ht'
    rcases kept.standing_before ht' with ⟨t, ht, rel⟩
    rw [rel.managed]
    exact routed.managed id t ht
  · rw [kept.shards]
    exact routed.nonempty

theorem isManaged (routed : Routed srv) {s : Session} (hs : srv.session? id = some s) :
    s.isManaged = true :=
  routed.managed id s.standing (congrArg (Option.map _) hs)

theorem sameStanding (routed : Routed srv) (same : SameStanding srv srv') : Routed srv' := by
  refine routed.of_kept (.of_sameStanding same) ?_
  rw [same.dispatcher]
  exact routed.placed

theorem close (routed : Routed srv) (reason : CloseReason) : Routed (srv.close id reason).2 := by
  cases hactive : srv.roster.isActive id with
  | false => rwa [close_of_not_active hactive]
  | true =>
    rcases Roster.isActive_eq_true_iff.mp hactive with ⟨s, hs, active⟩
    exact routed.of_kept (.close srv id reason)
      (placed_close routed.placed routed.notifies hs active (routed.isManaged hs))

theorem emits {event : ServerEvent} (routed : Routed srv) (emits : Emits mayClose event srv srv') :
    Routed srv' := by
  rcases emits with ⟨delivered, drift⟩
  have recorded : Routed (srv.record (.event event delivered)) := { routed with }
  refine drift.preserves (P := Routed) ?_ ?_ recorded
  · intro srv id reason _ h
    exact h.close reason
  · intro srv srv' same h
    exact h.sameStanding same

theorem takeOver (routed : Routed srv) (live : srv.liveHolder? identity id = some old) :
    Routed (srv.takeOver identity id) := by
  refine routed.of_kept (.takeOver live) ?_
  rcases session?_moved live with ⟨s, hs, active, disowned⟩
  rw [takeOver_eq live]
  have placed : (srv.moved identity id old).dispatcher.Placed := routed.placed
  have managed : s.isManaged = true := routed.isManaged hs
  exact placed_close placed routed.notifies disowned active managed

theorem step {a b : Stage × Server} (step : Step mayClose request a b) (routed : Routed a.2) :
    Routed b.2 := by
  cases step with
  | skip => exact routed
  | aside same => exact routed.sameStanding same
  | remark _ emits => exact routed.emits emits
  | deliver _ _ _ _ emits => exact routed.emits emits
  | report _ emits => exact routed.emits emits
  | begin => exact routed.of_kept (.transition _ _ (.inl (by decide))) routed.placed
  | ask _ _ emits => exact routed.emits emits
  | takeOver live => exact routed.takeOver live
  | associate => exact routed.of_kept (.associate _ _ _) routed.placed
  | already _ emits =>
    exact (routed.of_kept (.transition _ _ (.inr rfl)) routed.placed).emits emits
  | refuse _ emits =>
    exact (routed.of_kept (.transition _ _ (.inl (by decide))) routed.placed).emits emits
  | announce _ _ emits => exact routed.emits emits
  | fallBack => exact routed.of_kept (.transition _ _ (.inl (by decide))) routed.placed
  | close => exact routed.close _

end Routed

/-! ## Counting ends -/

/-- The ends of a session that are on their way or were reported. -/
def endings (srv : Server) (id : SessionId) (hand? : Option Request) (p : Progress) : Nat :=
  srv.dispatcher.notices id + (if hand?.bind Request.ends? = some id then 1 else 0) +
    if p = .ended then 1 else 0

/--
An open session has no end, and a closed one has at most one; it has one if the dispatcher still
accepts, or if the one is owed, that is, was accepted before.
-/
structure Counted (owed : Prop) (id : SessionId) (hand? : Option Request) (srv : Server)
    (p : Progress) : Prop where
  fair : ∀ request, request ∈ srv.dispatcher.waiting id ∨ hand? = some request →
    request.Fair srv.roster id
  once : srv.endings id hand? p ≤ 1
  closed : 0 < srv.endings id hand? p → srv.roster.IsClosed id
  reported : srv.dispatcher.phase ≠ .stopped → srv.roster.IsClosed id →
    srv.endings id hand? p = 1
  owed : owed → srv.roster.IsClosed id ∧ srv.endings id hand? p = 1

namespace Counted

variable {owed : Prop} {id : SessionId} {hand? hand?' : Option Request} {srv srv' : Server}
variable {p : Progress} {request : Request}

theorem endings_of_active (counted : Counted owed id hand? srv p)
    (active : srv.roster.isActive id = true) : srv.endings id hand? p = 0 := by
  have notClosed : ¬ srv.roster.IsClosed id := by
    rw [Roster.isClosed_iff, active]
    simp
  rcases Nat.eq_zero_or_pos (srv.endings id hand? p) with none | some
  · exact none
  · exact absurd (counted.closed some) notClosed

/-- Only the queue of the session counts, whether it is open, and what is in hand. -/
theorem of_views (counted : Counted owed id hand? srv p) (kept : Kept srv srv')
    (hactive : srv'.roster.isActive id = srv.roster.isActive id)
    (hwaiting : ∀ request ∈ srv'.dispatcher.waiting id,
      request ∈ srv.dispatcher.waiting id ∨ request.Fair srv.roster id)
    (hnotices : srv'.dispatcher.notices id = srv.dispatcher.notices id)
    (hhand : hand?' = hand? ∨ hand?' = none ∧ hand?.bind Request.ends? ≠ some id) :
    Counted owed id hand?' srv' p := by
  have hclosed : srv'.roster.IsClosed id ↔ srv.roster.IsClosed id := by
    rw [Roster.isClosed_iff, Roster.isClosed_iff, kept.isSome_standing, hactive]
  -- what is in hand may only go if it was not the end of this session
  have hendings : srv'.endings id hand?' p = srv.endings id hand? p := by
    rcases hhand with rfl | ⟨rfl, silent⟩
    · simp only [endings, hnotices]
    · simp [endings, hnotices, silent]
  have hfair : ∀ request : Request, request.Fair srv.roster id → request.Fair srv'.roster id := by
    intro request fair sender message kind
    exact kept.done (fair sender message kind)
  refine ⟨?_, ?_, ?_, ?_, ?_⟩
  · rintro request (waits | here)
    · rcases hwaiting request waits with before | fair
      · exact hfair request (counted.fair request (.inl before))
      · exact hfair request fair
    · rcases hhand with rfl | ⟨rfl, -⟩
      · exact hfair request (counted.fair request (.inr here))
      · cases here
  · rw [hendings]
    exact counted.once
  · rw [hendings, hclosed]
    exact counted.closed
  · rw [hendings, hclosed, kept.phase]
    exact counted.reported
  · rw [hendings, hclosed]
    exact counted.owed

/-- A change of the roster alone that opens and closes nothing. -/
theorem of_roster {r : Roster} (counted : Counted owed id hand? srv p)
    (kept : Kept srv { srv with roster := r }) (hactive : r.isActive id = srv.roster.isActive id) :
    Counted owed id hand? { srv with roster := r } p :=
  counted.of_views kept hactive (fun _ => .inl) rfl (.inl rfl)

theorem sameStanding (counted : Counted owed id hand? srv p) (same : SameStanding srv srv') :
    Counted owed id hand? srv' p := by
  refine counted.of_views (.of_sameStanding same) (same.isActive id) ?_ ?_ (.inl rfl)
  · rw [same.dispatcher]
    exact fun _ => .inl
  · rw [same.dispatcher]

/-- The end of a session is on its way as soon as the session is closed. -/
theorem close_self {s : Session} (counted : Counted owed id hand? srv p) (routed : Routed srv)
    (hs : srv.session? id = some s) (active : s.isActive = true) (reason : CloseReason) :
    Counted owed id hand? (srv.close id reason).2 p := by
  have managed := routed.isManaged hs
  have isActive : srv.roster.isActive id = true := Roster.isActive_eq_true_iff.mpr ⟨s, hs, active⟩
  -- nothing was on its way for an open session, so the notice is the only one
  have none := counted.endings_of_active isActive
  have kept : Kept srv (srv.close id reason).2 := .close srv id reason
  have isClosed : (srv.close id reason).2.roster.IsClosed id := by
    have before : srv.roster.session? id = some s := hs
    refine ⟨s.tearDown reason, ?_, rfl⟩
    rw [roster_close, Roster.session?_close_self, before]
    simp [active]
  have endings : (srv.close id reason).2.endings id hand? p =
      if srv.dispatcher.phase ≠ .stopped then 1 else 0 := by
    have noticed : (srv.close id reason).2.dispatcher.notices id =
        srv.dispatcher.notices id + if srv.dispatcher.phase ≠ .stopped then 1 else 0 := by
      simpa using notices_close id routed.nonempty routed.notifies hs active managed
    rw [Server.endings] at none ⊢
    rw [noticed]
    omega
  refine ⟨?_, ?_, fun _ => isClosed, ?_, ?_⟩
  · rintro request (waits | here)
    · rcases mem_waiting_close routed.nonempty routed.notifies hs active managed waits with
        before | notice
      · intro sender message kind
        exact kept.done (counted.fair request (.inl before) sender message kind)
      · intro _ message kind
        rw [notice] at kind
        cases kind
    · intro sender message kind
      exact kept.done (counted.fair request (.inr here) sender message kind)
  · rw [endings]
    split <;> omega
  · intro accepting _
    rw [kept.phase] at accepting
    rw [endings, if_pos accepting]
  · -- an end that is owed already would be that of a closed session
    intro isOwed
    have closed := Roster.isClosed_iff.mp (counted.owed isOwed).1
    rw [isActive] at closed
    cases closed.2

theorem close (counted : Counted owed id hand? srv p) (routed : Routed srv) (other : SessionId)
    (reason : CloseReason) : Counted owed id hand? (srv.close other reason).2 p := by
  cases hactive : srv.roster.isActive other with
  | false => rwa [close_of_not_active hactive]
  | true =>
    rcases Roster.isActive_eq_true_iff.mp hactive with ⟨s, hs, active⟩
    by_cases same : other = id
    · subst same
      exact counted.close_self routed hs active reason
    · have managed := routed.isManaged hs
      refine counted.of_views (.close srv other reason) ?_ ?_ ?_ (.inl rfl)
      · rw [roster_close, Roster.isActive_close]
        simp [Ne.symm same]
      · intro request member
        rcases mem_waiting_close routed.nonempty routed.notifies hs active managed member with
          before | notice
        · exact .inl before
        · -- the notice of the other session is no message
          refine .inr ?_
          intro _ message kind
          rw [notice] at kind
          cases kind
      · rw [notices_close id routed.nonempty routed.notifies hs active managed]
        simp [Ne.symm same]

/-- A takeover closes the old holder last, after the identity has moved. -/
theorem takeOver {taker old : SessionId} {identity : String}
    (counted : Counted owed id hand? srv p) (routed : Routed srv)
    (live : srv.liveHolder? identity taker = some old) :
    Counted owed id hand? (srv.takeOver identity taker) p := by
  have kept : Kept srv (srv.moved identity taker old) := .moved srv identity taker old
  have moved : Counted owed id hand? (srv.moved identity taker old) p := by
    refine counted.of_roster kept ?_
    rw [Roster.isActive_disown, Roster.isActive_bind]
  rw [takeOver_eq live]
  exact moved.close (routed.of_kept kept routed.placed) old .reconnected

end Counted

end Server

end SessionNet
