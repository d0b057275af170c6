import SessionNet.Proofs.Session.Steady

/-!
# The register and the slots of a roster

Every session is active and was never closed, or it is closed for good, has nothing left to write
and holds no slot. The register lists the active ones, and the filter counts the slots that are
held. Whatever is done with a session, as long as it is not closed, changes none of this; closing
one and opening one change all three together.
-/

namespace SessionNet

namespace Session

/-- A session that was used or counted something, and was neither opened nor closed. -/
structure Continues (s t : Session) : Prop where
  active : t.isActive = s.isActive
  closeReason : t.closeReason? = s.closeReason?
  managed : t.isManaged = s.isManaged
  slot : t.slot? = s.slot?
  ended : ∀ reason, s.Ended reason → t.Ended reason

/-- A managed session that is active and was never closed, or that was closed for good. -/
structure Intact (s : Session) : Prop where
  managed : s.isManaged = true
  life : s.isActive = true ∧ s.closeReason? = none ∨ ∃ reason, s.Ended reason ∧ s.slot? = none

/-- A session for a connection from an address, as it was made. -/
structure Opened (ip : IpAddress) (s : Session) : Prop where
  managed : s.isManaged = true
  active : s.isActive = true
  unclosed : s.closeReason? = none
  slot : s.slot? = some ip

variable {s t u : Session} {reason : CloseReason}

namespace Continues

theorem of_steady (steady : s.Steady t) (active : t.isActive = s.isActive) : s.Continues t :=
  ⟨active, steady.closeReason, steady.managed, steady.slot,
    fun reason ended => (steady.ended reason ended).1⟩

/-- A change to anything that neither opening nor closing is about. -/
theorem of_same (active : t.isActive = s.isActive) (closeReason : t.closeReason? = s.closeReason?)
    (managed : t.isManaged = s.isManaged) (slot : t.slot? = s.slot?) (queue : t.queue = s.queue)
    (pending : t.pending? = s.pending?) : s.Continues t where
  active := active
  closeReason := closeReason
  managed := managed
  slot := slot
  ended _ ended := ⟨active.trans ended.inactive, closeReason.trans ended.closeReason,
    (congrArg PacketQueue.packets queue).trans ended.queue, pending.trans ended.pending⟩

theorem refl (s : Session) : s.Continues s := .of_same rfl rfl rfl rfl rfl rfl

theorem trans (first : s.Continues t) (second : t.Continues u) : s.Continues u where
  active := second.active.trans first.active
  closeReason := second.closeReason.trans first.closeReason
  managed := second.managed.trans first.managed
  slot := second.slot.trans first.slot
  ended reason ended := second.ended reason (first.ended reason ended)

theorem transition (s : Session) (source target : AssociationState) :
    s.Continues (s.transition source target).2 := by
  refine .of_steady (s.steady_transition source target) ?_
  unfold Session.transition
  split <;> rfl

theorem enqueue (s : Session) (packet : Packet) : s.Continues (s.enqueue packet).1 := by
  refine .of_steady (s.steady_enqueue packet) ?_
  unfold Session.enqueue
  split
  · rfl
  · split <;> rfl

theorem writePass (s : Session) (budget : Nat) (supply : Supply) :
    s.Continues (s.writePass budget supply).session :=
  .of_steady (s.steady_writePass budget supply)
    (congrArg Standing.isActive (served_writePass s budget supply).standing)

end Continues

theorem Intact.unclosed (intact : s.Intact) (active : s.isActive = true) :
    s.closeReason? = none := by
  rcases intact.life with ⟨-, unclosed⟩ | ⟨reason, ended, -⟩
  · exact unclosed
  · exact absurd (ended.inactive.symm.trans active) Bool.false_ne_true

theorem Intact.ended (intact : s.Intact) (closed : s.isActive = false) :
    ∃ reason, s.Ended reason ∧ s.slot? = none := by
  rcases intact.life with ⟨active, -⟩ | ended
  · exact absurd (closed.symm.trans active) Bool.false_ne_true
  · exact ended

theorem Intact.continues (intact : s.Intact) (continues : s.Continues t) : t.Intact := by
  refine ⟨continues.managed.trans intact.managed, ?_⟩
  rcases intact.life with ⟨active, unclosed⟩ | ⟨reason, ended, free⟩
  · exact .inl ⟨continues.active.trans active, continues.closeReason.trans unclosed⟩
  · exact .inr ⟨reason, continues.ended reason ended, continues.slot.trans free⟩

theorem Intact.tearDown (intact : s.Intact) (active : s.isActive = true) (reason : CloseReason) :
    (s.tearDown reason).Intact := by
  have torn := tornDown_tearDown (intact.unclosed active) reason
  exact ⟨intact.managed,
    .inr ⟨reason, ⟨torn.inactive, torn.closeReason, torn.queue, torn.pending⟩, torn.slot⟩⟩

end Session

namespace Roster

variable {r r' r'' : Roster} {id other : SessionId} {identity : String} {f : Session → Session}

/-! ## Rosters whose sessions are used -/

/-- Nothing is opened or closed, and no slot is taken or given back. -/
structure Continues (r r' : Roster) : Prop where
  sessions : ∀ id, Option.Rel Session.Continues (r.session? id) (r'.session? id)
  registered : r'.registered = r.registered
  filter : r'.filter = r.filter

namespace Continues

theorem refl (r : Roster) : r.Continues r := ⟨fun _ => rel_refl .refl _, rfl, rfl⟩

theorem trans (first : r.Continues r') (second : r'.Continues r'') : r.Continues r'' where
  sessions id := rel_trans (fun _ _ _ => .trans) (first.sessions id) (second.sessions id)
  registered := second.registered.trans first.registered
  filter := second.filter.trans first.filter

theorem update_of_session (r : Roster) (id : SessionId)
    (continues : ∀ s, r.session? id = some s → s.Continues (f s)) : r.Continues (r.update id f) := by
  refine ⟨?_, rfl, rfl⟩
  intro other
  by_cases same : other = id
  · subst same
    rw [session?_update_self]
    cases hs : r.session? other with
    | none => exact .none
    | some s => exact .some (continues s hs)
  · rw [session?_update_of_ne same]
    exact rel_refl .refl _

theorem update (r : Roster) (id : SessionId) (continues : ∀ s : Session, s.Continues (f s)) :
    r.Continues (r.update id f) :=
  update_of_session r id fun s _ => continues s

theorem transition (r : Roster) (id : SessionId) (source target : AssociationState) :
    r.Continues (r.transition id source target).2 := by
  rw [transition_eq_update]
  exact update r id fun s => .transition s source target

theorem bind (r : Roster) (identity : String) (id : SessionId) :
    r.Continues (r.bind identity id) := by
  have named : ∀ s : Session, s.Continues { s with identity? := some identity } :=
    fun _ => .of_same rfl rfl rfl rfl rfl rfl
  have entered : r.Continues { r with byIdentity := setEntry r.byIdentity identity id } :=
    ⟨fun _ => rel_refl .refl _, rfl, rfl⟩
  rw [bind_eq]
  exact entered.trans ((update _ id named).trans (update _ id fun s => .transition s .doing .done))

theorem associate (r : Roster) (identity : String) (id : SessionId) :
    r.Continues (r.associate identity id).2 :=
  associate_preserves (P := r.Continues) (.refl r)
    (fun r' before => before.trans (bind r' identity id))
    (fun r' before => before.trans (transition r' id .doing .none))
    fun _ _ before => ⟨before.sessions, before.registered, before.filter⟩

theorem addDatagram {channel : DatagramChannel} (added : r.addDatagram id channel = .ok r') :
    r.Continues r' := by
  rcases addDatagram_eq_ok added with ⟨_, -, -, -, rfl⟩
  have attached : r.Continues (r.update id fun s => { s with datagram? := some channel }) :=
    update r id fun _ => .of_same rfl rfl rfl rfl rfl rfl
  exact ⟨attached.sessions, rfl, rfl⟩

/-! ### Reading the relation -/

theorem before (continues : r.Continues r') {t : Session} (ht : r'.session? id = some t) :
    ∃ s, r.session? id = some s ∧ s.Continues t := by
  have related := continues.sessions id
  rw [ht] at related
  cases hs : r.session? id with
  | none => simp [hs] at related
  | some s =>
    rw [hs] at related
    cases related with
    | some here => exact ⟨s, rfl, here⟩

/-- What is read off a session and stays while it is used. -/
theorem elim_session? {α : Type} {read : Session → α} {absent : α} (continues : r.Continues r')
    (stays : ∀ s t : Session, s.Continues t → read t = read s) (id : SessionId) :
    (r'.session? id).elim absent read = (r.session? id).elim absent read := by
  have related := continues.sessions id
  generalize r.session? id = before at related ⊢
  generalize r'.session? id = after at related ⊢
  cases related with
  | none => rfl
  | some here => exact stays _ _ here

theorem isActive (continues : r.Continues r') (id : SessionId) :
    r'.isActive id = r.isActive id := by
  have read : ∀ r : Roster, r.isActive id = (r.session? id).elim false (·.isActive) := by
    intro r
    unfold Roster.isActive
    cases r.session? id <;> rfl
  rw [read, read, continues.elim_session? fun _ _ here => here.active]

theorem slots (continues : r.Continues r') :
    r'.sessions.map Session.slot? = r.sessions.map Session.slot? := by
  have read : ∀ (r : Roster) (id : SessionId), (r.sessions.map Session.slot?)[id]? =
      (r.session? id).elim none fun s => some s.slot? := by
    intro r id
    rw [List.getElem?_map, session?]
    cases r.sessions[id]? <;> rfl
  apply List.ext_getElem?
  intro id
  rw [read, read, continues.elim_session? fun _ _ here => congrArg some here.slot]

theorem length (continues : r.Continues r') : r'.sessions.length = r.sessions.length := by
  have same := congrArg List.length continues.slots
  rwa [List.length_map, List.length_map] at same

end Continues

/-! ## Accounts -/

/-- Every session is intact, the active ones are registered, and the slots held are counted. -/
structure Accounts (r : Roster) : Prop where
  intact : ∀ id s, r.session? id = some s → s.Intact
  registered : ∀ id, id ∈ r.registered ↔ r.isActive id = true
  slots : ∀ ip, r.filter.connectionsFrom ip = (r.sessions.map Session.slot?).count (some ip)

namespace Accounts

theorem continues (accounts : r.Accounts) (continues : r.Continues r') : r'.Accounts where
  intact id t ht := by
    rcases continues.before ht with ⟨s, hs, here⟩
    exact (accounts.intact id s hs).continues here
  registered id := by
    rw [continues.registered, continues.isActive]
    exact accounts.registered id
  slots ip := by
    rw [continues.filter, continues.slots]
    exact accounts.slots ip

theorem of_inactive (accounts : r.Accounts) {s : Session} (hs : r.session? id = some s)
    (inactive : r.isActive id = false) : ∃ reason, s.Ended reason ∧ s.slot? = none := by
  have closed : s.isActive = false := by simpa [Roster.isActive, hs] using inactive
  exact (accounts.intact id s hs).ended closed

/-- A session that closes gives back the one slot it holds. -/
theorem slots_modify {sessions : List Session} {s : Session} (hs : sessions[id]? = some s)
    (reason : CloseReason) (ip : IpAddress) :
    ((sessions.modify id fun s => s.tearDown reason).map Session.slot?).count (some ip) =
      (sessions.map Session.slot?).count (some ip) - if s.slot? = some ip then 1 else 0 := by
  have inside : id < sessions.length := (List.getElem?_eq_some_iff.mp hs).1
  have cleared : (sessions.modify id fun s => s.tearDown reason).map Session.slot? =
      (sessions.map Session.slot?).set id none := by
    apply List.ext_getElem?
    intro other
    rw [List.getElem?_map, List.getElem?_modify, List.getElem?_set]
    by_cases same : id = other
    · subst same
      simp [inside, Session.slot?, Session.tearDown]
    · simp [same]
  have within : id < (sessions.map Session.slot?).length := by simpa using inside
  have held : (sessions.map Session.slot?)[id] = s.slot? := by
    rw [List.getElem_map, (List.getElem?_eq_some_iff.mp hs).2]
  rw [cleared, List.count_set within, held]
  simp

theorem close (accounts : r.Accounts) (id : SessionId) (reason : CloseReason) :
    (r.close id reason).2.Accounts := by
  cases hactive : r.isActive id with
  | false => rwa [close_of_not_active hactive]
  | true =>
    rcases isActive_eq_true_iff.mp hactive with ⟨s, hs, active⟩
    have intact := accounts.intact id s hs
    refine ⟨?_, ?_, ?_⟩
    · intro other t ht
      by_cases same : other = id
      · subst same
        rw [session?_close_self, hs] at ht
        simp only [Option.map_some, active, if_true, Option.some.injEq] at ht
        exact ht ▸ intact.tearDown active reason
      · rw [session?_close_of_ne same] at ht
        exact accounts.intact other t ht
    · intro other
      rw [(close_of_managed reason hs active intact.managed).1, isActive_close, List.mem_filter,
        accounts.registered]
      simp [and_comm]
    · intro ip
      rw [(departed_close reason hs active intact.managed).slots, accounts.slots,
        sessions_close hs active, slots_modify hs]

/-- A new session takes a slot of its address and is registered. -/
theorem opening (accounts : r.Accounts) {ip : IpAddress} {s : Session} (fresh : s.Opened ip)
    (reserved : r.filter.reserve ip = .ok r'.filter) (sessions : r'.sessions = r.sessions ++ [s])
    (registered : r'.registered = r.sessions.length :: r.registered) : r'.Accounts := by
  have shown := session?_of_append sessions
  refine ⟨?_, ?_, ?_⟩
  · intro id t ht
    rw [shown] at ht
    split at ht
    · rcases Option.some.inj ht with rfl
      exact ⟨fresh.managed, .inl ⟨fresh.active, fresh.unclosed⟩⟩
    · exact accounts.intact id t ht
  · intro id
    rw [registered, List.mem_cons, accounts.registered]
    unfold Roster.isActive
    rw [shown]
    split
    · rename_i new
      simp [new, fresh.active]
    · rename_i old
      simp [old]
  · intro other
    rw [sessions, ConnectionFilter.connectionsFrom_reserve reserved, accounts.slots,
      List.map_append, List.count_append, List.map_singleton, fresh.slot, List.count_singleton]
    by_cases same : other = ip
    · simp [same]
    · simp [same, Ne.symm same]

end Accounts

end Roster

end SessionNet
