import SessionNet.Proofs.Session.Departure
import SessionNet.Proofs.Session.Writing

/-!
# Uses that close no session

Activating a session, queueing and writing its packets, associating it and attaching transports to
it take nothing from it: its slot stays, and so does every entry that leads to it, and none of its
transports is shut. A session that is closed stays closed and has nothing to write, and its
transports stay shut, whatever is done with it.
-/

namespace SessionNet

namespace Session

/-- A session that was closed for a reason and has nothing left to write. -/
structure Ended (s : Session) (reason : CloseReason) : Prop where
  inactive : s.isActive = false
  closeReason : s.closeReason? = some reason
  queue : s.queue.packets = []
  pending : s.pending? = none

/-- What no use of a session changes, unless it closes the session; one that is closed stays so. -/
structure Steady (s t : Session) : Prop where
  closeReason : t.closeReason? = s.closeReason?
  managed : t.isManaged = s.isManaged
  slot : t.slot? = s.slot?
  /-- The primary transport, once attached, is shut if it was and only then. -/
  transport : ∀ shut, s.transport.shut? = some shut → t.transport.shut? = some shut
  tunnel : ∀ shut, s.tunnelShut? = some shut → t.tunnelShut? = some shut
  ended : ∀ reason, s.Ended reason → t.Ended reason ∧ t.counters = s.counters

namespace Steady

variable {s t u : Session}

theorem refl (s : Session) : s.Steady s :=
  ⟨rfl, rfl, rfl, fun _ h => h, fun _ h => h, fun _ ended => ⟨ended, rfl⟩⟩

theorem trans (first : s.Steady t) (second : t.Steady u) : s.Steady u where
  closeReason := second.closeReason.trans first.closeReason
  managed := second.managed.trans first.managed
  slot := second.slot.trans first.slot
  transport shut own := second.transport shut (first.transport shut own)
  tunnel shut own := second.tunnel shut (first.tunnel shut own)
  ended reason ended := by
    rcases first.ended reason ended with ⟨ended', counted⟩
    rcases second.ended reason ended' with ⟨ended'', counted'⟩
    exact ⟨ended'', counted'.trans counted⟩

/-- A transport put where there was none. -/
theorem place (s : Session) {transport : Transport} {datagram? : Option DatagramChannel}
    {tunnel? : Option TunnelChannel}
    (primary : s.transport = .detached ∨ transport = s.transport)
    (secondary : s.tunnel? = none ∨ tunnel? = s.tunnel?) :
    s.Steady { s with transport, datagram?, tunnel? } := by
  refine ⟨rfl, rfl, rfl, ?_, ?_, fun _ ended =>
    ⟨⟨ended.inactive, ended.closeReason, ended.queue, ended.pending⟩, rfl⟩⟩
  · rintro shut own
    rcases primary with free | rfl
    · rw [free] at own
      cases own
    · exact own
  · rintro shut own
    rcases secondary with free | rfl
    · rw [tunnelShut?, free] at own
      cases own
    · exact own

/-- A change to the association or to the marks for the writer. -/
theorem mark (s : Session) {association : AssociationState} {identity? : Option String}
    {writeScheduled awaitsWritable : Bool} :
    s.Steady { s with association, identity?, writeScheduled, awaitsWritable } :=
  ⟨rfl, rfl, rfl, fun _ h => h, fun _ h => h, fun _ ended =>
    ⟨⟨ended.inactive, ended.closeReason, ended.queue, ended.pending⟩, rfl⟩⟩

end Steady

theorem steady_activate (s : Session) : s.Steady s.activate := by
  unfold activate
  split
  · rename_i unclosed
    refine ⟨rfl, rfl, rfl, fun _ h => h, fun _ h => h, ?_⟩
    -- the one operation that could bring a session back asks for its reason first
    intro reason ended
    simp [ended.closeReason] at unclosed
  · exact .refl s

theorem steady_deactivate (s : Session) : s.Steady s.deactivate.2 :=
  ⟨rfl, rfl, rfl, fun _ h => h, fun _ h => h, fun _ ended =>
    ⟨⟨rfl, ended.closeReason, ended.queue, ended.pending⟩, rfl⟩⟩

theorem enqueue_of_ended {s : Session} {reason : CloseReason} (ended : s.Ended reason)
    (packet : Packet) : s.enqueue packet = (s, .error (.illegalState .sessionInactive)) := by
  simp [enqueue, ended.inactive]

theorem steady_enqueue (s : Session) (packet : Packet) : s.Steady (s.enqueue packet).1 := by
  have kept : ∃ queue counters, (s.enqueue packet).1 = { s with queue, counters } := by
    unfold enqueue
    split
    · exact ⟨_, _, rfl⟩
    · split <;> exact ⟨_, _, rfl⟩
  have ended : ∀ reason, s.Ended reason →
      (s.enqueue packet).1.Ended reason ∧ (s.enqueue packet).1.counters = s.counters := by
    intro reason ended
    rw [enqueue_of_ended ended]
    exact ⟨ended, rfl⟩
  rcases kept with ⟨queue, counters, kept⟩
  rw [kept] at ended ⊢
  exact ⟨rfl, rfl, rfl, fun _ h => h, fun _ h => h, ended⟩

theorem steady_transition (s : Session) (source target : AssociationState) :
    s.Steady (s.transition source target).2 := by
  unfold transition
  split
  · exact .mark s
  · exact .refl s

theorem steady_bind (s : Session) (identity : String) :
    s.Steady (({ s with identity? := some identity } : Session).transition .doing .done).2 := by
  have named : s.Steady { s with identity? := some identity } := .mark s
  exact named.trans (steady_transition _ .doing .done)

theorem steady_attach {s t : Session} {transport : Transport} (attached : s.attach transport = .ok t) :
    s.Steady t := by
  unfold attach at attached
  split at attached <;> cases attached
  rename_i unknown
  have free : s.transport = .detached := by
    cases own : s.transport with
    | detached => rfl
    | socket | webSocket => simp [own, Transport.kind] at unknown
  exact .place s (.inl free) (.inr rfl)

theorem steady_attachSocket {s t : Session} {stream : Stream}
    (attached : s.attachSocket stream = .ok t) : s.Steady t := by
  unfold attachSocket at attached
  split at attached
  · exact steady_attach attached
  · cases attached

theorem steady_writePass (s : Session) (budget : Nat) (supply : Supply) :
    s.Steady (s.writePass budget supply).session := by
  have served := served_writePass s budget supply
  have slot : (s.writePass budget supply).session.slot? = s.slot? := by
    simp only [slot?, served.holdsSlot, served.remote]
  refine ⟨congrArg Standing.closeReason? served.standing, congrArg Standing.isManaged served.standing,
    slot, fun _ own => served.shut.trans own, fun _ own => served.tunnelShut.trans own, ?_⟩
  intro reason ended
  -- what is closed has nothing to write, so the pass ends before it begins
  rw [writePass_of_empty ended.queue ended.pending]
  exact ⟨ended, rfl⟩

end Session

namespace Roster

variable {r r' r'' : Roster} {id : SessionId}

/-- A roster in which nothing was taken from a session that is not closed. -/
structure Steady (id : SessionId) (r r' : Roster) : Prop where
  session : Option.Rel Session.Steady (r.session? id) (r'.session? id)
  filter : r'.filter = r.filter
  registered : r'.registered = r.registered
  conveyance : ∀ key, r.findConveyance? key = some id → r'.findConveyance? key = some id
  tunnel : ∀ key, r.findTunnel? key = some id → r'.findTunnel? key = some id
  identity : ∀ name, r.findIdentity? name = some id → r'.findIdentity? name = some id

namespace Steady

theorem refl (r : Roster) : r.Steady id r :=
  ⟨rel_refl Session.Steady.refl _, rfl, rfl, fun _ h => h, fun _ h => h, fun _ h => h⟩

theorem trans (first : r.Steady id r') (second : r'.Steady id r'') : r.Steady id r'' where
  session := rel_trans (fun _ _ _ => .trans) first.session second.session
  filter := second.filter.trans first.filter
  registered := second.registered.trans first.registered
  conveyance key found := second.conveyance key (first.conveyance key found)
  tunnel key found := second.tunnel key (first.tunnel key found)
  identity name found := second.identity name (first.identity name found)

end Steady

theorem steady_update {f : Session → Session}
    (steady : ∀ s : Session, r.session? id = some s → s.Steady (f s)) :
    r.Steady id (r.update id f) := by
  refine ⟨?_, rfl, rfl, fun _ h => h, fun _ h => h, fun _ h => h⟩
  rw [session?_update_self]
  exact rel_map steady

theorem steady_bind (r : Roster) (identity : String) (id : SessionId) :
    r.Steady id (r.bind identity id) := by
  refine ⟨?_, ?_, registered_bind, ?_, ?_, ?_⟩
  · rw [session?_bind_self]
    exact rel_map fun s _ => s.steady_bind identity
  · rw [bind_eq]
    rfl
  · rw [bind_eq]
    exact fun _ found => found
  · rw [bind_eq]
    exact fun _ found => found
  · intro name found
    by_cases same : name = identity
    · rw [same, findIdentity?_bind_self]
    · rwa [findIdentity?_bind_of_ne same]

/-- The number of bound identities concerns no session. -/
theorem steady_count (r : Roster) (count : Nat) :
    r.Steady id { r with boundIdentities := count } :=
  ⟨rel_refl Session.Steady.refl _, rfl, rfl, fun _ h => h, fun _ h => h, fun _ h => h⟩

theorem steady_transition (r : Roster) (source target : AssociationState) :
    r.Steady id (r.transition id source target).2 := by
  rw [transition_eq_update]
  exact steady_update fun s _ => s.steady_transition source target

theorem steady_associate (r : Roster) (identity : String) (id : SessionId) :
    r.Steady id (r.associate identity id).2 :=
  associate_preserves (P := r.Steady id) (.refl r)
    (fun r' before => before.trans (r'.steady_bind identity id))
    (fun r' before => before.trans (r'.steady_transition .doing .none))
    fun r' count before => before.trans (r'.steady_count count)

theorem steady_rebind (r : Roster) (identity : String) (id : SessionId) :
    r.Steady id (r.rebind identity id).2 := by
  have bound := r.steady_bind identity id
  cases found : r.findIdentity? identity with
  | none =>
    rw [rebind_of_none found]
    exact (r.steady_count _).trans (steady_bind _ identity id)
  | some old =>
    by_cases same : old = id
    · subst same
      rwa [rebind_of_self found]
    · -- another session loses the identity
      rw [rebind_of_other found same]
      refine bound.trans ⟨?_, rfl, rfl, fun _ h => h, fun _ h => h, fun _ h => h⟩
      rw [session?_update_of_ne (Ne.symm same)]
      exact rel_refl Session.Steady.refl _

theorem steady_addDatagram {channel : DatagramChannel} (added : r.addDatagram id channel = .ok r') :
    r.Steady id r' := by
  rcases addDatagram_eq_ok added with ⟨_, _, _, _, rfl⟩
  have attached : r.Steady id (r.update id fun s => { s with datagram? := some channel }) :=
    steady_update fun s _ => .place s (.inr rfl) (.inr rfl)
  refine ⟨attached.session, rfl, rfl, ?_, fun _ h => h, fun _ h => h⟩
  intro key found
  by_cases same : key = channel.conveyance
  · subst same
    exact lookup_setEntry_self
  · exact (lookup_setEntry_of_ne same).trans found

theorem steady_addTunnel {channel : TunnelChannel} (added : r.addTunnel id channel = .ok r') :
    r.Steady id r' := by
  rcases addTunnel_eq_ok added with ⟨s, present, -, free, rfl⟩
  have attached : r.Steady id (r.update id fun s => { s with tunnel? := some channel }) := by
    refine steady_update fun t present' => .place t (.inr rfl) (.inl ?_)
    rwa [← Option.some.inj (present.symm.trans present')]
  refine ⟨attached.session, rfl, rfl, fun _ h => h, ?_, fun _ h => h⟩
  intro key found
  by_cases same : key = channel.id
  · subst same
    exact lookup_setEntry_self
  · exact (lookup_setEntry_of_ne same).trans found

end Roster

end SessionNet
