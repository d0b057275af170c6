import SessionNet.Proofs.Dispatch.Effects
import SessionNet.Proofs.Dispatch.EarlyRefusal
import SessionNet.Proofs.Dispatch.Trace

/-!
# Servers in lockstep

If what a handler does depends on the event alone, then the events about a session are decided by
the standings, the identity index and its cap: two servers that agree in these turn the same message
into the same events, and agree again. What they have counted, what waits on their shards and what
they told other sessions need not be the same.
-/

namespace SessionNet

/-! ## Handlers that depend on the event alone -/

namespace HandlerTable

variable {t : HandlerTable} {kind : EventKind}

/-- Handlers that respond to an event at all calls alike, and only close the session it is about. -/
def EventDriven (t : HandlerTable) : Prop :=
  ∀ entry ∈ t.entries, ∀ event, event.kind = entry.kind → ∀ calls,
    entry.handler calls event = entry.handler 0 event ∧
    ∀ action ∈ (entry.handler calls event).actions,
      ∃ id reason, action = .close id reason ∧ event.about? = some id

/-- What the handler of an event does and how it ends, if there is one. -/
def response? (t : HandlerTable) (event : ServerEvent) : Option Response :=
  (t.find? event.kind).map fun entry => entry.handler 0 event

theorem EventDriven.countCall (driven : t.EventDriven) : (t.countCall kind).EventDriven := by
  intro entry member event same calls
  obtain ⟨counted, hmember, hkind, handler⟩ := exists_of_mem_countCall member
  rw [← handler]
  exact driven counted hmember event (same.trans hkind.symm) calls

theorem EventDriven.confined (driven : t.EventDriven) :
    t.Confined fun event id => event.about? = some id := by
  intro entry member calls event same action performed
  obtain ⟨id, reason, rfl, about⟩ := (driven entry member event same calls).2 action performed
  exact about

theorem response?_countCall (event : ServerEvent) :
    (t.countCall kind).response? event = t.response? event := by
  unfold response?
  rw [find?_countCall, Option.map_map]
  cases t.find? event.kind with
  | none => rfl
  | some entry =>
    simp only [Option.map_some, Function.comp_apply]
    split <;> rfl

/-- A handler that is found responds as it would at its first call. -/
theorem EventDriven.response (driven : t.EventDriven) {event : ServerEvent} {entry : HandlerEntry}
    (found : t.find? event.kind = some entry) :
    t.response? event = some (entry.handler entry.calls event) ∧
      ∀ action ∈ (entry.handler entry.calls event).actions,
        ∃ id reason, action = .close id reason ∧ event.about? = some id := by
  obtain ⟨member, kind⟩ := kind_of_find? found
  obtain ⟨same, closes⟩ := driven entry member event kind.symm entry.calls
  refine ⟨?_, closes⟩
  rw [response?, found, Option.map_some, same]

end HandlerTable

/-! ## Standings that come to the same -/

/-- Two standings that differ at most in the attempt of a closed session. -/
structure Standing.Agrees (s t : Standing) : Prop where
  identity : s.identity? = t.identity?
  active : s.isActive = t.isActive
  managed : s.isManaged = t.isManaged
  association : s.isActive = true → s.association = t.association

namespace Standing.Agrees

variable {s t : Standing}

theorem refl (s : Standing) : s.Agrees s := ⟨rfl, rfl, rfl, fun _ => rfl⟩

theorem trans {u : Standing} (first : s.Agrees t) (second : t.Agrees u) : s.Agrees u where
  identity := first.identity.trans second.identity
  active := first.active.trans second.active
  managed := first.managed.trans second.managed
  association active :=
    (first.association active).trans (second.association (first.active ▸ active))

theorem transition (agrees : s.Agrees t) (source target : AssociationState) :
    (s.transition source target).Agrees (t.transition source target) := by
  obtain ⟨identity, active, -, managed⟩ := s.keeps_of_transition source target
  obtain ⟨identity', active', -, managed'⟩ := t.keeps_of_transition source target
  refine ⟨?_, ?_, ?_, ?_⟩
  · rw [identity, identity', agrees.identity]
  · rw [active, active', agrees.active]
  · rw [managed, managed', agrees.managed]
  · intro isActive
    have same := agrees.association (active ▸ isActive)
    unfold Standing.transition
    rw [same]
    split <;> first | rfl | exact same

/-- Nobody looks at the attempt of a closed session. -/
theorem of_inactive (inactive : s.isActive = false) (source target : AssociationState) :
    s.Agrees (s.transition source target) := by
  obtain ⟨identity, active, -, managed⟩ := s.keeps_of_transition source target
  exact ⟨identity.symm, active.symm, managed.symm, fun isActive =>
    absurd (inactive.symm.trans isActive) Bool.false_ne_true⟩

theorem disown (agrees : s.Agrees t) : s.disown.Agrees t.disown :=
  ⟨rfl, agrees.active, agrees.managed, agrees.association⟩

theorem bind (agrees : s.Agrees t) (identity : String) :
    (s.bind identity).Agrees (t.bind identity) := by
  have named : ({ s with identity? := some identity } : Standing).Agrees
      { t with identity? := some identity } :=
    ⟨rfl, agrees.active, agrees.managed, agrees.association⟩
  exact named.transition .doing .done

theorem close (agrees : s.Agrees t) (reason : CloseReason) :
    (s.close reason).Agrees (t.close reason) := by
  obtain ⟨-, identity, managed, closed⟩ := s.keeps_of_close reason
  obtain ⟨-, identity', managed', closed'⟩ := t.keeps_of_close reason
  refine ⟨?_, closed.trans closed'.symm, ?_, fun isActive => ?_⟩
  · rw [identity, identity', agrees.identity]
  · rw [managed, managed', agrees.managed]
  · exact absurd (closed.symm.trans isActive) Bool.false_ne_true

end Standing.Agrees

/-! ## Rosters that come to the same -/

namespace Roster

variable {r r' q q' : Roster} {id other : SessionId} {identity : String}

/-- The identity whose entry a session would give up if it were closed now. -/
def yields? (r : Roster) (id : SessionId) : Option String :=
  (r.standing? id).bind fun t => if t.isActive && t.isManaged then t.identity? else none

/-- Closing a session changes the identity index by the entry that it gives up. -/
theorem index_close (r : Roster) (id : SessionId) (reason : CloseReason) :
    (r.close id reason).2.byIdentity = ((r.yields? id).elim r (r.removeIdentity id)).byIdentity ∧
      (r.close id reason).2.boundIdentities =
        ((r.yields? id).elim r (r.removeIdentity id)).boundIdentities := by
  cases hactive : r.isActive id with
  | false =>
    have nothing : r.yields? id = none := by
      rw [isActive_eq_standing] at hactive
      unfold yields?
      cases hs : r.standing? id with
      | none => rfl
      | some t =>
        have inactive : t.isActive = false := by simpa [hs] using hactive
        simp [inactive]
    rw [close_of_not_active hactive, nothing]
    exact ⟨rfl, rfl⟩
  | true =>
    obtain ⟨s, hs, active⟩ := isActive_eq_true_iff.mp hactive
    have shown : r.standing? id = some s.standing := by rw [standing?, hs, Option.map_some]
    cases managed : s.isManaged with
    | false =>
      have nothing : r.yields? id = none := by simp [yields?, shown, Session.standing, managed]
      rw [nothing]
      exact (close_of_unmanaged hs managed).2
    | true =>
      have given : r.yields? id = s.identity? := by
        simp [yields?, shown, Session.standing, managed, active]
      rw [given]
      exact (close_of_managed reason hs active managed).2

/-- Two rosters under which the same will happen to every session. -/
structure Matches (r r' : Roster) : Prop where
  standing : ∀ id, Option.Rel Standing.Agrees (r.standing? id) (r'.standing? id)
  byIdentity : r.byIdentity = r'.byIdentity
  boundIdentities : r.boundIdentities = r'.boundIdentities
  settings : r.settings = r'.settings

namespace Matches

theorem refl (r : Roster) : r.Matches r := ⟨fun _ => rel_refl .refl _, rfl, rfl, rfl⟩

theorem trans {r'' : Roster} (first : r.Matches r') (second : r'.Matches r'') : r.Matches r'' where
  standing id := rel_trans (fun _ _ _ => .trans) (first.standing id) (second.standing id)
  byIdentity := first.byIdentity.trans second.byIdentity
  boundIdentities := first.boundIdentities.trans second.boundIdentities
  settings := first.settings.trans second.settings

/-! ### Reading -/

/-- What is read off standings that agree is the same. -/
theorem bind_standing {α : Type} {read : Standing → Option α} (same : r.Matches r')
    (reads : ∀ s t : Standing, s.Agrees t → read s = read t) (id : SessionId) :
    (r.standing? id).bind read = (r'.standing? id).bind read := by
  have related := same.standing id
  generalize r.standing? id = s at related ⊢
  generalize r'.standing? id = t at related ⊢
  cases related with
  | none => rfl
  | some agrees => exact reads _ _ agrees

theorem isActive (same : r.Matches r') (id : SessionId) : r.isActive id = r'.isActive id := by
  have read : ∀ r : Roster, r.isActive id =
      ((r.standing? id).bind fun t => some t.isActive).getD false := by
    intro r
    rw [isActive_eq_standing]
    cases r.standing? id <;> rfl
  rw [read, read, same.bind_standing fun _ _ agrees => congrArg some agrees.active]

theorem bearing? (same : r.Matches r') (id : SessionId) : r.bearing? id = r'.bearing? id := by
  rw [bearing?_eq_standing, bearing?_eq_standing,
    same.bind_standing fun _ _ agrees => agrees.identity]

theorem isReported (same : r.Matches r') (id : SessionId) : r.isReported id = r'.isReported id := by
  have read : ∀ r : Roster, r.isReported id =
      ((r.standing? id).bind fun t => some (t.isActive && t.isManaged)).getD false := by
    intro r
    unfold Roster.isReported
    cases r.standing? id <;> rfl
  rw [read, read, same.bind_standing fun s t agrees => by rw [agrees.active, agrees.managed]]

theorem yields? (same : r.Matches r') (id : SessionId) : r.yields? id = r'.yields? id :=
  same.bind_standing (fun s t agrees => by rw [agrees.active, agrees.managed, agrees.identity]) id

/-- How far an open session has come is known. -/
theorem association? (same : r.Matches r') (active : r.isActive id = true) :
    r.association? id = r'.association? id := by
  have related := same.standing id
  rw [isActive_eq_standing] at active
  rw [association?_eq_standing, association?_eq_standing]
  generalize r.standing? id = s at related active ⊢
  generalize r'.standing? id = t at related ⊢
  cases related with
  | none => rfl
  | some agrees => exact congrArg some (agrees.association active)

theorem findIdentity? (same : r.Matches r') (identity : String) :
    r.findIdentity? identity = r'.findIdentity? identity := by
  rw [Roster.findIdentity?, same.byIdentity, Roster.findIdentity?]

theorem atCapacity (same : r.Matches r') : r.atCapacity = r'.atCapacity := by
  rw [Roster.atCapacity, same.settings, same.boundIdentities, Roster.atCapacity]

/-! ### Changes -/

/-- The same change to the same session. -/
theorem standing_of_change {f : Standing → Standing} (same : r.Matches r')
    (respects : ∀ s t : Standing, s.Agrees t → (f s).Agrees (f t))
    (shown : ∀ other, q.standing? other =
      if other = id then (r.standing? other).map f else r.standing? other)
    (shown' : ∀ other, q'.standing? other =
      if other = id then (r'.standing? other).map f else r'.standing? other) (other : SessionId) :
    Option.Rel Standing.Agrees (q.standing? other) (q'.standing? other) := by
  have related := same.standing other
  rw [shown, shown']
  split
  · generalize r.standing? other = s at related ⊢
    generalize r'.standing? other = t at related ⊢
    cases related with
    | none => exact .none
    | some agrees => exact .some (respects _ _ agrees)
  · exact related

theorem transition (same : r.Matches r') (id : SessionId) (source target : AssociationState) :
    (r.transition id source target).2.Matches (r'.transition id source target).2 where
  standing := same.standing_of_change (fun _ _ agrees => agrees.transition source target)
    (fun _ => standing?_transition source target) fun _ => standing?_transition source target
  byIdentity := by rw [byIdentity_transition, byIdentity_transition, same.byIdentity]
  boundIdentities := by
    rw [boundIdentities_transition, boundIdentities_transition, same.boundIdentities]
  settings := by
    rw [transition_eq_update, transition_eq_update]
    exact same.settings

theorem bind (same : r.Matches r') (identity : String) (id : SessionId) :
    (r.bind identity id).Matches (r'.bind identity id) where
  standing := same.standing_of_change (fun _ _ agrees => agrees.bind identity)
    (fun _ => standing?_bind) fun _ => standing?_bind
  byIdentity := by rw [byIdentity_bind, byIdentity_bind, same.byIdentity]
  boundIdentities := by rw [boundIdentities_bind, boundIdentities_bind, same.boundIdentities]
  settings := by rw [settings_bind, settings_bind, same.settings]

theorem disown (same : r.Matches r') (id : SessionId) :
    (r.update id fun s => { s with identity? := none }).Matches
      (r'.update id fun s => { s with identity? := none }) where
  standing := same.standing_of_change (fun _ _ agrees => agrees.disown) (fun _ => standing?_disown)
    fun _ => standing?_disown
  byIdentity := same.byIdentity
  boundIdentities := same.boundIdentities
  settings := same.settings

theorem removeIdentity (same : r.Matches r') (id : SessionId) (identity : String) :
    (r.removeIdentity id identity).byIdentity = (r'.removeIdentity id identity).byIdentity ∧
      (r.removeIdentity id identity).boundIdentities =
        (r'.removeIdentity id identity).boundIdentities := by
  unfold Roster.removeIdentity
  rw [same.findIdentity?, same.byIdentity, same.boundIdentities]
  split
  · exact ⟨rfl, rfl⟩
  · exact ⟨same.byIdentity, same.boundIdentities⟩

theorem close (same : r.Matches r') (id : SessionId) (reason : CloseReason) :
    (r.close id reason).2.Matches (r'.close id reason).2 := by
  have index : (r.close id reason).2.byIdentity = (r'.close id reason).2.byIdentity ∧
      (r.close id reason).2.boundIdentities = (r'.close id reason).2.boundIdentities := by
    obtain ⟨entries, bound⟩ := r.index_close id reason
    obtain ⟨entries', bound'⟩ := r'.index_close id reason
    rw [entries, entries', bound, bound', same.yields?]
    cases r'.yields? id with
    | none => exact ⟨same.byIdentity, same.boundIdentities⟩
    | some identity => exact same.removeIdentity id identity
  refine ⟨?_, index.1, index.2, ?_⟩
  · exact same.standing_of_change (fun _ _ agrees => agrees.close reason)
      (fun _ => standing?_close reason) fun _ => standing?_close reason
  · rw [settings_close, settings_close, same.settings]

/-- The attempt of a closed session may fall back or not. -/
theorem transition_of_inactive (inactive : r.isActive id = false)
    (source target : AssociationState) :
    r.Matches (r.transition id source target).2 where
  standing other := by
    rw [standing?_transition]
    split
    · rename_i same
      subst same
      rw [isActive_eq_standing] at inactive
      cases hs : r.standing? other with
      | none => exact .none
      | some t => exact .some (.of_inactive (by simpa [hs] using inactive) source target)
    · exact rel_refl .refl _
  byIdentity := (byIdentity_transition source target).symm
  boundIdentities := (boundIdentities_transition source target).symm
  settings := by rw [transition_eq_update]; rfl

/-- Both have room for one more identity, or neither has. -/
theorem claimIdentity? (same : r.Matches r') :
    Option.Rel Matches r.claimIdentity? r'.claimIdentity? := by
  have counted : ({ r with boundIdentities := r.boundIdentities + 1 } : Roster).Matches
      { r' with boundIdentities := r'.boundIdentities + 1 } :=
    { same with boundIdentities := congrArg (· + 1) same.boundIdentities }
  by_cases room : r'.settings.maxIdentities = 0 ∨ r'.boundIdentities < r'.settings.maxIdentities
  · have room' := room
    rw [← same.settings, ← same.boundIdentities] at room'
    rw [Roster.claimIdentity?, if_pos room', Roster.claimIdentity?, if_pos room]
    exact .some counted
  · have full := room
    rw [← same.settings, ← same.boundIdentities] at full
    rw [Roster.claimIdentity?, if_neg full, Roster.claimIdentity?, if_neg room]
    exact .none

/-- What comes of an association is decided by the index, its holder and the cap. -/
theorem associate (same : r.Matches r') (identity : String) (id : SessionId) :
    (r.associate identity id).1 = (r'.associate identity id).1 ∧
      (r.associate identity id).2.Matches (r'.associate identity id).2 := by
  have fallen := same.transition id .doing .none
  unfold Roster.associate
  rw [same.findIdentity?]
  cases r'.findIdentity? identity with
  | some holder =>
    dsimp only
    rw [same.isActive]
    split
    · exact ⟨rfl, same⟩
    · split
      · exact ⟨rfl, fallen⟩
      · exact ⟨rfl, same.bind identity id⟩
  | none =>
    have claimed := same.claimIdentity?
    generalize r.claimIdentity? = q at claimed
    generalize r'.claimIdentity? = q' at claimed
    cases claimed with
    | none => exact ⟨rfl, fallen⟩
    | some counted => exact ⟨rfl, counted.bind identity id⟩

end Matches

end Roster

/-! ## Servers in lockstep -/

namespace Server

variable {srv a b : Server} {id other : SessionId} {identity : String} {message : Message}

/-- Two servers under which the same will happen, as long as the same is done to both. -/
structure Alike (a b : Server) : Prop where
  roster : a.roster.Matches b.roster
  reconnection : a.reconnection = b.reconnection
  driven : a.handlers.EventDriven ∧ b.handlers.EventDriven
  responses : ∀ event, a.handlers.response? event = b.handlers.response? event
  closings : a.closings = b.closings

theorem Alike.trans {c : Server} (first : Alike a b) (second : Alike b c) : Alike a c where
  roster := first.roster.trans second.roster
  reconnection := first.reconnection.trans second.reconnection
  driven := ⟨first.driven.1, second.driven.2⟩
  responses event := (first.responses event).trans (second.responses event)
  closings := first.closings.trans second.closings

/-- Two such servers with the same events about a session. -/
structure Abreast (id : SessionId) (a b : Server) : Prop extends Alike a b where
  events : a.eventsOf id = b.eventsOf id

/-- Two outcomes that leave such servers, and are the same otherwise. -/
inductive Coupled {α : Type} (id : SessionId) : Server × α → Server × α → Prop
  | mk {a b : Server} {result : α} (abreast : Abreast id a b) : Coupled id (a, result) (b, result)

namespace Abreast

theorem rewire (abreast : Abreast id a b) {r r' : Roster} (same : r.Matches r') :
    Abreast id { a with roster := r } { b with roster := r' } :=
  ⟨⟨same, abreast.reconnection, abreast.driven, abreast.responses, abreast.closings⟩,
    abreast.events⟩

theorem transition (abreast : Abreast id a b) (other : SessionId)
    (source target : AssociationState) :
    Abreast id (a.transition other source target) (b.transition other source target) :=
  abreast.rewire (abreast.roster.transition other source target)

theorem close (abreast : Abreast id a b) (other : SessionId) (reason : CloseReason) :
    Abreast id (a.close other reason).2 (b.close other reason).2 := by
  have reconnects : ∀ srv : Server, (srv.close other reason).2.reconnection = srv.reconnection := by
    intro srv
    obtain ⟨_, _, _, heq⟩ := exists_close_eq srv other reason
    rw [heq]
  refine ⟨⟨?_, ?_, ?_, ?_, ?_⟩, ?_⟩
  · rw [roster_close, roster_close]
    exact abreast.roster.close other reason
  · rw [reconnects, reconnects, abreast.reconnection]
  · rw [handlers_close, handlers_close]
    exact abreast.driven
  · rw [handlers_close, handlers_close]
    exact abreast.responses
  · rw [closings_close, closings_close, abreast.closings, abreast.roster.isReported]
  · rw [Traced.eventsOf_close, Traced.eventsOf_close, abreast.events]

theorem record (abreast : Abreast id a b) (event : ServerEvent) (delivered : Bool) :
    Abreast id (a.record (.event event delivered)) (b.record (.event event delivered)) := by
  refine ⟨⟨abreast.roster, abreast.reconnection, abreast.driven, abreast.responses, ?_⟩, ?_⟩
  · rw [closings_record, closings_record, abreast.closings]
  · rw [eventsOf_record, eventsOf_record, abreast.events]

theorem called (abreast : Abreast id a b) (kind : EventKind) :
    Abreast id { a with handlers := a.handlers.countCall kind }
      { b with handlers := b.handlers.countCall kind } := by
  refine ⟨⟨abreast.roster, abreast.reconnection, ?_, ?_, abreast.closings⟩, abreast.events⟩
  · exact ⟨abreast.driven.1.countCall, abreast.driven.2.countCall⟩
  · intro event
    rw [HandlerTable.response?_countCall, HandlerTable.response?_countCall, abreast.responses]

/-! ### Events -/

theorem actAll {actions : List Action}
    (closes : ∀ action ∈ actions, ∃ id reason, action = .close id reason)
    (abreast : Abreast id a b) : Coupled id (a.actAll actions) (b.actAll actions) := by
  induction actions generalizing a b with
  | nil => exact .mk abreast
  | cons action rest ih =>
    obtain ⟨other, reason, rfl⟩ := closes action List.mem_cons_self
    exact ih (fun action member => closes action (List.mem_cons_of_mem _ member))
      (abreast.close other reason)

theorem emit (abreast : Abreast id a b) (event : ServerEvent) :
    Coupled id (a.emit event) (b.emit event) := by
  have same := abreast.responses event
  unfold Server.emit
  cases found : a.handlers.find? event.kind with
  | none =>
    have absent : b.handlers.find? event.kind = none := by
      rw [HandlerTable.response?, found, HandlerTable.response?] at same
      exact Option.map_eq_none_iff.mp same.symm
    rw [absent]
    exact .mk (abreast.record event false)
  | some entry =>
    obtain ⟨response, closes⟩ := abreast.driven.1.response found
    obtain ⟨entry', found', -⟩ := Option.map_eq_some_iff.mp (same.symm.trans response)
    obtain ⟨response', -⟩ := abreast.driven.2.response found'
    -- the one handler does to its server what the other does to the other
    have alike : entry'.handler entry'.calls event = entry.handler entry.calls event :=
      Option.some.inj (response'.symm.trans (same.symm.trans response))
    rw [found']
    dsimp only
    rw [alike]
    generalize first : Server.actAll _ _ = x
    generalize second : Server.actAll _ _ = y
    have ran : Coupled id x y := by
      rw [← first, ← second]
      exact ((abreast.record event true).called event.kind).actAll fun action member =>
        (closes action member).imp fun _ => .imp fun _ => And.left
    obtain @⟨srv, srv', result, after⟩ := ran
    cases result <;> exact .mk after

theorem announce (abreast : Abreast id a b) (event : ServerEvent) :
    Coupled id (a.announce event) (b.announce event) := by
  have emitted := abreast.emit event
  unfold Server.announce
  generalize a.emit event = x at emitted ⊢
  generalize b.emit event = y at emitted ⊢
  obtain @⟨srv, srv', result, after⟩ := emitted
  cases result <;> exact .mk after

/-! ### Messages -/

theorem liveHolder? (abreast : Abreast id a b) (identity : String) (other : SessionId) :
    a.liveHolder? identity other = b.liveHolder? identity other := by
  unfold Server.liveHolder?
  rw [abreast.roster.findIdentity?]
  refine congrArg (Option.filter · _) (funext fun old => ?_)
  rw [abreast.roster.isActive]

/-- Both move the identity from the same session. -/
theorem takeOver (abreast : Abreast id a b) {old : SessionId}
    (held : a.liveHolder? identity other = some old) :
    Abreast id (a.takeOver identity other) (b.takeOver identity other) := by
  rw [takeOver_eq held, takeOver_eq ((abreast.liveHolder? identity other).symm.trans held)]
  exact (abreast.rewire ((abreast.roster.bind identity other).disown old)).close old .reconnected

theorem offerReconnection (abreast : Abreast id a b) (message : Message) :
    Coupled id (a.offerReconnection id message) (b.offerReconnection id message) := by
  have asked := abreast.emit (.reconnectionRequest id message)
  unfold Server.offerReconnection
  generalize a.emit (.reconnectionRequest id message) = x at asked ⊢
  generalize b.emit (.reconnectionRequest id message) = y at asked ⊢
  obtain @⟨srv, srv', result, after⟩ := asked
  cases result with
  | error failure => exact .mk after
  | ok reply =>
    dsimp only
    cases reply.identity? with
    | none => exact .mk after
    | some identity =>
      dsimp only
      rw [← after.liveHolder?]
      cases held : srv.liveHolder? identity id with
      | none => exact .mk after
      | some old =>
        have told := (after.takeOver held).announce (.reconnectionResult id identity .success)
        generalize (srv.takeOver identity id).announce
          (.reconnectionResult id identity .success) = x at told ⊢
        generalize (srv'.takeOver identity id).announce
          (.reconnectionResult id identity .success) = y at told ⊢
        obtain @⟨later, later', outcome, after⟩ := told
        cases outcome <;> exact .mk after

theorem refuse (abreast : Abreast id a b) (message : Message) :
    Coupled id (a.refuse id message) (b.refuse id message) := by
  have told := abreast.announce (.connectionEstablished id message .reachedMaxConnection)
  unfold Server.refuse
  generalize a.announce (.connectionEstablished id message .reachedMaxConnection) = x at told ⊢
  generalize b.announce (.connectionEstablished id message .reachedMaxConnection) = y at told ⊢
  obtain @⟨srv, srv', result, after⟩ := told
  cases result with
  | error failure => exact .mk after
  | ok _ => exact .mk ((after.transition id .doing .none).close id .rejected)

theorem associated (abreast : Abreast id a b) (identity : String) :
    Abreast id (a.associated id identity) (b.associated id identity) := by
  obtain ⟨same, bound⟩ := abreast.roster.associate identity id
  have bound := abreast.rewire bound
  unfold Server.associated
  rw [same]
  split
  · exact bound.transition id .doing .done
  · exact bound

theorem bindIdentity (abreast : Abreast id a b) (identity : String) :
    Coupled id (a.bindIdentity id identity) (b.bindIdentity id identity) := by
  have told := (abreast.associated identity).announce
    (.associationResult id identity (b.roster.associate identity id).1)
  rw [bindIdentity_eq, bindIdentity_eq, (abreast.roster.associate identity id).1]
  generalize (a.associated id identity).announce _ = x at told ⊢
  generalize (b.associated id identity).announce _ = y at told ⊢
  obtain @⟨srv, srv', result, after⟩ := told
  cases result with
  | error failure => exact .mk after
  | ok _ =>
    dsimp only
    split
    · exact .mk (after.close id .rejected)
    · exact .mk after

theorem establish (abreast : Abreast id a b) (message : Message) :
    Coupled id (a.establish id message) (b.establish id message) := by
  rw [establish_eq, establish_eq, abreast.roster.atCapacity]
  split
  · exact abreast.refuse message
  · have asked := abreast.emit (.connectionEstablished id message .success)
    unfold establishDirectly
    generalize a.emit (.connectionEstablished id message .success) = x at asked ⊢
    generalize b.emit (.connectionEstablished id message .success) = y at asked ⊢
    obtain @⟨srv, srv', result, after⟩ := asked
    cases result with
    | error failure => exact .mk after
    | ok reply =>
      dsimp only
      cases reply.identity? with
      | none => exact .mk (after.transition id .doing .none)
      | some identity => exact after.bindIdentity identity

/-- An attempt is under way in both servers, or in neither. -/
theorem answerConnection (abreast : Abreast id a b) (active : a.roster.isActive id = true)
    (message : Message) :
    Coupled id (a.answerConnection id message) (b.answerConnection id message) := by
  have begun := abreast.transition id .none .doing
  unfold Server.answerConnection
  rw [← abreast.roster.isActive, ← abreast.roster.association? active]
  split
  · exact .mk abreast
  · split
    · exact .mk abreast
    · dsimp only
      generalize a.transition id .none .doing = a' at begun
      generalize b.transition id .none .doing = b' at begun
      have same : a'.reconnection = b'.reconnection := begun.reconnection
      rw [same]
      split
      · have offered := begun.offerReconnection message
        generalize a'.offerReconnection id message = x at offered ⊢
        generalize b'.offerReconnection id message = y at offered ⊢
        obtain @⟨srv, srv', result, after⟩ := offered
        rcases result with failure | _ | _
        · exact .mk after
        · exact after.establish message
        · exact .mk after
      · exact begun.establish message

theorem contain {x y : Server × Except HandlerFailure Unit} (coupled : Coupled id x y) :
    Abreast id (Server.contain id x) (Server.contain id y) := by
  obtain @⟨srv, srv', result, after⟩ := coupled
  cases result with
  | error failure => exact after.transition id .doing .none
  | ok _ => exact after

end Abreast

/-! ## Messages of a session -/

section Messages

variable {transport : TransportKind}

theorem process_eq_contain (srv : Server) (id : SessionId) (kind : RequestKind)
    (transport : TransportKind) :
    srv.process ⟨.session id, kind, transport⟩ = contain id (srv.handleFrom id transport kind) := by
  unfold process handle
  dsimp only
  rcases srv.handleFrom id transport kind with ⟨srv', _ | _⟩ <;> rfl

/-- Once a session is associated, its messages are delivered however they were taken for. -/
theorem process_sessionMessage (done : srv.roster.association? id = some .done) (message : Message)
    (transport : TransportKind) :
    srv.process ⟨.session id, .sessionMessage message, transport⟩ =
      srv.process ⟨.session id, .connectionRequest message, transport⟩ := by
  rw [process_eq_contain, process_eq_contain]
  unfold handleFrom
  dsimp only
  rw [if_pos done]

theorem deliverMessage_of_active (active : srv.roster.isActive id = true) (message : Message)
    (transport : TransportKind) :
    srv.deliverMessage id message transport =
      srv.announce (.sessionReadMessage id (srv.roster.bearing? id) transport message) := by
  obtain ⟨s, hs, isActive⟩ := Roster.isActive_eq_true_iff.mp active
  have present : srv.session? id = some s := hs
  have bears : srv.roster.bearing? id = s.identity? := by rw [Roster.bearing?, hs, Option.bind_some]
  unfold deliverMessage
  rw [present, bears]
  dsimp only
  rw [if_pos isActive]

/-- Nothing comes of the messages of a closed session. -/
theorem process_of_inactive (inactive : srv.roster.isActive id = false) {kind : RequestKind}
    (kinds : kind = .connectionRequest message ∨ kind = .sessionMessage message)
    (transport : TransportKind) : srv.process ⟨.session id, kind, transport⟩ = srv := by
  have dropped : srv.deliverMessage id message transport = (srv, .ok ()) := by
    unfold deliverMessage
    cases hs : srv.session? id with
    | none => rfl
    | some s =>
      have present : srv.roster.session? id = some s := hs
      have closed : s.isActive = false := by simpa [Roster.isActive, present] using inactive
      simp [closed]
  have ignored : srv.answerConnection id message = (srv, .ok ()) := by
    unfold answerConnection
    rw [inactive]
    rfl
  rw [process_eq_contain]
  unfold handleFrom
  obtain rfl | rfl := kinds
  · dsimp only
    rw [dropped, ignored]
    split <;> rfl
  · dsimp only
    rw [dropped]
    rfl

/-- Two servers in lockstep turn a message of an open session into the same events. -/
theorem Abreast.process (abreast : Abreast id a b) (active : a.roster.isActive id = true)
    (message : Message) (transport : TransportKind) :
    Abreast id (a.process ⟨.session id, .connectionRequest message, transport⟩)
      (b.process ⟨.session id, .connectionRequest message, transport⟩) := by
  have active' : b.roster.isActive id = true := (abreast.roster.isActive id).symm.trans active
  rw [process_eq_contain, process_eq_contain]
  refine Abreast.contain ?_
  unfold handleFrom
  dsimp only
  rw [← abreast.roster.association? active]
  split
  · rw [deliverMessage_of_active active, deliverMessage_of_active active',
      abreast.roster.bearing?]
    exact abreast.announce _
  · exact abreast.answerConnection active message

end Messages

/-! ## Notices -/

section Notices

variable {event : ServerEvent} (driven : srv.handlers.EventDriven)
  (inactive : srv.roster.isActive other = false)

include inactive in
/-- There is nothing left to close of a closed session. -/
theorem actAll_of_closed {actions : List Action}
    (closes : ∀ action ∈ actions, ∃ reason, action = .close other reason) :
    srv.actAll actions = (srv, .ok ()) := by
  induction actions with
  | nil => rfl
  | cons action rest ih =>
    obtain ⟨reason, rfl⟩ := closes action List.mem_cons_self
    unfold actAll act
    dsimp only
    rw [close_of_not_active inactive]
    exact ih fun action member => closes action (List.mem_cons_of_mem _ member)

include driven inactive

/-- What a closed session is told has no effect, even if the handler closes it once more. -/
theorem emit_of_closed (about : event.about? = some other) :
    (srv.emit event).1 = srv.heard event := by
  unfold emit heard HandlerTable.isRegistered
  cases found : srv.handlers.find? event.kind with
  | none =>
    rw [HandlerTable.countCall_of_not_registered found]
    rfl
  | some entry =>
    let called : Server :=
      { srv.record (.event event true) with handlers := srv.handlers.countCall event.kind }
    have closed : called.roster.isActive other = false := inactive
    have idle : called.actAll (entry.handler entry.calls event).actions = (called, .ok ()) := by
      refine actAll_of_closed closed fun action member => ?_
      obtain ⟨closing, reason, rfl, subject⟩ := (driven.response found).2 action member
      obtain rfl : other = closing := Option.some.inj (about.symm.trans subject)
      exact ⟨reason, rfl⟩
    dsimp only
    rw [show Server.actAll _ _ = _ from idle]
    rfl

/-- The notice of a session that is closed changes nothing but the record, and counts a call. -/
theorem process_notice (id : SessionId) (reason : CloseReason) (transport : TransportKind) :
    let after := srv.process ⟨.session other, .sessionClosed reason, transport⟩
    Alike srv after ∧ after.eventsOf id = srv.eventsOf id ++
      if other = id then [.sessionWillBeClosed id (srv.roster.bearing? id) reason] else [] := by
  intro after
  let event : ServerEvent := .sessionWillBeClosed other (srv.roster.bearing? other) reason
  have told : (srv.announce event).1 = srv.heard event := by
    rw [announce_eq]
    exact emit_of_closed driven inactive rfl
  have handled : after = contain other (srv.announce event) := process_eq_contain srv other _ _
  have heard : Alike srv (srv.heard event) := by
    refine ⟨.refl _, rfl, ⟨driven, driven.countCall⟩, fun _ => ?_, ?_⟩
    · exact (HandlerTable.response?_countCall _).symm
    · exact ((closings_record srv _).trans (List.append_nil _)).symm
  have events : (srv.heard event).eventsOf id = srv.eventsOf id ++
      if other = id then [.sessionWillBeClosed id (srv.roster.bearing? id) reason] else [] := by
    have recorded : (srv.heard event).eventsOf id =
        if event.about? = some id then srv.eventsOf id ++ [event] else srv.eventsOf id :=
      eventsOf_record
    rw [recorded]
    by_cases same : other = id
    · subst same
      simp [event, ServerEvent.about?]
    · simp [event, ServerEvent.about?, same]
  rw [handled]
  generalize srv.announce event = result at told ⊢
  obtain ⟨srv', _ | _⟩ := result
  · -- a failure makes the session fall back, which is closed
    obtain rfl : srv' = srv.heard event := told
    refine ⟨{ heard with roster := ?_ }, events⟩
    exact .transition_of_inactive inactive .doing .none
  · obtain rfl : srv' = srv.heard event := told
    exact ⟨heard, events⟩

end Notices

end Server

end SessionNet
