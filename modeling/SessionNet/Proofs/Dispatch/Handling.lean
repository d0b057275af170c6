import Mathlib.Logic.Relation
import SessionNet.Proofs.Server.Changes
import SessionNet.Proofs.Server.Closing

/-!
# What handlers do to a server

A handler that does not associate sessions itself sends messages, unregisters handlers and closes
sessions. Of these only the closing shows in the standings, the identity index, the requests on
their way or the events that happened. So the server after an event is the server with that event
recorded and some sessions closed, up to changes that show in none of these.
-/

namespace SessionNet

/-! ## Confined handlers -/

/-- An action that associates no session, and closes one only if that is allowed. -/
def Action.Within (mayClose : SessionId → Prop) : Action → Prop
  | .send _ _ _ => True
  | .close id _ => mayClose id
  | .associate _ _ => False
  | .unregister _ => True

/-- Handlers associate no session, and close only those that may be closed at the event. -/
def HandlerTable.Confined (mayClose : ServerEvent → SessionId → Prop) (t : HandlerTable) : Prop :=
  ∀ entry ∈ t.entries, ∀ calls event, event.kind = entry.kind →
    ∀ action ∈ (entry.handler calls event).actions, action.Within (mayClose event)

namespace HandlerTable

variable {t : HandlerTable} {mayClose : ServerEvent → SessionId → Prop} {kind : EventKind}

theorem Confined.unregister (confined : t.Confined mayClose) :
    (t.unregister kind).2.Confined mayClose := by
  intro entry member
  exact confined entry (List.mem_filter.mp member).1

theorem Confined.countCall (confined : t.Confined mayClose) :
    (t.countCall kind).Confined mayClose := by
  intro entry member
  rcases List.mem_map.mp member with ⟨counted, hmember, rfl⟩
  -- counting a call keeps kind and handler
  by_cases same : (counted.kind == kind) = true
  · simpa only [same, if_true] using confined counted hmember
  · simpa only [same, Bool.false_eq_true, if_false] using confined counted hmember

theorem kind_of_find? {entry : HandlerEntry} (found : t.find? kind = some entry) :
    entry ∈ t.entries ∧ entry.kind = kind := by
  have chosen := List.find?_some found
  exact ⟨List.mem_of_find?_eq_some found, by simpa using chosen⟩

end HandlerTable

namespace Server

/-! ## Changes that do not show -/

/-- Two servers with equal standings, identity index, requests, events, and handlers no freer. -/
structure SameStanding (srv srv' : Server) : Prop where
  standing : ∀ id, srv'.roster.standing? id = srv.roster.standing? id
  length : srv'.roster.sessions.length = srv.roster.sessions.length
  registered : srv'.roster.registered = srv.roster.registered
  byIdentity : srv'.roster.byIdentity = srv.roster.byIdentity
  boundIdentities : srv'.roster.boundIdentities = srv.roster.boundIdentities
  settings : srv'.roster.settings = srv.roster.settings
  dispatcher : srv'.dispatcher = srv.dispatcher
  notifies : srv'.notifiesDispatcher = srv.notifiesDispatcher
  history : srv'.history = srv.history
  handlers : ∀ mayClose, srv.handlers.Confined mayClose → srv'.handlers.Confined mayClose

namespace SameStanding

variable {srv srv' srv'' : Server}

theorem refl (srv : Server) : SameStanding srv srv :=
  ⟨fun _ => rfl, rfl, rfl, rfl, rfl, rfl, rfl, rfl, rfl, fun _ confined => confined⟩

/-- A change outside of the roster, the requests and the events. -/
theorem of_roster_eq (roster : srv'.roster = srv.roster)
    (dispatcher : srv'.dispatcher = srv.dispatcher)
    (notifies : srv'.notifiesDispatcher = srv.notifiesDispatcher)
    (history : srv'.history = srv.history)
    (handlers : ∀ mayClose, srv.handlers.Confined mayClose → srv'.handlers.Confined mayClose) :
    SameStanding srv srv' := by
  refine ⟨fun id => ?_, ?_, ?_, ?_, ?_, ?_, dispatcher, notifies, history, handlers⟩ <;>
    rw [roster]

theorem trans (first : SameStanding srv srv') (second : SameStanding srv' srv'') :
    SameStanding srv srv'' where
  standing id := (second.standing id).trans (first.standing id)
  length := second.length.trans first.length
  registered := second.registered.trans first.registered
  byIdentity := second.byIdentity.trans first.byIdentity
  boundIdentities := second.boundIdentities.trans first.boundIdentities
  settings := second.settings.trans first.settings
  dispatcher := second.dispatcher.trans first.dispatcher
  notifies := second.notifies.trans first.notifies
  history := second.history.trans first.history
  handlers mayClose confined := second.handlers mayClose (first.handlers mayClose confined)

theorem isActive (same : SameStanding srv srv') (id : SessionId) :
    srv'.roster.isActive id = srv.roster.isActive id := by
  simp only [Roster.isActive_eq_standing, same.standing]

end SameStanding

/-- A change to one session that keeps its standing does not show. -/
theorem sameStanding_update {f : Session → Session} (srv : Server) (id : SessionId)
    (keeps : ∀ s, (f s).standing = s.standing) : SameStanding srv (srv.update id f) where
  standing _ := Roster.standing?_update_keeping keeps
  length := by simp [update, Roster.update]
  registered := rfl
  byIdentity := rfl
  boundIdentities := rfl
  settings := rfl
  dispatcher := rfl
  notifies := rfl
  history := rfl
  handlers _ confined := confined

theorem standing_enqueue (s : Session) (packet : Packet) :
    (s.enqueue packet).1.standing = s.standing := by
  obtain ⟨queue, counters, heq⟩ := s.exists_enqueue_eq packet
  rw [heq]
  rfl

theorem sameStanding_enqueue (srv : Server) (id : SessionId) (packet : Packet) :
    SameStanding srv (srv.enqueue id packet).1 := by
  rw [enqueue_eq]
  exact sameStanding_update srv id fun s => standing_enqueue s packet

theorem sameStanding_schedule (srv : Server) (id : SessionId) :
    SameStanding srv (srv.schedule id) := by
  rcases srv.schedule_cases id with same | ⟨queues, scheduled⟩
  · rw [same]
    exact .refl srv
  · have flagged := sameStanding_update srv id (f := fun s => { s with writeScheduled := true })
      fun _ => rfl
    rw [scheduled]
    exact ⟨flagged.standing, flagged.length, rfl, rfl, rfl, rfl, rfl, rfl, rfl, flagged.handlers⟩

theorem sameStanding_enqueueAndSchedule (srv : Server) (id : SessionId) (packet : Packet) :
    SameStanding srv (srv.enqueueAndSchedule id packet).1 := by
  have queued := sameStanding_enqueue srv id packet
  rcases srv.enqueueAndSchedule_fst id packet with refused | accepted
  · rwa [refused]
  · rw [accepted]
    exact queued.trans (sameStanding_schedule _ id)

theorem sameStanding_createPacket (srv : Server) (payload : Bytes) :
    SameStanding srv (srv.createPacket payload).2 :=
  .of_roster_eq rfl rfl rfl rfl fun _ confined => confined

theorem sameStanding_send (srv : Server) (id : SessionId) (message : Message) :
    SameStanding srv (srv.send id message).1 :=
  .trans (sameStanding_createPacket srv (message.serialize srv.supply.codec.format))
    (sameStanding_enqueueAndSchedule _ id _)

theorem sameStanding_sendDatagram (srv : Server) (id : SessionId) (message : Message) :
    SameStanding srv (srv.sendDatagram id message).1 :=
  .trans (sameStanding_createPacket srv (message.serialize srv.supply.codec.format))
    (sameStanding_enqueueAndSchedule _ id _)

/-! ## Drifting -/

/-- One thing that happens while a handler runs, as far as it shows. -/
inductive Touch (mayClose : SessionId → Prop) : Server → Server → Prop
  | close {srv : Server} {id : SessionId} (reason : CloseReason) (allowed : mayClose id) :
      Touch mayClose srv (srv.close id reason).2
  | aside {srv srv' : Server} (same : SameStanding srv srv') : Touch mayClose srv srv'

/-- What a handler may turn a server into. -/
abbrev Drift (mayClose : SessionId → Prop) : Server → Server → Prop :=
  Relation.ReflTransGen (Touch mayClose)

/-- What no closing and no hidden change destroys survives a handler. -/
theorem Drift.preserves {mayClose : SessionId → Prop} {P : Server → Prop} {srv srv' : Server}
    (drift : Drift mayClose srv srv')
    (close : ∀ srv id reason, mayClose id → P srv → P (srv.close id reason).2)
    (aside : ∀ srv srv', SameStanding srv srv' → P srv → P srv') (h : P srv) : P srv' := by
  induction drift with
  | refl => exact h
  | tail _ touch ih =>
    cases touch with
    | close reason allowed => exact close _ _ reason allowed ih
    | aside same => exact aside _ _ same ih

section Handler

variable {mayClose : SessionId → Prop}

theorem drift_act (srv : Server) {action : Action} (within : action.Within mayClose) :
    Drift mayClose srv (srv.act action).1 := by
  cases action with
  | send id message datagram =>
    cases datagram with
    | false => exact .single (.aside (sameStanding_send srv id message))
    | true => exact .single (.aside (sameStanding_sendDatagram srv id message))
  | close id reason => exact .single (.close reason within)
  | associate id identity => exact False.elim within
  | unregister kind =>
    exact .single (.aside (.of_roster_eq rfl rfl rfl rfl fun _ => .unregister))

theorem drift_actAll (srv : Server) {actions : List Action}
    (within : ∀ action ∈ actions, action.Within mayClose) :
    Drift mayClose srv (srv.actAll actions).1 := by
  induction actions generalizing srv with
  | nil => exact .refl
  | cons action rest ih =>
    have first := drift_act srv (within action (by simp))
    unfold actAll
    rcases hresult : srv.act action with ⟨srv', result⟩
    rw [hresult] at first
    cases result with
    | error e => exact first
    | ok done =>
      have others := ih srv' fun action member => within action (by simp [member])
      exact first.trans others

end Handler

theorem handlers_close (srv : Server) (id : SessionId) (reason : CloseReason) :
    (srv.close id reason).2.handlers = srv.handlers := by
  rcases exists_close_eq srv id reason with ⟨_, _, _, heq⟩
  rw [heq]

/-- Handlers stay confined while they run. -/
theorem Drift.confined {mayClose : SessionId → Prop} {confines : ServerEvent → SessionId → Prop}
    {srv srv' : Server} (drift : Drift mayClose srv srv')
    (confined : srv.handlers.Confined confines) : srv'.handlers.Confined confines := by
  refine drift.preserves (P := fun srv => srv.handlers.Confined confines) ?_ ?_ confined
  · intro srv id reason _ h
    rwa [handlers_close]
  · intro srv srv' same h
    exact same.handlers confines h

/-! ## Events -/

/-- A server after an event was recorded and its handler, if there is one, has run. -/
def Emits (mayClose : ServerEvent → SessionId → Prop) (event : ServerEvent) (srv srv' : Server) :
    Prop :=
  ∃ delivered, Drift (mayClose event) (srv.record (.event event delivered)) srv'

section Emission

variable {mayClose : ServerEvent → SessionId → Prop} {srv srv' : Server}

theorem Emits.confined {event : ServerEvent} (emits : Emits mayClose event srv srv')
    (confined : srv.handlers.Confined mayClose) : srv'.handlers.Confined mayClose := by
  rcases emits with ⟨delivered, drift⟩
  exact drift.confined confined

theorem emits_emit (event : ServerEvent) (confined : srv.handlers.Confined mayClose) :
    Emits mayClose event srv (srv.emit event).1 := by
  unfold emit
  cases hfound : srv.handlers.find? event.kind with
  | none => exact ⟨false, .refl⟩
  | some entry =>
    rcases HandlerTable.kind_of_find? hfound with ⟨hmember, hkind⟩
    have within := confined entry hmember entry.calls event hkind.symm
    let called : Server := { srv.record (.event event true) with
      handlers := srv.handlers.countCall event.kind }
    have counted : SameStanding (srv.record (.event event true)) called :=
      .of_roster_eq rfl rfl rfl rfl fun _ => .countCall
    have ran : Drift (mayClose event) called
        (called.actAll (entry.handler entry.calls event).actions).1 := drift_actAll called within
    refine ⟨true, .head (.aside counted) ?_⟩
    -- how the handler ends changes nothing about what it did
    dsimp only
    rcases hresult : called.actAll (entry.handler entry.calls event).actions with ⟨done, result⟩
    rw [hresult] at ran
    cases result with
    | error e => exact ran
    | ok _ => exact ran

theorem announce_eq (srv : Server) (event : ServerEvent) :
    (srv.announce event).1 = (srv.emit event).1 := by
  unfold announce
  rcases srv.emit event with ⟨srv', result⟩
  cases result <;> rfl

theorem emits_announce (event : ServerEvent) (confined : srv.handlers.Confined mayClose) :
    Emits mayClose event srv (srv.announce event).1 := by
  rw [announce_eq]
  exact emits_emit event confined

end Emission

end Server

end SessionNet
