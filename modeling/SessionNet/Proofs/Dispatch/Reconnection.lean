import SessionNet.Proofs.Dispatch.EarlyRefusal
import SessionNet.Proofs.Dispatch.Undertakings

/-!
# Reconnection

A session that asks for the identity of another live session takes it over: the identity moves, the
other session is closed and nothing leads to it any more, and nothing that is done with it later
reaches the identity. An identity that nobody holds is bound as it would be if the server did not
offer reconnection.
-/

namespace SessionNet

namespace Roster

variable {r : Roster} {id old : SessionId} {identity name : String}

/-- An open holder keeps its identity, whoever else is to be associated with whatever. -/
theorem findIdentity?_associate_of_live (found : r.findIdentity? identity = some id)
    (live : r.isActive id = true) (differs : id ≠ old) :
    (r.associate name old).2.findIdentity? identity = some id := by
  have fallen : (r.transition old .doing .none).2.findIdentity? identity = some id :=
    (congrArg (List.lookup identity) (byIdentity_transition .doing .none)).trans found
  by_cases same : name = identity
  · subst same
    rwa [associate_of_live found live differs]
  · have elsewhere : identity ≠ name := Ne.symm same
    refine associate_preserves (P := fun r' => r'.findIdentity? identity = some id) found ?_ ?_ ?_
    · intro r' before
      rwa [findIdentity?_bind_of_ne elsewhere]
    · intro r' before
      exact (congrArg (List.lookup identity) (byIdentity_transition .doing .none)).trans before
    · exact fun _ _ before => before

theorem findIdentity?_rebind_of_ne (differs : identity ≠ name) :
    (r.rebind name id).2.findIdentity? identity = r.findIdentity? identity := by
  cases found : r.findIdentity? name with
  | none =>
    rw [rebind_of_none found, findIdentity?_bind_of_ne differs]
    rfl
  | some holder =>
    by_cases same : holder = id
    · subst same
      rw [rebind_of_self found, findIdentity?_bind_of_ne differs]
    · rw [rebind_of_other found same]
      exact findIdentity?_bind_of_ne differs

end Roster

namespace Server

variable {srv plain : Server} {id other : SessionId} {identity : String} {message : Message}
variable {event : ServerEvent} {past : List Occurrence}

/-! ## A question that changes nothing -/

/-- The one server is the other with one more event, which was heard when `past` had happened. -/
def Beside (event : ServerEvent) (past : List Occurrence) (plain srv : Server) : Prop :=
  ∃ newer delivered, plain.history = newer ++ past ∧
    srv = { plain with
      history := newer ++ .event event delivered :: past
      handlers := plain.handlers.countCall event.kind
      reconnection := true }

/-- Closing reads neither the handlers nor the record, and adds to the record what it always adds.
-/
theorem close_beside (srv : Server) (id : SessionId) (reason : CloseReason) :
    ∃ ended, (srv.close id reason).2.history = ended ++ srv.history ∧
      ∀ history handlers reconnection,
        (({ srv with history, handlers, reconnection } : Server).close id reason).2 =
          { (srv.close id reason).2 with
            history := ended ++ history, handlers, reconnection } := by
  have present : ∀ history handlers reconnection,
      ({ srv with history, handlers, reconnection } : Server).session? id = srv.session? id :=
    fun _ _ _ => rfl
  unfold close
  simp only [present]
  cases srv.session? id with
  | none => exact ⟨[], rfl, fun _ _ _ => rfl⟩
  | some s =>
    dsimp only
    split
    · refine ⟨[.closed id reason], history_reportClosed, ?_⟩
      intro history handlers reconnection
      unfold reportClosed notify record
      dsimp only
      split
      · split <;> rfl
      · rfl
    · exact ⟨[], rfl, fun _ _ _ => rfl⟩

namespace Beside

theorem roster (beside : Beside event past plain srv) : srv.roster = plain.roster := by
  obtain ⟨newer, delivered, -, rfl⟩ := beside
  rfl

theorem answering (beside : Beside event past plain srv) (answering : plain.handlers.Answering) :
    srv.handlers.Answering := by
  obtain ⟨newer, delivered, -, rfl⟩ := beside
  exact answering.countCall

theorem rewire (beside : Beside event past plain srv) (f : Roster → Roster) :
    Beside event past { plain with roster := f plain.roster }
      { srv with roster := f srv.roster } := by
  obtain ⟨newer, delivered, history, rfl⟩ := beside
  exact ⟨newer, delivered, history, rfl⟩

theorem answer (beside : Beside event past plain srv) {asked : ServerEvent}
    (differs : asked.kind ≠ event.kind) : srv.answer asked = plain.answer asked := by
  obtain ⟨newer, delivered, -, rfl⟩ := beside
  unfold Server.answer
  dsimp only
  rw [HandlerTable.find?_countCall_of_ne differs]

theorem heard (beside : Beside event past plain srv) {asked : ServerEvent}
    (differs : asked.kind ≠ event.kind) :
    Beside event past (plain.heard asked) (srv.heard asked) := by
  obtain ⟨newer, delivered, history, rfl⟩ := beside
  -- the question has counted a call of another handler
  have registered : (plain.handlers.countCall event.kind).isRegistered asked.kind =
      plain.handlers.isRegistered asked.kind := by
    rw [HandlerTable.isRegistered, HandlerTable.find?_countCall_of_ne differs,
      HandlerTable.isRegistered]
  refine ⟨.event asked (plain.handlers.isRegistered asked.kind) :: newer, delivered,
    congrArg (List.cons _) history, ?_⟩
  unfold Server.heard
  dsimp only
  rw [registered, HandlerTable.countCall_comm]
  rfl

theorem transition (beside : Beside event past plain srv) (id : SessionId)
    (source target : AssociationState) :
    Beside event past (plain.transition id source target) (srv.transition id source target) :=
  beside.rewire fun r => (r.transition id source target).2

theorem close (beside : Beside event past plain srv) (id : SessionId) (reason : CloseReason) :
    Beside event past (plain.close id reason).2 (srv.close id reason).2 := by
  obtain ⟨newer, delivered, history, rfl⟩ := beside
  obtain ⟨ended, added, closed⟩ := close_beside plain id reason
  refine ⟨ended ++ newer, delivered, ?_, ?_⟩
  · rw [added, history, List.append_assoc]
  · rw [closed, handlers_close, List.append_assoc]

theorem associated (beside : Beside event past plain srv) (id : SessionId) (identity : String) :
    Beside event past (plain.associated id identity) (srv.associated id identity) := by
  have bound := beside.rewire fun r => (r.associate identity id).2
  unfold Server.associated
  rw [beside.roster] at bound ⊢
  split
  · exact bound.transition id .doing .done
  · exact bound

/-- Two outcomes that differ in the one event only. -/
def Alike (event : ServerEvent) (past : List Occurrence)
    (plain full : Server × Except HandlerFailure Unit) : Prop :=
  Beside event past plain.1 full.1 ∧ full.2 = plain.2

theorem alike_contain {result result' : Server × Except HandlerFailure Unit}
    (alike : Alike event past result result') (id : SessionId) :
    Beside event past (contain id result) (contain id result') := by
  obtain ⟨plain, outcome⟩ := result
  obtain ⟨srv, outcome'⟩ := result'
  obtain ⟨beside, same⟩ := alike
  obtain rfl : outcome' = outcome := same
  cases outcome' with
  | error failure => exact beside.transition id .doing .none
  | ok _ => exact beside

section Answered

variable (beside : Beside event past plain srv) (answering : plain.handlers.Answering)
  (asked : event.kind = .reconnectionRequest)
include beside answering asked

theorem refuse (id : SessionId) (message : Message) :
    Alike event past (plain.refuse id message) (srv.refuse id message) := by
  have differs : (ServerEvent.connectionEstablished id message .reachedMaxConnection).kind ≠
      event.kind := by
    rw [asked]
    nofun
  have told := beside.heard differs
  unfold Server.refuse
  rw [announce_of_answering answering rfl, announce_of_answering (beside.answering answering) rfl,
    beside.answer differs]
  cases plain.answer (.connectionEstablished id message .reachedMaxConnection) with
  | error failure => exact ⟨told, rfl⟩
  | ok reply => exact ⟨(told.transition id .doing .none).close id .rejected, rfl⟩

theorem bindIdentity (id : SessionId) (identity : String) :
    Alike event past (plain.bindIdentity id identity) (srv.bindIdentity id identity) := by
  let result := (plain.roster.associate identity id).1
  have differs : (ServerEvent.associationResult id identity result).kind ≠ event.kind := by
    rw [asked]
    nofun
  have associated := beside.associated id identity
  have idle : (plain.associated id identity).handlers.Answering := by
    rwa [handlers_associated]
  have told := associated.heard differs
  rw [bindIdentity_eq, bindIdentity_eq, beside.roster]
  rw [announce_of_answering idle rfl, announce_of_answering (associated.answering idle) rfl,
    associated.answer differs]
  cases (plain.associated id identity).answer (.associationResult id identity result) with
  | error failure => exact ⟨told, rfl⟩
  | ok reply =>
    dsimp only [Except.map]
    split
    · exact ⟨told.close id .rejected, rfl⟩
    · exact ⟨told, rfl⟩

theorem establish (id : SessionId) (message : Message) :
    Alike event past (plain.establish id message) (srv.establish id message) := by
  have differs : (ServerEvent.connectionEstablished id message .success).kind ≠ event.kind := by
    rw [asked]
    nofun
  have told := beside.heard differs
  rw [establish_eq, establish_eq, beside.roster]
  split
  · exact beside.refuse answering asked id message
  · unfold establishDirectly
    rw [emit_of_answering answering rfl, emit_of_answering (beside.answering answering) rfl,
      beside.answer differs]
    cases plain.answer (.connectionEstablished id message .success) with
    | error failure => exact ⟨told, rfl⟩
    | ok reply =>
      dsimp only
      cases reply.identity? with
      | none => exact ⟨told.transition id .doing .none, rfl⟩
      | some identity => exact told.bindIdentity (answering_heard answering _) asked id identity

end Answered

end Beside

/-- An identity that nobody holds is bound as if the server did not offer reconnection. -/
theorem beside_process (answering : srv.handlers.Answering)
    (active : srv.roster.isActive id = true) (free : srv.roster.association? id = some .none)
    (reconnection : srv.reconnection = true) (declines : srv.Declines id message)
    (transport : TransportKind) :
    Beside (.reconnectionRequest id message) srv.history
      (({ srv with reconnection := false } : Server).process
        ⟨.session id, .connectionRequest message, transport⟩)
      (srv.process ⟨.session id, .connectionRequest message, transport⟩) := by
  let plain : Server := { srv with reconnection := false }
  -- without reconnection nothing is offered, so there is nothing to decline
  have never : plain.Declines id message := nofun
  have started : Beside (.reconnectionRequest id message) srv.history (plain.begun id message)
      (srv.begun id message) := by
    refine ⟨[], srv.handlers.isRegistered .reconnectionRequest, rfl, ?_⟩
    unfold begun
    simp only [reconnection, plain, if_true, Bool.false_eq_true, if_false]
    unfold heard transition
    simp only [reconnection]
    rfl
  have answering' : plain.handlers.Answering := answering
  have idle : (plain.begun id message).handlers.Answering := answering_begun answering' id message
  rw [process_of_declines answering active free declines,
    process_of_declines answering' active free never]
  exact Beside.alike_contain (started.establish idle rfl id message) id

/-! ## Taking over -/

/-- An identity has moved from a live session to another one, and nothing else has happened. -/
structure TakenOver (srv after : Server) (identity : String) (id old : SessionId)
    (message : Message) : Prop where
  live : old ≠ id ∧ srv.roster.isActive old = true
  taker : after.roster.standing? id = some ⟨.done, some identity, true, none, true⟩
  found : after.roster.findIdentity? identity = some id
  loser : after.roster.standing? old = some ⟨.done, none, false, some .reconnected, true⟩
  ended : EndedOnce old .reconnected after
  forgotten : after.roster.Forgets old
  others : ∀ other, other ≠ id → other ≠ old →
    after.roster.standing? other = srv.roster.standing? other
  names : ∀ name, name ≠ identity →
    after.roster.findIdentity? name = srv.roster.findIdentity? name
  count : after.roster.identityCount = srv.roster.identityCount ∧
    after.roster.boundIdentities = srv.roster.boundIdentities
  /-- Nobody is asked for an identity after that. -/
  history : ∃ delivered, after.history =
    .event (.reconnectionResult id identity .success) delivered :: .closed old .reconnected ::
      .event (.reconnectionRequest id message) true :: srv.history

section TakingOver

variable {start : Server} {old : SessionId} {association : AssociationState}

/-- All that there is to say about the standing of an open session. -/
theorem Sound.standing_eq (sound : Sound start srv) (active : srv.roster.isActive id = true)
    (associated : srv.roster.association? id = some association) :
    srv.roster.standing? id = some ⟨association, srv.roster.bearing? id, true, none, true⟩ := by
  obtain ⟨s, hs, isActive⟩ := Roster.isActive_eq_true_iff.1 active
  have wiring : srv.roster.wiring? id = some s.wiring := congrArg (Option.map _) hs
  have unclosed : s.closeReason? = none := (sound.poised.wired id).unclosed _ wiring isActive
  have managed : s.isManaged = true := (sound.poised.wired id).managed _ wiring
  have bears : srv.roster.bearing? id = s.identity? := by rw [Roster.bearing?, hs]; rfl
  have state : s.association = association := by simpa [Roster.association?, hs] using associated
  rw [Roster.standing?, hs, bears, ← state]
  simp [Session.standing, isActive, unclosed, managed]

/-- In a run the holder of an identity that another session asks for is live. -/
theorem Sound.liveHolder (sound : Sound start srv)
    (free : srv.roster.association? id = some .none)
    (found : srv.roster.findIdentity? identity = some old) :
    srv.liveHolder? identity id = some old := by
  have member := Roster.mem_byIdentity_of_find found
  obtain ⟨active, -⟩ := (sound.exact.live.entries identity old).1 member
  have done := sound.exact.settled.indexed identity old member
  have differs : old ≠ id := by
    rintro rfl
    rw [free] at done
    cases done
  refine Option.filter_eq_some_iff.2 ⟨found, ?_⟩
  simp [active, differs]

/-- The server after a takeover was announced. -/
def taken (srv : Server) (identity : String) (id : SessionId) (message : Message) : Server :=
  ((srv.begun id message).takeOver identity id).heard (.reconnectionResult id identity .success)

section Taken

variable (held : srv.liveHolder? identity id = some old)
include held

theorem liveHolder?_begun (message : Message) :
    (srv.begun id message).liveHolder? identity id = some old := by
  unfold liveHolder? at held ⊢
  simpa only [findIdentity?_begun, isActive_begun] using held

theorem byIdentity_taken (message : Message) :
    (srv.taken identity id message).roster.byIdentity =
      setEntry srv.roster.byIdentity identity id := by
  unfold taken
  rw [roster_heard, byIdentity_takeOver (liveHolder?_begun held message), roster_begun,
    Roster.byIdentity_transition]

/-- The one session ends its attempt with the identity, the other loses it and is closed. -/
theorem standing?_taken (message : Message) (other : SessionId) :
    (srv.taken identity id message).roster.standing? other =
      if other = old then (srv.roster.standing? other).map fun t => t.disown.close .reconnected
      else if other = id then
        (srv.roster.standing? other).map fun t => (t.transition .none .doing).bind identity
      else srv.roster.standing? other := by
  have differs : old ≠ id := (liveHolder?_eq_some held).2.2
  unfold taken
  rw [roster_heard, standing?_takeOver (liveHolder?_begun held message), roster_begun,
    Roster.standing?_transition]
  by_cases isOld : other = old
  · simp [isOld, differs]
  · by_cases isTaker : other = id
    · simp [isTaker, Ne.symm differs, Function.comp_def]
    · simp [isOld, isTaker]

/-- Of what happens, the end of the other session is recorded after the question. -/
theorem effects_taken (managed : ∀ t, srv.roster.standing? old = some t → t.isManaged = true)
    (message : Message) :
    (srv.taken identity id message).roster.boundIdentities = srv.roster.boundIdentities ∧
      ∃ delivered, (srv.taken identity id message).history =
        .event (.reconnectionResult id identity .success) delivered ::
          .closed old .reconnected :: (srv.begun id message).history := by
  have managed' : ∀ t, (srv.begun id message).roster.standing? old = some t →
      t.isManaged = true := by
    intro t ht
    rw [roster_begun, Roster.standing?_transition, if_neg (liveHolder?_eq_some held).2.2] at ht
    exact managed t ht
  obtain ⟨-, bound, recorded⟩ := takeOver_effects (liveHolder?_begun held message) managed'
  have unbound : (srv.begun id message).roster.boundIdentities = srv.roster.boundIdentities := by
    rw [roster_begun]
    exact Roster.boundIdentities_transition _ _
  exact ⟨bound.trans unbound, _, congrArg (List.cons _) recorded⟩

end Taken

/-- A question that is answered was heard. -/
theorem history_begun {reply : EventReply} (reconnection : srv.reconnection = true)
    (answered : srv.answer (.reconnectionRequest id message) = .ok reply)
    (handled : reply ≠ .unhandled) :
    (srv.begun id message).history =
      .event (.reconnectionRequest id message) true :: srv.history := by
  have registered : srv.handlers.isRegistered .reconnectionRequest = true := by
    unfold answer at answered
    unfold HandlerTable.isRegistered
    cases found : srv.handlers.find? .reconnectionRequest with
    | some entry => rfl
    | none =>
      rw [show (ServerEvent.reconnectionRequest id message).kind = .reconnectionRequest from rfl,
        found] at answered
      exact absurd (Except.ok.inj answered).symm handled
  unfold begun
  simp only [reconnection, if_true]
  unfold heard
  rw [show (srv.transition id .none .doing).handlers.isRegistered
    (ServerEvent.reconnectionRequest id message).kind = true from registered]
  rfl

/-- Who is closed by a takeover was open, so its end was not reported before. -/
theorem EndedOnce.of_history (occurrences : List Occurrence) {after : Server}
    {reason : CloseReason} (live : Live .ready srv) (active : srv.roster.isActive id = true)
    (inactive : after.roster.isActive id = false)
    (history : after.history = occurrences ++ srv.history)
    (reported : (occurrences.reverse.filterMap Occurrence.closing?) = [(id, reason)]) :
    EndedOnce id reason after := by
  -- an end in the record is that of a session that is closed, which this one was not
  have unreported : srv.closings.filter (·.1 == id) = [] := by
    refine List.filter_eq_nil_iff.2 ?_
    rintro ⟨other, earlier⟩ member same
    obtain rfl : other = id := by simpa using same
    have ended := (live.ended other earlier (mem_history_of_mem_closings member)).2
    exact absurd (ended.symm.trans active) Bool.false_ne_true
  have closings : after.closings = srv.closings ++ [(id, reason)] := by
    unfold Server.closings
    rw [history, List.reverse_append, List.filterMap_append, reported]
  refine ⟨inactive, ?_⟩
  rw [closings, List.filter_append, unreported]
  simp

theorem takenOver_process (sound : Sound start srv) (active : srv.roster.isActive id = true)
    (free : srv.roster.association? id = some .none)
    (answered : srv.answer (.reconnectionRequest id message) = .ok (.identity (some identity)))
    (found : srv.roster.findIdentity? identity = some old) (transport : TransportKind) :
    TakenOver srv (srv.process ⟨.session id, .connectionRequest message, transport⟩)
      identity id old message := by
  have held := sound.liveHolder free found
  have next : Sound start (srv.process ⟨.session id, .connectionRequest message, transport⟩) :=
    sound.undertake (.operation (.process _))
  have processed : srv.process ⟨.session id, .connectionRequest message, transport⟩ =
      srv.taken identity id message :=
    process_of_taken sound.poised.answers.answering active free sound.poised.reconnection answered
      held transport
  rw [processed] at next ⊢
  -- the two sessions before, and what becomes of them
  have member := Roster.mem_byIdentity_of_find found
  obtain ⟨-, oldActive, differs⟩ := liveHolder?_eq_some held
  have unbound : srv.roster.bearing? id = none := sound.exact.settled.unbound id (by simp [free])
  have taker := sound.standing_eq active free
  have loser := sound.standing_eq oldActive (sound.exact.settled.indexed identity old member)
  have closed : (srv.taken identity id message).roster.standing? old =
      some ⟨.done, none, false, some .reconnected, true⟩ := by
    rw [standing?_taken held, if_pos rfl, loser]
    rfl
  have inactive : (srv.taken identity id message).roster.isActive old = false := by
    rw [Roster.isActive_eq_standing, closed]
    rfl
  have index := byIdentity_taken held message
  obtain ⟨bound, delivered, history⟩ :=
    effects_taken held (fun t ht => sound.exact.live.managed old t ht) message
  rw [history_begun sound.poised.reconnection answered (by simp)] at history
  refine ⟨⟨differs, oldActive⟩, ?_, ?_, closed, ?_,
    forgets_of_inactive next.exact.live (next.poised.wired old) inactive, ?_, ?_, ⟨?_, bound⟩,
    delivered, history⟩
  · rw [standing?_taken held, if_neg (Ne.symm differs), if_pos rfl, taker, unbound]
    rfl
  · rw [Roster.findIdentity?, index]
    exact lookup_setEntry_self
  · exact .of_history [_, _, _] sound.exact.live oldActive inactive history rfl
  · intro other elsewhere elsewhere'
    rw [standing?_taken held, if_neg elsewhere', if_neg elsewhere]
  · intro name elsewhere
    rw [Roster.findIdentity?, index, lookup_setEntry_of_ne elsewhere]
    rfl
  · rw [Roster.identityCount, index]
    exact length_setEntry_of_mem sound.exact.live.keys member

/-! ## After it -/

/-- Short of a takeover, nothing that is done with one session takes an identity from another that
is open. -/
theorem findIdentity?_use {use : Use} (found : srv.roster.findIdentity? identity = some id)
    (active : srv.roster.isActive id = true) (differs : id ≠ old) (short : use ≠ .rebind identity) :
    (srv.use old use).roster.findIdentity? identity = some id := by
  -- most uses do not touch the index of identities at all
  have untouched : (srv.use old use).roster.byIdentity = srv.roster.byIdentity →
      (srv.use old use).roster.findIdentity? identity = some id :=
    fun same => (congrArg (List.lookup identity) same).trans found
  cases use with
  | associate name => exact Roster.findIdentity?_associate_of_live found active differs
  | rebind name =>
    have elsewhere : identity ≠ name := by
      rintro rfl
      exact short rfl
    exact (Roster.findIdentity?_rebind_of_ne elsewhere).trans found
  | close reason =>
    change (srv.close old reason).2.roster.findIdentity? identity = some id
    rw [roster_close]
    exact Roster.findIdentity?_close_of_some found differs
  | write =>
    refine untouched ?_
    change (srv.write old).roster.byIdentity = srv.roster.byIdentity
    unfold write
    split <;> rfl
  | enqueue packet => exact untouched (sameStanding_enqueue srv old packet).byIdentity
  | transition source target => exact untouched (Roster.byIdentity_transition source target)
  | addDatagram channel => exact untouched (sameStanding_addDatagram srv old channel).byIdentity
  | addTunnel channel => exact untouched (sameStanding_addTunnel srv old channel).byIdentity
  | schedule => exact untouched (sameStanding_schedule srv old).byIdentity
  | activate | deactivate | attachSocket | attachWebSocket | attachDatagram | attachTunnel
  | setScheduled | setAwaiting => exact untouched rfl

/-- A session that lost an identity is closed for good, and nothing done with it reaches that. -/
structure Severed (srv : Server) (identity : String) (id old : SessionId) : Prop where
  ended : EndedOnce old .reconnected srv
  forgotten : srv.roster.Forgets old
  undertakings : ∀ undertaking, srv.Concerns old undertaking →
    (srv.undertake undertaking).roster.byIdentity = srv.roster.byIdentity ∧
      ∀ other, (srv.undertake undertaking).roster.standing? other = srv.roster.standing? other
  holder : srv.roster.isActive id = true →
    srv.roster.findIdentity? identity = some id ∧
      srv.roster.standing? id = some ⟨.done, some identity, true, none, true⟩ ∧
      (srv.roster.remove old).2.findIdentity? identity = some id ∧
      ∀ use, use ≠ .rebind identity → (srv.use old use).roster.findIdentity? identity = some id

theorem severed_of_ended (sound : Sound start srv) (ended : EndedOnce old .reconnected srv)
    (bears : Bears id identity srv) (differs : id ≠ old) : Severed srv identity id old where
  ended := ended
  forgotten := forgets_of_inactive sound.exact.live (sound.poised.wired old) ended.inactive
  undertakings undertaking concerns := by
    -- between operations no attempt is under way
    have idle : srv.roster.association? old ≠ some .doing := by
      intro doing
      have under := (sound.exact.settled.attempt old).1 doing
      cases under
    exact undertake_of_inactive sound.poised.answers idle ended.inactive concerns
  holder active := by
    have named := bears.bearing active
    have member := (sound.exact.live.entries identity id).2 ⟨active, named⟩
    have found : srv.roster.findIdentity? identity = some id :=
      lookup_of_mem sound.exact.live.keys member
    have standing := sound.standing_eq active bears.done
    rw [named] at standing
    exact ⟨found, standing, Roster.findIdentity?_remove_of_some found differs,
      fun use short => findIdentity?_use found active differs short⟩

/-- Whatever happens after a takeover, the two sessions stay apart. -/
theorem TakenOver.severed {after : Server} (taken : TakenOver srv after identity id old message)
    (sound : Sound start after) (more : List Undertaking) :
    Severed (after.undertakeAll more) identity id old := by
  have bears : Bears id identity after := by
    refine ⟨?_, fun _ => ?_⟩
    · rw [Roster.association?_eq_standing, taken.taker]
      rfl
    · rw [Roster.bearing?_eq_standing, taken.taker]
      rfl
  -- by induction on what follows; the two sessions depend on the invariant of the run
  have whole : Sound start (after.undertakeAll more) ∧
      EndedOnce old .reconnected (after.undertakeAll more) ∧
      Bears id identity (after.undertakeAll more) := by
    refine undertakeAll_preserves (P := fun later => Sound start later ∧
      EndedOnce old .reconnected later ∧ Bears id identity later) ?_ more
      ⟨sound, taken.ended, bears⟩
    rintro later undertaking ⟨sound, ended, bears⟩
    exact ⟨sound.undertake undertaking, ended.undertake sound.exact undertaking,
      bears.undertake sound.exact undertaking⟩
  obtain ⟨sound, ended, bears⟩ := whole
  exact severed_of_ended sound ended bears (Ne.symm taken.live.1)

end TakingOver

/-! ## Runs -/

/--
Reconnection in every run whose handlers only answer, where an open session that is in no attempt
asks for an identity. If the identity is another session's, it moves to the one that asks, be the
cap reached or not, and whatever the handler that is told of it answers; the other session is closed
and nothing leads to it. From then on nothing that is done with that session reaches the identity,
which stays where it is for as long as its new holder is open. If the identity is free, all goes as
if the server did not offer reconnection, but for the one question.
-/
theorem reconnection_moves_identity (plan : ServerPlan) (shardKey : RequestSender → Nat)
    (handlers : HandlerTable) (offers : plan.reconnection = true) (only : handlers.OnlyAnswers)
    (undertakings : List Undertaking) (id : SessionId) (message : Message)
    (transport : TransportKind) (identity : String) :
    let srv := (blank plan shardKey handlers).undertakeAll undertakings
    let request : Request := ⟨.session id, .connectionRequest message, transport⟩
    let after := srv.process request
    srv.roster.isActive id = true → srv.roster.association? id = some .none →
    srv.answer (.reconnectionRequest id message) = .ok (.identity (some identity)) →
    (∀ old, srv.roster.findIdentity? identity = some old →
      TakenOver srv after identity id old message ∧
        ∀ more, Severed (after.undertakeAll more) identity id old) ∧
    (srv.roster.findIdentity? identity = none →
      Beside (.reconnectionRequest id message) srv.history
        (({ srv with reconnection := false } : Server).process request) after) := by
  intro srv request after active free answered
  have sound : Sound (blank plan shardKey handlers) srv :=
    undertakeAll_preserves (P := Sound (blank plan shardKey handlers))
      (fun _ undertaking sound => sound.undertake undertaking) undertakings
      (sound_blank offers only)
  have next : Sound (blank plan shardKey handlers) after :=
    sound.undertake (.operation (.process request))
  constructor
  · intro old found
    have taken : TakenOver srv after identity id old message :=
      takenOver_process sound active free answered found transport
    exact ⟨taken, fun more => taken.severed next more⟩
  · intro absent
    have declines : srv.Declines id message := by
      refine fun _ => ⟨_, answered, ?_⟩
      rintro name ⟨⟩
      simp [liveHolder?, absent]
    exact beside_process sound.poised.answers.answering active free sound.poised.reconnection
      declines transport

/-- Everybody is given the same identity, and the handler that is told of a takeover panics. -/
def panicking : HandlerTable :=
  let answer : Handler := fun _ _ => { outcome := .ok (.identity (some "ann")) }
  let panic : Handler := fun _ _ => { outcome := .error .panicked }
  ((({} : HandlerTable).register .connectionEstablished answer).register .reconnectionRequest
    answer).register .reconnectionResult panic

/-- There are two streams, and the first gets an identity, a datagram path and a tunnel. -/
def settling : List Undertaking :=
  [.operation (.acceptStream {} .loopback), .operation (.acceptStream {} .loopback),
    .operation (.process ⟨.session 0, .connectionRequest .empty, .tcp⟩), .addDatagram 0 (.mk 3 5),
    .addTunnel 0 ⟨7, {}⟩]

/-- Session 0 finds the identity free; session 1 takes it over at the cap, and keeps it when
session 0 is closed once more and its end is reported. -/
theorem reconnection_moves_identity_settling :
    let start := blank { sessions := { maxIdentities := 1, tunnelEnabled := true } }
      RequestSender.number panicking
    let before := start.undertakeAll (settling.take 2)
    let srv := start.undertakeAll settling
    let after := srv.process ⟨.session 1, .connectionRequest .empty, .tcp⟩
    let later := after.undertakeAll [.operation (.close 0 .administrative),
      .operation (.process ⟨.session 0, .sessionClosed .reconnected, .tcp⟩)]
    Beside (.reconnectionRequest 0 .empty) before.history
        (({ before with reconnection := false } : Server).process
          ⟨.session 0, .connectionRequest .empty, .tcp⟩)
        (before.process ⟨.session 0, .connectionRequest .empty, .tcp⟩) ∧
      (srv.roster.atCapacity = true ∧ srv.roster.findConveyance? 5 = some 0 ∧
        srv.roster.findTunnel? 7 = some 0) ∧
      TakenOver srv after "ann" 1 0 .empty ∧ later.roster.isActive 1 = true ∧
      later.roster.findIdentity? "ann" = some 1 ∧ later.roster.Forgets 0 := by
  intro start before srv after later
  have only : panicking.OnlyAnswers := by
    intro entry member calls event
    -- whichever of the three it is, its list of actions is empty
    rcases List.mem_cons.1 member with rfl | member
    · rfl
    rcases List.mem_cons.1 member with rfl | member
    · rfl
    rcases List.mem_singleton.1 member with rfl
    rfl
  have moves := reconnection_moves_identity
    { sessions := { maxIdentities := 1, tunnelEnabled := true } } RequestSender.number panicking rfl
    only
  obtain ⟨-, free⟩ := moves (settling.take 2) 0 .empty .tcp "ann" rfl rfl rfl
  obtain ⟨taken, -⟩ := moves settling 1 .empty .tcp "ann" rfl rfl rfl
  obtain ⟨takenOver, severed⟩ := taken 0 rfl
  have rest := severed [.operation (.close 0 .administrative),
    .operation (.process ⟨.session 0, .sessionClosed .reconnected, .tcp⟩)]
  have wired : srv.roster.atCapacity = true ∧ srv.roster.findConveyance? 5 = some 0 ∧
      srv.roster.findTunnel? 7 = some 0 := by decide +kernel
  have active : later.roster.isActive 1 = true := by decide +kernel
  exact ⟨free rfl, wired, takenOver, active, (rest.holder active).1, rest.forgotten⟩

end Server

end SessionNet
