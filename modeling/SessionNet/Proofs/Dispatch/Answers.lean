import SessionNet.Proofs.Dispatch.Association

/-!
# Handlers that only answer

Where the handlers that decide on an attempt do nothing but answer, fail or panic, such an event
leaves the server as it was, with the event recorded and a call counted, and what the handler
answers can be read off the table in advance. The processing of a connection request then comes down
to a few cases: its offer to take over an identity fails, is taken or is declined, and one that is
declined is established.
-/

namespace SessionNet

/-- Whether an event asks for the identity of a session, or tells what came of one. -/
def EventKind.isOfAttempt : EventKind → Bool
  | .reconnectionRequest => true
  | .reconnectionResult => true
  | .connectionEstablished => true
  | .associationResult => true
  | _ => false

namespace HandlerTable

variable {t : HandlerTable} {kind other : EventKind}

/-- No handler that is asked or told about an attempt carries out an action. -/
def Answering (t : HandlerTable) : Prop :=
  ∀ entry ∈ t.entries, entry.kind.isOfAttempt = true →
    ∀ calls event, (entry.handler calls event).actions = []

/-- No handler carries out an action, whatever it is asked or told. -/
def OnlyAnswers (t : HandlerTable) : Prop :=
  ∀ entry ∈ t.entries, ∀ calls event, (entry.handler calls event).actions = []

theorem OnlyAnswers.answering (only : t.OnlyAnswers) : t.Answering :=
  fun entry member _ => only entry member

theorem OnlyAnswers.confined (only : t.OnlyAnswers) (mayClose : ServerEvent → SessionId → Prop) :
    t.Confined mayClose := by
  intro entry member calls event _ action performed
  rw [only entry member calls event] at performed
  cases performed

theorem OnlyAnswers.register {handler : Handler} (only : t.OnlyAnswers)
    (answers : ∀ calls event, (handler calls event).actions = []) :
    (t.register kind handler).OnlyAnswers := by
  intro entry member
  rcases List.mem_cons.1 member with rfl | earlier
  · exact answers
  · exact only entry (List.mem_filter.1 earlier).1

theorem OnlyAnswers.unregister (only : t.OnlyAnswers) : (t.unregister kind).2.OnlyAnswers :=
  fun entry member => only entry (List.mem_filter.1 member).1

/-- Counting a call keeps what is registered. -/
theorem exists_of_mem_countCall {entry : HandlerEntry}
    (member : entry ∈ (t.countCall kind).entries) :
    ∃ counted ∈ t.entries, counted.kind = entry.kind ∧ counted.handler = entry.handler := by
  obtain ⟨counted, hmember, rfl⟩ := List.mem_map.1 member
  refine ⟨counted, hmember, ?_⟩
  split <;> exact ⟨rfl, rfl⟩

theorem OnlyAnswers.countCall (only : t.OnlyAnswers) : (t.countCall kind).OnlyAnswers := by
  intro entry member
  obtain ⟨counted, hmember, -, same⟩ := exists_of_mem_countCall member
  exact same ▸ only counted hmember

theorem find?_countCall :
    (t.countCall kind).find? other =
      (t.find? other).map fun e =>
        if e.kind == kind then { e with calls := e.calls + 1 } else e := by
  unfold countCall find?
  rw [List.find?_map]
  refine congrArg _ (congrArg (List.find? · t.entries) ?_)
  funext entry
  simp only [Function.comp_apply]
  split <;> rfl

/-- Counting the calls of one handler shows in no other. -/
theorem find?_countCall_of_ne (differs : other ≠ kind) :
    (t.countCall kind).find? other = t.find? other := by
  rw [find?_countCall]
  cases found : t.find? other with
  | none => rfl
  | some entry =>
    have kept : entry.kind ≠ kind := (kind_of_find? found).2 ▸ differs
    simp [kept]

theorem countCall_of_not_registered (absent : t.find? kind = none) : t.countCall kind = t := by
  have others : ∀ entry ∈ t.entries, (entry.kind == kind) = false := by
    intro entry member
    simpa using List.find?_eq_none.1 absent entry member
  have same : (t.entries.map fun e =>
      if e.kind == kind then { e with calls := e.calls + 1 } else e) = t.entries := by
    refine (List.map_congr_left ?_).trans (List.map_id _)
    intro entry member
    simp [others entry member]
  unfold countCall
  rw [same]

theorem countCall_comm :
    (t.countCall kind).countCall other = (t.countCall other).countCall kind := by
  unfold countCall
  simp only [List.map_map]
  refine congrArg _ (List.map_congr_left ?_)
  intro entry _
  grind

theorem Answering.countCall (answering : t.Answering) : (t.countCall kind).Answering := by
  intro entry member part
  obtain ⟨counted, hmember, kind, same⟩ := exists_of_mem_countCall member
  exact same ▸ answering counted hmember (kind ▸ part)

end HandlerTable

namespace Roster

variable {r : Roster} {id holder : SessionId} {identity : String}

theorem transition_of_ne {source target : AssociationState}
    (differs : r.association? id ≠ some source) : (r.transition id source target).2 = r := by
  rw [transition_eq_update]
  refine update_of_fixed fun s hs => ?_
  have elsewhere : s.association ≠ source := by simpa [association?, hs] using differs
  simp [Session.transition, elsewhere]

/-- An attempt that falls back leaves no trace in the roster. -/
theorem transition_back (free : r.association? id = some .none) :
    ((r.transition id .none .doing).2.transition id .doing .none).2 = r := by
  obtain ⟨s, hs, unassociated⟩ := Option.map_eq_some_iff.1 free
  have fixed : (({ s with association := .doing } : Session).transition .doing .none).2 = s := by
    cases s
    simp_all [Session.transition]
  have begun : (s.transition .none .doing).2 = { s with association := .doing } := by
    simp [Session.transition, unassociated]
  calc ((r.transition id .none .doing).2.transition id .doing .none).2
      = r.update id fun s => ((s.transition .none .doing).2.transition .doing .none).2 := by
        rw [transition_eq_update, transition_eq_update]
        simp only [update, List.modify_modify_eq, Function.comp_def]
    _ = r := by
        refine update_of_fixed fun t present => ?_
        obtain rfl := Option.some.inj (hs.symm.trans present)
        rw [begun, fixed]

/-- Whatever comes of an association, it closes and opens nothing. -/
theorem isActive_associate (r : Roster) (identity : String) (id other : SessionId) :
    (r.associate identity id).2.isActive other = r.isActive other := by
  refine associate_preserves (P := fun r' => r'.isActive other = r.isActive other) rfl ?_ ?_ ?_
  · intro r' before
    rw [isActive_bind, before]
  · intro r' before
    rw [isActive_transition, before]
  · exact fun _ _ before => before

theorem associate_of_live (found : r.findIdentity? identity = some holder)
    (live : r.isActive holder = true) (differs : holder ≠ id) :
    r.associate identity id = (.duplicated, (r.transition id .doing .none).2) := by
  unfold associate
  simp [found, differs, live]

end Roster

namespace Server

variable {srv : Server} {event other : ServerEvent} {id : SessionId} {message : Message}
variable {identity : String} {reply : EventReply} {failure : HandlerFailure}

/-! ## Events -/

/-- How the handler of an event ends if that is the next to happen. -/
def answer (srv : Server) (event : ServerEvent) : Except HandlerFailure EventReply :=
  match srv.handlers.find? event.kind with
  | none => .ok .unhandled
  | some entry => (entry.handler entry.calls event).outcome

/-- The server after an event whose handler, if there is one, did nothing but answer. -/
def heard (srv : Server) (event : ServerEvent) : Server :=
  { srv.record (.event event (srv.handlers.isRegistered event.kind)) with
    handlers := srv.handlers.countCall event.kind }

theorem emit_of_idle (idle : ∀ entry, srv.handlers.find? event.kind = some entry →
    (entry.handler entry.calls event).actions = []) :
    srv.emit event = (srv.heard event, srv.answer event) := by
  unfold emit heard answer HandlerTable.isRegistered
  cases found : srv.handlers.find? event.kind with
  | none =>
    rw [HandlerTable.countCall_of_not_registered found]
    rfl
  | some entry => simp only [idle entry found, actAll, Option.isSome_some]

theorem emit_of_answering (answering : srv.handlers.Answering)
    (part : event.kind.isOfAttempt = true) :
    srv.emit event = (srv.heard event, srv.answer event) := by
  refine emit_of_idle ?_
  intro entry found
  obtain ⟨member, kind⟩ := HandlerTable.kind_of_find? found
  exact answering entry member (kind ▸ part) entry.calls event

theorem announce_of_answering (answering : srv.handlers.Answering)
    (part : event.kind.isOfAttempt = true) :
    srv.announce event = (srv.heard event, (srv.answer event).map fun _ => ()) := by
  unfold announce
  rw [emit_of_answering answering part]
  cases srv.answer event <;> rfl

theorem answering_heard (answering : srv.handlers.Answering) (event : ServerEvent) :
    (srv.heard event).handlers.Answering :=
  HandlerTable.Answering.countCall answering

theorem answer_heard_of_ne (differs : other.kind ≠ event.kind) :
    (srv.heard event).answer other = srv.answer other := by
  unfold answer heard
  dsimp only
  rw [HandlerTable.find?_countCall_of_ne differs]

@[simp] theorem roster_heard (srv : Server) (event : ServerEvent) :
    (srv.heard event).roster = srv.roster := rfl

/-- An event is recorded before everything that comes of it. -/
def Saw (srv after : Server) (event : ServerEvent) : Prop :=
  ∃ newer delivered, after.history = newer ++ srv.history ∧ .event event delivered ∈ newer

theorem saw_of_heard (middle : Server) {after : Server} (before : srv.history <:+ middle.history)
    (later : (middle.heard event).history <:+ after.history) : srv.Saw after event := by
  obtain ⟨older, hmiddle⟩ := before
  obtain ⟨newer, hafter⟩ := later
  refine ⟨newer ++ .event event (middle.handlers.isRegistered event.kind) :: older, _, ?_,
    List.mem_append_right _ List.mem_cons_self⟩
  calc after.history
      = newer ++ .event event (middle.handlers.isRegistered event.kind) :: middle.history :=
        hafter.symm
    _ = _ := by rw [← hmiddle, List.append_assoc, List.cons_append]

/-! ## Offers -/

theorem liveHolder?_transition (srv : Server) (identity : String) (id other : SessionId)
    (source target : AssociationState) :
    (srv.transition other source target).liveHolder? identity id = srv.liveHolder? identity id := by
  unfold liveHolder? Roster.findIdentity? transition
  simp only [Roster.byIdentity_transition, Roster.isActive_transition]

theorem offerReconnection_of_declined (answering : srv.handlers.Answering)
    (answered : srv.answer (.reconnectionRequest id message) = .ok reply)
    (free : ∀ identity, reply.identity? = some identity → srv.liveHolder? identity id = none) :
    srv.offerReconnection id message =
      (srv.heard (.reconnectionRequest id message), .ok false) := by
  unfold offerReconnection
  rw [emit_of_answering answering rfl, answered]
  dsimp only
  cases named : reply.identity? with
  | none => rfl
  | some identity =>
    have nobody : (srv.heard (.reconnectionRequest id message)).liveHolder? identity id = none :=
      free identity named
    simp [nobody]

/-- An offer that is taken moves the identity before this is announced. -/
theorem offerReconnection_of_taken {old : SessionId} (answering : srv.handlers.Answering)
    (answered : srv.answer (.reconnectionRequest id message) = .ok (.identity (some identity)))
    (live : srv.liveHolder? identity id = some old) :
    let moved := (srv.heard (.reconnectionRequest id message)).takeOver identity id
    srv.offerReconnection id message =
      (moved.heard (.reconnectionResult id identity .success),
        (moved.answer (.reconnectionResult id identity .success)).map fun _ => true) := by
  intro moved
  have held : (srv.heard (.reconnectionRequest id message)).liveHolder? identity id = some old :=
    live
  have remain : moved.handlers.Answering := by
    rw [handlers_takeOver]
    exact answering_heard answering _
  unfold offerReconnection
  rw [emit_of_answering answering rfl, answered]
  simp only [EventReply.identity?, held, Option.isNone_some, Bool.false_eq_true, if_false]
  rw [announce_of_answering remain rfl]
  cases moved.answer (.reconnectionResult id identity .success) <;> rfl

/-! ## Connection requests -/

/-- What is left of a request of a session: after a failure its attempt falls back. -/
def contain (id : SessionId) : Server × Except HandlerFailure Unit → Server
  | (srv, .error _) => srv.transition id .doing .none
  | (srv, .ok ()) => srv

/-- The request of a session takes no identity over: that is not offered, or declined. -/
def Declines (srv : Server) (id : SessionId) (message : Message) : Prop :=
  srv.reconnection = true → ∃ reply, srv.answer (.reconnectionRequest id message) = .ok reply ∧
    ∀ identity, reply.identity? = some identity → srv.liveHolder? identity id = none

/-- The server when the connection of a session is about to be established. -/
def begun (srv : Server) (id : SessionId) (message : Message) : Server :=
  let started := srv.transition id .none .doing
  if srv.reconnection then started.heard (.reconnectionRequest id message) else started

theorem process_connectionRequest (unassociated : srv.roster.association? id ≠ some .done)
    (message : Message) (transport : TransportKind) :
    srv.process ⟨.session id, .connectionRequest message, transport⟩ =
      contain id (srv.answerConnection id message) := by
  unfold process handle handleFrom
  dsimp only
  rw [if_neg unassociated]
  rcases srv.answerConnection id message with ⟨srv', _ | _⟩ <;> rfl

/-- An attempt begins if the session is active and has none behind it. -/
theorem answerConnection_of_free (active : srv.roster.isActive id = true)
    (free : srv.roster.association? id = some .none) (message : Message) :
    srv.answerConnection id message =
      let started := srv.transition id .none .doing
      if srv.reconnection then
        match started.offerReconnection id message with
        | (srv, .error failure) => (srv, .error failure)
        | (srv, .ok true) => (srv, .ok ())
        | (srv, .ok false) => srv.establish id message
      else started.establish id message := by
  unfold answerConnection
  simp only [active, free, Bool.not_true, Bool.false_eq_true, if_false, ne_eq, not_true_eq_false]
  rfl

theorem process_of_declines (answering : srv.handlers.Answering)
    (active : srv.roster.isActive id = true) (free : srv.roster.association? id = some .none)
    (declines : srv.Declines id message) (transport : TransportKind) :
    srv.process ⟨.session id, .connectionRequest message, transport⟩ =
      contain id ((srv.begun id message).establish id message) := by
  rw [process_connectionRequest (by simp [free]), answerConnection_of_free active free]
  unfold begun
  cases reconnection : srv.reconnection with
  | false => rfl
  | true =>
    obtain ⟨reply, answered, nobody⟩ := declines reconnection
    let started := srv.transition id .none .doing
    have free' : ∀ identity, reply.identity? = some identity →
        started.liveHolder? identity id = none := by
      intro identity named
      exact (liveHolder?_transition srv identity id id _ _).trans (nobody identity named)
    have declined : started.offerReconnection id message =
        (started.heard (.reconnectionRequest id message), .ok false) :=
      offerReconnection_of_declined answering answered free'
    dsimp only
    rw [if_pos rfl, if_pos rfl, declined]

theorem transition_of_ne {source target : AssociationState}
    (differs : srv.roster.association? id ≠ some source) :
    srv.transition id source target = srv := by
  rw [transition, Roster.transition_of_ne differs]

/-- A takeover is not undone, however the handler that is told of it ends. -/
theorem process_of_taken {old : SessionId} (answering : srv.handlers.Answering)
    (active : srv.roster.isActive id = true) (free : srv.roster.association? id = some .none)
    (reconnection : srv.reconnection = true)
    (answered : srv.answer (.reconnectionRequest id message) = .ok (.identity (some identity)))
    (live : srv.liveHolder? identity id = some old) (transport : TransportKind) :
    srv.process ⟨.session id, .connectionRequest message, transport⟩ =
      ((srv.begun id message).takeOver identity id).heard
        (.reconnectionResult id identity .success) := by
  let started := srv.transition id .none .doing
  have held : started.liveHolder? identity id = some old :=
    (liveHolder?_transition srv identity id id _ _).trans live
  have begun : srv.begun id message = started.heard (.reconnectionRequest id message) := by
    unfold Server.begun
    simp only [reconnection, if_true]
    rfl
  have answering' : started.handlers.Answering := answering
  have taken := offerReconnection_of_taken answering' answered held
  dsimp only at taken
  rw [process_connectionRequest (by simp [free]), answerConnection_of_free active free, begun]
  simp only [reconnection, if_true]
  rw [show srv.transition id .none .doing = started from rfl, taken]
  cases ((started.heard (.reconnectionRequest id message)).takeOver identity id).answer
    (.reconnectionResult id identity .success) with
  | ok reply => rfl
  | error failure =>
    -- the attempt is done by now, so there is nothing to fall back from
    have held' : (started.heard (.reconnectionRequest id message)).liveHolder? identity id =
        some old := held
    have doing : (started.heard (.reconnectionRequest id message)).roster.association? id =
        some .doing := (Roster.association?_transition _ _).trans (by simp [free])
    have done : (((started.heard (.reconnectionRequest id message)).takeOver identity id).heard
        (.reconnectionResult id identity .success)).roster.association? id = some .done :=
      (association?_takeOver held').trans (if_pos ⟨rfl, doing⟩)
    exact transition_of_ne (by rw [done]; decide)

section Begun

theorem answering_begun (answering : srv.handlers.Answering) (id : SessionId) (message : Message) :
    (srv.begun id message).handlers.Answering := by
  unfold begun
  dsimp only
  split
  · exact answering_heard answering _
  · exact answering

theorem roster_begun (srv : Server) (id : SessionId) (message : Message) :
    (srv.begun id message).roster = (srv.roster.transition id .none .doing).2 := by
  unfold begun
  dsimp only
  split <;> rfl

theorem answer_begun (differs : event.kind ≠ .reconnectionRequest) :
    (srv.begun id message).answer event = srv.answer event := by
  unfold begun
  dsimp only
  split
  · exact answer_heard_of_ne differs
  · rfl

theorem atCapacity_begun (srv : Server) (id : SessionId) (message : Message) :
    (srv.begun id message).roster.atCapacity = srv.roster.atCapacity := by
  rw [roster_begun, Roster.transition_eq_update]
  rfl

theorem findIdentity?_begun (srv : Server) (id : SessionId) (message : Message)
    (identity : String) :
    (srv.begun id message).roster.findIdentity? identity = srv.roster.findIdentity? identity := by
  unfold Roster.findIdentity?
  rw [roster_begun, Roster.byIdentity_transition]

theorem isActive_begun (srv : Server) (id : SessionId) (message : Message) (other : SessionId) :
    (srv.begun id message).roster.isActive other = srv.roster.isActive other := by
  rw [roster_begun, Roster.isActive_transition]

/-- An attempt that falls back at once leaves no trace in the roster. -/
theorem fallBack_begun (free : srv.roster.association? id = some .none) (message : Message) :
    ((srv.begun id message).roster.transition id .doing .none).2 = srv.roster := by
  rw [roster_begun]
  exact Roster.transition_back free

/-- What an attempt sees comes after the request that began it. -/
theorem Saw.of_begun {after : Server} (saw : (srv.begun id message).Saw after event) :
    srv.Saw after event := by
  have earlier : srv.history <:+ (srv.begun id message).history := by
    unfold begun
    dsimp only
    split
    · exact List.suffix_cons _ _
    · exact List.suffix_rfl
  obtain ⟨newer, delivered, split, member⟩ := saw
  obtain ⟨asks, before⟩ := earlier
  exact ⟨newer ++ asks, delivered, by rw [split, List.append_assoc, before],
    List.mem_append_left _ member⟩

end Begun

end Server

end SessionNet
