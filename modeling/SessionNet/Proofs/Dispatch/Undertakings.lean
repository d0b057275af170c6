import SessionNet.Proofs.Dispatch.Answers
import SessionNet.Proofs.Dispatch.Effects
import SessionNet.Proofs.Dispatch.Handover
import SessionNet.Proofs.Server.Rewiring

/-!
# Runs with channels

The runs of a server in which sessions also get datagram paths and tunnels from outside, and in
which handlers only answer. Between the operations of such a run the index of identities is exact,
every entry under a channel id leads to an active session with that channel, and the handlers still
only answer. Whoever bears an identity bears it for as long as it is open.
-/

namespace SessionNet

/-- An operation of a server, or a channel that is given to a session. -/
inductive Undertaking where
  | operation (operation : Operation)
  | addDatagram (id : SessionId) (channel : DatagramChannel)
  | addTunnel (id : SessionId) (channel : TunnelChannel)

namespace Server

/-- The server after an undertaking; one that fails leaves it as it was. -/
def undertake (srv : Server) : Undertaking → Server
  | .operation operation => srv.step operation
  | .addDatagram id channel => srv.addDatagram id channel
  | .addTunnel id channel => (srv.addTunnel id channel).1

/-- The server after undertakings in order. -/
def undertakeAll (srv : Server) (undertakings : List Undertaking) : Server :=
  undertakings.foldl undertake srv

variable {srv srv' : Server} {id other : SessionId} {identity : String} {request : Request}
variable {undertaking : Undertaking}

theorem undertakeAll_preserves {P : Server → Prop}
    (hundertake : ∀ srv undertaking, P srv → P (srv.undertake undertaking))
    (undertakings : List Undertaking) (h : P srv) : P (srv.undertakeAll undertakings) := by
  induction undertakings generalizing srv with
  | nil => exact h
  | cons first rest ih => exact ih (hundertake srv first h)

/-! ## Channels and handlers -/

/-- A server that offers reconnection, with handlers that only answer and no stray entry. -/
structure Poised (srv : Server) : Prop where
  answers : srv.handlers.OnlyAnswers
  reconnection : srv.reconnection = true
  wired : ∀ id, srv.roster.Wired id

theorem reconnection_close (srv : Server) (id : SessionId) (reason : CloseReason) :
    (srv.close id reason).2.reconnection = srv.reconnection := by
  rcases exists_close_eq srv id reason with ⟨_, _, _, heq⟩
  rw [heq]

namespace Poised

/-- A change of the roster, and of what concerns neither handlers nor reconnection. -/
theorem rewire (poised : Poised srv) (wired : ∀ id, srv'.roster.Wired id)
    (handlers : srv'.handlers = srv.handlers)
    (reconnection : srv'.reconnection = srv.reconnection) : Poised srv' where
  answers := handlers ▸ poised.answers
  reconnection := reconnection.trans poised.reconnection
  wired := wired

theorem close (poised : Poised srv) (id : SessionId) (reason : CloseReason) :
    Poised (srv.close id reason).2 :=
  poised.rewire (Roster.Wired.rewirings poised.wired (rewirings_close srv id reason))
    (handlers_close srv id reason) (reconnection_close srv id reason)

theorem deed {spoken : ServerEvent → Prop} {heard : DatagramPeer → Prop} (poised : Poised srv)
    (deed : Deed spoken heard srv srv') :
    Poised srv' := by
  have wired := Roster.Wired.rewirings poised.wired (rewirings_deed deed)
  cases deed with
  | event event delivered _ => exact poised.rewire wired rfl rfl
  | called kind => exact ⟨poised.answers.countCall, poised.reconnection, wired⟩
  | unregister kind => exact ⟨poised.answers.unregister, poised.reconnection, wired⟩
  | send id message =>
    obtain ⟨⟨_, _, _, sent⟩, -⟩ := srv.exists_send_eq id message
    rw [sent] at wired ⊢
    exact poised.rewire wired rfl rfl
  | sendDatagram id message =>
    obtain ⟨-, ⟨_, _, _, sent⟩⟩ := srv.exists_send_eq id message
    rw [sent] at wired ⊢
    exact poised.rewire wired rfl rfl
  | transition id source target => exact poised.rewire wired rfl rfl
  | close id reason => exact poised.close id reason
  | associate identity id => exact poised.rewire wired rfl rfl
  | @takeOver identity id old live =>
    rw [takeOver_eq live] at wired ⊢
    exact poised.rewire wired (handlers_close _ _ _) (reconnection_close _ _ _)
  | grantPath peer identity =>
    rcases srv.grantPath_cases peer identity with ⟨_, same⟩ | ⟨_, _, _, _, -, -, granted⟩
    · rw [same] at wired ⊢
      exact poised.rewire wired rfl rfl
    · rw [granted] at wired ⊢
      exact poised.rewire wired rfl rfl
  | reply peer access conveyance =>
    obtain ⟨_, replied⟩ := srv.exists_replyToHandshake_eq peer access conveyance
    rw [replied] at wired ⊢
    exact poised.rewire wired rfl rfl

theorem process (poised : Poised srv) (request : Request) : Poised (srv.process request) :=
  (deeds_process srv request).preserves (fun _ _ deed poised => poised.deed deed) poised

theorem shardStep (poised : Poised srv) (shard : Nat) : Poised (srv.shardStep shard) := by
  rcases shardStep_cases srv shard with same | ⟨queued, dispatcher, after, -, rfl, heq⟩
  · rwa [same]
  · have taken : Poised { srv with dispatcher } := poised.rewire poised.wired rfl rfl
    have processed := taken.process queued.request
    rw [heq]
    exact processed.rewire processed.wired rfl rfl

theorem step (poised : Poised srv) (operation : Operation) : Poised (srv.step operation) := by
  have wired := Roster.Wired.rewirings poised.wired (rewirings_step srv operation)
  cases operation with
  | openWebSocket sink remote =>
    cases made : srv.createWebSocket sink remote with
    | error e => simpa only [Server.step, made] using poised
    | ok result =>
      obtain ⟨_, _, -, -, opened⟩ := admitSession_eq_ok made
      simp only [Server.step, made] at wired ⊢
      rw [opened] at wired ⊢
      exact poised.rewire wired rfl rfl
  | acceptStream stream remote =>
    cases accepted : srv.acceptStream stream remote with
    | error e => simpa only [Server.step, accepted] using poised
    | ok result =>
      obtain ⟨after, admitted, ended⟩ := acceptStream_eq_ok accepted
      obtain ⟨_, _, -, -, rfl⟩ := admitSession_eq_ok admitted
      simp only [Server.step, accepted] at wired ⊢
      rcases ended with ended | ended
      · rw [ended] at wired ⊢
        exact poised.rewire wired (handlers_close _ _ _) (reconnection_close _ _ _)
      · rw [ended] at wired ⊢
        exact poised.rewire wired rfl rfl
  | submit id message transport =>
    obtain ⟨_, _, submitted⟩ := srv.exists_submit_eq id message transport
    have stepped : srv.step (.submit id message transport) = _ := submitted
    rw [stepped] at wired ⊢
    exact poised.rewire wired rfl rfl
  | process request => exact poised.process request
  | shardStep shard => exact poised.shardStep shard
  | close id reason => exact poised.close id reason
  | closeAll reason => exact closeAll_preserves (fun _ id poised => poised.close id reason) poised
  | start => exact poised.rewire wired rfl rfl
  | stop => exact poised.rewire wired rfl rfl

theorem undertake (poised : Poised srv) (undertaking : Undertaking) :
    Poised (srv.undertake undertaking) := by
  cases undertaking with
  | operation operation => exact poised.step operation
  | addDatagram id channel =>
    change Poised (srv.addDatagram id channel)
    rcases srv.addDatagram_cases id channel with same | ⟨roster, added, attached⟩
    · rwa [same]
    · rw [attached]
      exact poised.rewire (Roster.Wired.addDatagram poised.wired added) rfl rfl
  | addTunnel id channel =>
    change Poised (srv.addTunnel id channel).1
    rcases srv.addTunnel_cases id channel with same | ⟨roster, readers, added, attached⟩
    · rwa [same]
    · rw [attached]
      exact poised.rewire (Roster.Wired.addTunnel poised.wired added) rfl rfl

end Poised

/-! ## Who bears an identity -/

theorem sameStanding_addDatagram (srv : Server) (id : SessionId) (channel : DatagramChannel) :
    SameStanding srv (srv.addDatagram id channel) := by
  rcases srv.addDatagram_cases id channel with same | ⟨roster, added, attached⟩
  · rw [same]
    exact .refl srv
  · obtain ⟨s, -, -, -, rfl⟩ := Roster.addDatagram_eq_ok added
    have changed := sameStanding_update srv id (f := fun s => { s with datagram? := some channel })
      fun _ => rfl
    rw [attached]
    exact ⟨changed.standing, changed.length, rfl, rfl, rfl, rfl, rfl, rfl, rfl, changed.handlers⟩

theorem sameStanding_addTunnel (srv : Server) (id : SessionId) (channel : TunnelChannel) :
    SameStanding srv (srv.addTunnel id channel).1 := by
  rcases srv.addTunnel_cases id channel with same | ⟨roster, readers, added, attached⟩
  · rw [same]
    exact .refl srv
  · obtain ⟨s, -, -, -, rfl⟩ := Roster.addTunnel_eq_ok added
    have changed := sameStanding_update srv id (f := fun s => { s with tunnel? := some channel })
      fun _ => rfl
    rw [attached]
    exact ⟨changed.standing, changed.length, rfl, rfl, rfl, rfl, rfl, rfl, rfl, changed.handlers⟩

/-- An undertaking is a sequence of moves. -/
theorem moves_undertake (srv : Server) (undertaking : Undertaking) :
    Moves True srv (srv.undertake undertaking) := by
  cases undertaking with
  | operation operation => exact moves_step srv fun _ _ => trivial
  | addDatagram id channel => exact .single (.aside (sameStanding_addDatagram srv id channel))
  | addTunnel id channel => exact .single (.aside (sameStanding_addTunnel srv id channel))

/-- What moves keep as long as the indexes are exact, an undertaking keeps. -/
theorem undertake_preserves {P : Server → Prop} {start : Server}
    (moves : ∀ a b, Move True a b → P a → Exact start a → P b) (h : P srv)
    (exact : Exact start srv) (undertaking : Undertaking) : P (srv.undertake undertaking) :=
  ((moves_undertake srv undertaking).preserves (P := fun later => P later ∧ Exact start later)
    (fun a b move both => ⟨moves a b move both.1 both.2, both.2.move move⟩) ⟨h, exact⟩).1

theorem Kept.active_before (kept : Kept srv srv') (active : srv'.roster.isActive id = true) :
    srv.roster.isActive id = true := by
  rw [Roster.isActive_eq_standing, Option.any_eq_true] at active
  obtain ⟨t', ht', active'⟩ := active
  obtain ⟨t, ht, rel⟩ := kept.standing_before ht'
  rw [Roster.isActive_eq_standing, ht, Option.any_some]
  cases hactive : t.isActive with
  | true => rfl
  | false => simp [rel.closed hactive] at active'

/-- A session keeps what it bears in every step that leaves it open. -/
theorem bearing_of_active {mayClose : ServerEvent → SessionId → Prop} {a b : Stage × Server}
    (step : Step mayClose request a b) (settled : Settled a.1 a.2.roster) (live : Live a.1 a.2)
    (bears : a.2.roster.bearing? id = some identity) (active : b.2.roster.isActive id = true) :
    b.2.roster.bearing? id = some identity := by
  rcases bearing_of_step step settled live bears with still | ⟨taker, differs, bound⟩
  · exact still
  · -- it is not the session that an identity was bound to, so it is the one that lost it
    cases step with
    | takeOver held =>
      cases bound
      rename_i srv old
      by_cases isOld : id = old
      · simp [isOld, isActive_takeOver held] at active
      · simp [bearing?_takeOver held, isOld, Ne.symm differs, bears]
    | associate success =>
      cases bound
      rename_i srv
      obtain ⟨_, -, -, heq⟩ | ⟨-, heq⟩ := Roster.associate_of_success success
      · simp [heq, Roster.bearing?_bind, Ne.symm differs, bears]
      · have kept : ({ srv.roster with boundIdentities := srv.roster.boundIdentities + 1 } :
            Roster).bearing? id = some identity := bears
        simp [heq, Roster.bearing?_bind, Ne.symm differs, kept]
    | _ => cases bound

/-- A session is associated, and as long as it is open it bears an identity. -/
structure Bears (id : SessionId) (identity : String) (srv : Server) : Prop where
  done : srv.roster.association? id = some .done
  bearing : srv.roster.isActive id = true → srv.roster.bearing? id = some identity

namespace Bears

variable {direct : Prop} {start : Server}

theorem process (bears : Bears id identity srv) (exact : Exact start srv) (request : Request) :
    Bears id identity (srv.process request) := by
  have path : Path ServerEvent.Spares request (.ready, srv) (.over, srv.process request) :=
    process_path exact.confined
  -- a step needs that the index is exact before it, so that is carried along the path
  have whole : Settled .over (srv.process request).roster ∧ Live .over (srv.process request) ∧
      Bears id identity (srv.process request) := by
    refine path.preserves (P := fun stage later => Settled stage later.roster ∧ Live stage later ∧
      Bears id identity later) ?_ ⟨exact.settled, exact.live, bears⟩
    rintro a b step ⟨settled, live, bears⟩
    refine ⟨settled.step step, live.step step settled, (Kept.of_step step).done bears.done, ?_⟩
    intro active
    have before := bears.bearing ((Kept.of_step step).active_before active)
    exact bearing_of_active step settled live before active
  exact whole.2.2

theorem move (move : Move direct srv srv') (bears : Bears id identity srv)
    (exact : Exact start srv) : Bears id identity srv' := by
  cases move with
  | opening opened =>
    -- numbers are not given twice, so the new session is not this one
    have old : id ≠ srv.roster.sessions.length := by
      rintro rfl
      have done := bears.done
      simp [Roster.association?_eq_standing, Roster.standing?_length] at done
    refine ⟨opened.association_of_done bears.done, ?_⟩
    intro active
    rw [opened.isActive, if_neg old] at active
    exact (opened.bearing id).trans (bears.bearing active)
  | aside same =>
    refine ⟨((Thinned.of_sameStanding same).association id).trans bears.done, ?_⟩
    intro active
    rw [same.isActive] at active
    exact ((Thinned.of_sameStanding same).bearing id).trans (bears.bearing active)
  | accept => exact ⟨bears.done, bears.bearing⟩
  | process request => exact bears.process exact request
  | shardStep shard =>
    rcases shardStep_cases srv shard with same | ⟨queued, dispatcher, after, -, rfl, heq⟩
    · rwa [same]
    · have taken : Bears id identity { srv with dispatcher } := ⟨bears.done, bears.bearing⟩
      have processed := taken.process (exact.dispatch dispatcher) queued.request
      rw [heq]
      exact ⟨processed.done, processed.bearing⟩
  | close other reason =>
    refine ⟨?_, ?_⟩
    · rw [roster_close, Roster.association?_close]
      exact bears.done
    · intro active
      rw [roster_close, Roster.isActive_close, Bool.and_eq_true] at active
      rw [roster_close, Roster.bearing?_close]
      exact bears.bearing active.2
  | turn => exact ⟨bears.done, bears.bearing⟩

end Bears

/-- What holds throughout a run whose handlers only answer. -/
structure Sound (start srv : Server) : Prop where
  poised : Poised srv
  exact : Exact start srv

theorem Sound.undertake {start : Server} (sound : Sound start srv) (undertaking : Undertaking) :
    Sound start (srv.undertake undertaking) where
  poised := sound.poised.undertake undertaking
  exact := (moves_undertake srv undertaking).preserves (fun _ _ move exact => exact.move move)
    sound.exact

theorem wired_blank (plan : ServerPlan) (shardKey : RequestSender → Nat) (handlers : HandlerTable)
    (id : SessionId) : (blank plan shardKey handlers).roster.Wired id := by
  have absent : (blank plan shardKey handlers).roster.wiring? id = none := by
    simp [blank, create, Roster.wiring?, Roster.session?]
  exact ⟨by simp [absent], by simp [absent], fun _ member => absurd member List.not_mem_nil,
    fun _ member => absurd member List.not_mem_nil⟩

theorem sound_blank {plan : ServerPlan} {shardKey : RequestSender → Nat} {handlers : HandlerTable}
    (offers : plan.reconnection = true) (only : handlers.OnlyAnswers) :
    Sound (blank plan shardKey handlers) (blank plan shardKey handlers) where
  poised := ⟨only, offers, wired_blank plan shardKey handlers⟩
  exact := exact_blank (only.confined _)

theorem Bears.undertake {start : Server} (bears : Bears id identity srv) (exact : Exact start srv)
    (undertaking : Undertaking) : Bears id identity (srv.undertake undertaking) :=
  undertake_preserves (fun _ _ move bears exact => bears.move move exact) bears exact undertaking

/-! ## Closed sessions -/

/-- Something that is done with a session, or that comes of a request of that session. -/
def Concerns (srv : Server) (id : SessionId) : Undertaking → Prop
  | .operation (.submit other _ _) => other = id
  | .operation (.process request) => request.sender = .session id
  | .operation (.shardStep shard) => ∃ queued dispatcher,
      srv.dispatcher.takeFrom shard = some (queued, dispatcher) ∧
        queued.request.sender = .session id
  | .operation (.close other _) => other = id
  | .operation _ => False
  | .addDatagram other _ => other = id
  | .addTunnel other _ => other = id

theorem emit_of_onlyAnswers (only : srv.handlers.OnlyAnswers) (event : ServerEvent) :
    srv.emit event = (srv.heard event, srv.answer event) := by
  refine emit_of_idle ?_
  intro entry found
  exact only entry (HandlerTable.kind_of_find? found).1 entry.calls event

theorem announce_of_onlyAnswers (only : srv.handlers.OnlyAnswers) (event : ServerEvent) :
    (srv.announce event).1 = srv.heard event := by
  rw [announce_eq, emit_of_onlyAnswers only]

/-- A message of a closed session is dropped, and the report of its end changes nothing. -/
theorem roster_handle_of_inactive (only : srv.handlers.OnlyAnswers)
    (inactive : srv.roster.isActive id = false) (kind : RequestKind) (transport : TransportKind) :
    (srv.handle ⟨.session id, kind, transport⟩).1.roster = srv.roster := by
  have dropped : ∀ message, (srv.deliverMessage id message transport).1 = srv := by
    intro message
    unfold deliverMessage
    cases hs : srv.session? id with
    | none => rfl
    | some s =>
      have closed : s.isActive = false := (isActive_of_session hs).symm.trans inactive
      simp [closed]
  unfold handle handleFrom
  cases kind with
  | connectionRequest message =>
    dsimp only
    split
    · rw [dropped]
    · unfold answerConnection
      simp [inactive]
  | sessionMessage message =>
    dsimp only
    rw [dropped]
  | datagramHandshake message => rfl
  | sessionClosed reason =>
    dsimp only
    rw [announce_of_onlyAnswers only]
    rfl

theorem roster_process_of_inactive (only : srv.handlers.OnlyAnswers)
    (idle : srv.roster.association? id ≠ some .doing) (inactive : srv.roster.isActive id = false)
    (sender : request.sender = .session id) : (srv.process request).roster = srv.roster := by
  obtain ⟨_, kind, transport⟩ := request
  obtain rfl : _ = RequestSender.session id := sender
  have handled := roster_handle_of_inactive only inactive kind transport
  unfold process
  rcases hresult : srv.handle ⟨.session id, kind, transport⟩ with ⟨srv', _ | _⟩ <;>
    rw [hresult] at handled
  · -- there is no attempt that could fall back
    have fallen : (srv'.transition id .doing .none).roster =
        (srv.roster.transition id .doing .none).2 := by rw [← handled]; rfl
    exact fallen.trans (Roster.transition_of_ne idle)
  · exact handled

theorem standing?_submit (srv : Server) (id : SessionId) (message : Message)
    (transport : TransportKind) (other : SessionId) :
    (srv.submit id message transport).1.roster.standing? other = srv.roster.standing? other := by
  obtain ⟨count, dispatcher, submitted⟩ := srv.exists_submit_eq id message transport
  rw [submitted]
  exact Roster.standing?_update_keeping fun _ => rfl

theorem byIdentity_submit (srv : Server) (id : SessionId) (message : Message)
    (transport : TransportKind) :
    (srv.submit id message transport).1.roster.byIdentity = srv.roster.byIdentity := by
  obtain ⟨count, dispatcher, submitted⟩ := srv.exists_submit_eq id message transport
  rw [submitted]
  rfl

/-- Whatever is done with a closed session: who bears what, and who is found, stays. -/
theorem undertake_of_inactive (only : srv.handlers.OnlyAnswers)
    (idle : srv.roster.association? id ≠ some .doing) (inactive : srv.roster.isActive id = false)
    (concerns : srv.Concerns id undertaking) :
    (srv.undertake undertaking).roster.byIdentity = srv.roster.byIdentity ∧
      ∀ other, (srv.undertake undertaking).roster.standing? other = srv.roster.standing? other := by
  have unchanged : (srv.undertake undertaking).roster = srv.roster →
      (srv.undertake undertaking).roster.byIdentity = srv.roster.byIdentity ∧
        ∀ other, (srv.undertake undertaking).roster.standing? other =
          srv.roster.standing? other := by
    intro same
    rw [same]
    exact ⟨rfl, fun _ => rfl⟩
  cases undertaking with
  | addDatagram other channel =>
    have same := sameStanding_addDatagram srv other channel
    exact ⟨same.byIdentity, same.standing⟩
  | addTunnel other channel =>
    have same := sameStanding_addTunnel srv other channel
    exact ⟨same.byIdentity, same.standing⟩
  | operation operation =>
    cases operation with
    | submit other message transport =>
      exact ⟨byIdentity_submit srv other message transport,
        standing?_submit srv other message transport⟩
    | process request => exact unchanged (roster_process_of_inactive only idle inactive concerns)
    | shardStep shard =>
      obtain ⟨queued, dispatcher, taken, sender⟩ := concerns
      have processed : (({ srv with dispatcher } : Server).process queued.request).roster =
          srv.roster := roster_process_of_inactive only idle inactive sender
      refine unchanged ?_
      simpa only [undertake, step, Server.shardStep, taken] using processed
    | close other reason =>
      obtain rfl : other = id := concerns
      exact unchanged (congrArg roster (close_of_not_active inactive))
    | openWebSocket | acceptStream | closeAll | start | stop => exact concerns.elim

theorem mem_history_of_mem_closings {reason : CloseReason}
    (reported : (id, reason) ∈ srv.closings) : .closed id reason ∈ srv.history := by
  obtain ⟨occurrence, recorded, same⟩ := List.mem_filterMap.1 reported
  cases occurrence with
  | event event delivered => cases same
  | closed id' reason' =>
    obtain ⟨rfl, rfl⟩ := Prod.mk.inj (Option.some.inj same)
    exact List.mem_reverse.1 recorded

/-- The end of a session was reported once, and the session is not open. -/
structure EndedOnce (id : SessionId) (reason : CloseReason) (srv : Server) : Prop where
  inactive : srv.roster.isActive id = false
  closings : srv.closings.filter (·.1 == id) = [(id, reason)]

namespace EndedOnce

variable {reason : CloseReason}

theorem congr (ended : EndedOnce id reason srv)
    (inactive : srv'.roster.isActive id = srv.roster.isActive id)
    (history : srv'.history = srv.history) : EndedOnce id reason srv' where
  inactive := inactive.trans ended.inactive
  closings := by
    rw [Server.closings, history]
    exact ended.closings

theorem sameStanding (ended : EndedOnce id reason srv) (same : SameStanding srv srv') :
    EndedOnce id reason srv' :=
  ended.congr (same.isActive id) same.history

/-- Closing it again does nothing, and closing another one reports another one. -/
theorem close (ended : EndedOnce id reason srv) (other : SessionId) (reason' : CloseReason) :
    EndedOnce id reason (srv.close other reason').2 := by
  by_cases same : other = id
  · subst same
    rwa [close_of_not_active ended.inactive]
  · have inactive : (srv.close other reason').2.roster.isActive id = false := by
      rw [roster_close, Roster.isActive_close, ended.inactive, Bool.and_false]
    rcases history_close srv other reason' with kept | grown
    · refine ⟨inactive, ?_⟩
      rw [Server.closings, kept]
      exact ended.closings
    · have reported : (srv.close other reason').2.closings =
          srv.closings ++ [(other, reason')] := by
        rw [Server.closings, grown]
        exact closings_record srv (.closed other reason')
      refine ⟨inactive, ?_⟩
      rw [reported, List.filter_append, ended.closings]
      simp [same]

theorem deed {spoken : ServerEvent → Prop} {heard : DatagramPeer → Prop}
    (ended : EndedOnce id reason srv) (deed : Deed spoken heard srv srv') :
    EndedOnce id reason srv' := by
  cases deed with
  | event event delivered _ =>
    have reported := closings_record srv (.event event delivered)
    refine ⟨ended.inactive, ?_⟩
    rw [reported]
    exact (congrArg (List.filter _) (List.append_nil _)).trans ended.closings
  | called kind => exact ended.congr rfl rfl
  | unregister kind => exact ended.congr rfl rfl
  | send id message => exact ended.sameStanding (sameStanding_send srv id message)
  | sendDatagram id message => exact ended.sameStanding (sameStanding_sendDatagram srv id message)
  | transition id source target => exact ended.congr (Roster.isActive_transition _ _) rfl
  | close id reason => exact ended.close id reason
  | associate identity id => exact ended.congr (Roster.isActive_associate _ _ _ _) rfl
  | @takeOver identity taker old live =>
    have moved : EndedOnce id reason (srv.moved identity taker old) :=
      ended.congr (Roster.isActive_disown.trans Roster.isActive_bind) rfl
    rw [takeOver_eq live]
    exact moved.close old .reconnected
  | grantPath peer identity =>
    exact ended.sameStanding (sameStanding_grantPath srv peer identity)
  | reply peer access conveyance =>
    exact ended.sameStanding (sameStanding_replyToHandshake srv peer access conveyance)

theorem process (ended : EndedOnce id reason srv) (request : Request) :
    EndedOnce id reason (srv.process request) :=
  (deeds_process srv request).preserves (fun _ _ deed ended => ended.deed deed) ended

theorem mem_history (ended : EndedOnce id reason srv) : .closed id reason ∈ srv.history := by
  have first : (id, reason) ∈ srv.closings.filter (·.1 == id) := by simp [ended.closings]
  exact mem_history_of_mem_closings (List.mem_filter.1 first).1

theorem move {direct : Prop} {start : Server} (move : Move direct srv srv')
    (ended : EndedOnce id reason srv) (exact : Exact start srv) : EndedOnce id reason srv' := by
  cases move with
  | opening opened =>
    -- only a session that was there can have ended
    have old : id ≠ srv.roster.sessions.length :=
      Nat.ne_of_lt (exact.live.ended id reason ended.mem_history).1
    exact ended.congr ((opened.isActive id).trans (if_neg old)) opened.history
  | aside same => exact ended.sameStanding same
  | accept => exact ended.congr rfl rfl
  | process request => exact ended.process request
  | shardStep shard =>
    rcases shardStep_cases srv shard with same | ⟨queued, dispatcher, after, -, rfl, heq⟩
    · rwa [same]
    · have taken : EndedOnce id reason { srv with dispatcher } := ended.congr rfl rfl
      rw [heq]
      exact (taken.process queued.request).congr rfl rfl
  | close other reason' => exact ended.close other reason'
  | turn => exact ended.congr rfl rfl

theorem undertake {start : Server} (ended : EndedOnce id reason srv) (exact : Exact start srv)
    (undertaking : Undertaking) : EndedOnce id reason (srv.undertake undertaking) :=
  undertake_preserves (fun _ _ move ended exact => ended.move move exact) ended exact undertaking

end EndedOnce

/-- Between operations every entry leads to an open session. -/
theorem forgets_of_inactive {stage : Stage} (live : Live stage srv) (wired : srv.roster.Wired id)
    (inactive : srv.roster.isActive id = false) : srv.roster.Forgets id := by
  have closed : ∀ w, srv.roster.wiring? id = some w → w.isActive = false := by
    intro w hw
    obtain ⟨s, hs, rfl⟩ := Option.map_eq_some_iff.1 hw
    exact (isActive_of_session hs).symm.trans inactive
  refine ⟨?_, ?_, ?_, ?_⟩
  · rw [live.registered, inactive]
    exact Bool.false_ne_true
  · intro key member
    obtain ⟨w, hw, active, -⟩ := wired.conveyance key member
    exact absurd ((closed w hw).symm.trans active) Bool.false_ne_true
  · intro key member
    obtain ⟨w, hw, active, -⟩ := wired.tunnel key member
    exact absurd ((closed w hw).symm.trans active) Bool.false_ne_true
  · intro identity member
    have active := ((live.entries identity id).1 member).1
    exact absurd (inactive.symm.trans active) Bool.false_ne_true

end Server

end SessionNet
