import SessionNet.Proofs.Dispatch.Handling

/-!
# What the processing of a request consists of

Whatever handlers do and answer, a request is processed by doing one of a few things after the other
(`Deed`), and each of them is an operation of its own. A property of servers that is about all
requests is proved for these, and holds after every request (`deeds_process`). Which events there
are among the deeds is told as well: the end of a session is announced only for the notice of it,
and then once. So is who is given a datagram path: nobody but the client that asks for one.
-/

namespace SessionNet

/-- The session whose end an event announces, and why it ended. -/
def ServerEvent.ending? : ServerEvent → Option (SessionId × CloseReason)
  | .sessionWillBeClosed id _ reason => some (id, reason)
  | _ => none

/-- The session whose end a request is the notice of, and why it ended. -/
def Request.ending? : Request → Option (SessionId × CloseReason)
  | ⟨.session id, .sessionClosed reason, _⟩ => some (id, reason)
  | _ => none

/-- Whether an event announces no end. -/
def ServerEvent.IsPlain (event : ServerEvent) : Prop := event.ending? = none

/-- What a request may announce: no end of a session, or the one that it is the notice of. -/
def Request.Tells (request : Request) (event : ServerEvent) : Prop :=
  event.IsPlain ∨ event.ending? = request.ending?

/-- The client that makes a request, and on which socket, if it is a handshake. -/
def Request.peer? : Request → Option DatagramPeer
  | ⟨.peer peer, .datagramHandshake _, _⟩ => some peer
  | _ => none

/-- Whether a client asks for a datagram path by a request. -/
def Request.Asks (request : Request) (peer : DatagramPeer) : Prop := request.peer? = some peer

namespace Server

/-- One thing that is done to a server while a request is processed, only some events happen and
only some clients are answered. -/
inductive Deed (spoken : ServerEvent → Prop) (heard : DatagramPeer → Prop) : Server → Server → Prop
  | event (srv : Server) (event : ServerEvent) (delivered : Bool) (allowed : spoken event) :
      Deed spoken heard srv (srv.record (.event event delivered))
  /-- A handler begins to run. -/
  | called (srv : Server) (kind : EventKind) :
      Deed spoken heard srv { srv with handlers := srv.handlers.countCall kind }
  | unregister (srv : Server) (kind : EventKind) :
      Deed spoken heard srv { srv with handlers := (srv.handlers.unregister kind).2 }
  | send (srv : Server) (id : SessionId) (message : Message) :
      Deed spoken heard srv (srv.send id message).1
  | sendDatagram (srv : Server) (id : SessionId) (message : Message) :
      Deed spoken heard srv (srv.sendDatagram id message).1
  | transition (srv : Server) (id : SessionId) (source target : AssociationState) :
      Deed spoken heard srv (srv.transition id source target)
  | close (srv : Server) (id : SessionId) (reason : CloseReason) :
      Deed spoken heard srv (srv.close id reason).2
  | associate (srv : Server) (identity : String) (id : SessionId) :
      Deed spoken heard srv { srv with roster := (srv.roster.associate identity id).2 }
  /-- An identity is only taken from another session that is live. -/
  | takeOver {srv : Server} {identity : String} {id old : SessionId}
      (live : srv.liveHolder? identity id = some old) :
      Deed spoken heard srv (srv.takeOver identity id)
  | grantPath (srv : Server) (peer : DatagramPeer) (identity : String) (allowed : heard peer) :
      Deed spoken heard srv (srv.grantPath peer identity).2
  | reply (srv : Server) (peer : DatagramPeer) (access : DatagramAccess) (conveyance : UInt32)
      (allowed : heard peer) :
      Deed spoken heard srv (srv.replyToHandshake peer access conveyance).1

/-- All that is done while a request is processed. -/
abbrev Deeds (spoken : ServerEvent → Prop) (heard : DatagramPeer → Prop) : Server → Server → Prop :=
  Relation.ReflTransGen (Deed spoken heard)

variable {spoken spoken' : ServerEvent → Prop} {heard : DatagramPeer → Prop} {srv srv' : Server}

/-- What everything that is done preserves, a request preserves. -/
theorem Deeds.preserves {P : Server → Prop} (deeds : Deeds spoken heard srv srv')
    (hdeed : ∀ a b, Deed spoken heard a b → P a → P b) (h : P srv) : P srv' := by
  induction deeds with
  | refl => exact h
  | tail _ deed ih => exact hdeed _ _ deed ih

theorem Deed.weaken (deed : Deed spoken heard srv srv')
    (more : ∀ event, spoken event → spoken' event) : Deed spoken' heard srv srv' := by
  cases deed with
  | event event delivered allowed => exact .event srv event delivered (more event allowed)
  | called kind => exact .called srv kind
  | unregister kind => exact .unregister srv kind
  | send id message => exact .send srv id message
  | sendDatagram id message => exact .sendDatagram srv id message
  | transition id source target => exact .transition srv id source target
  | close id reason => exact .close srv id reason
  | associate identity id => exact .associate srv identity id
  | takeOver live => exact .takeOver live
  | grantPath peer identity allowed => exact .grantPath srv peer identity allowed
  | reply peer access conveyance allowed => exact .reply srv peer access conveyance allowed

/-! ## Handlers -/

theorem deeds_act (srv : Server) (action : Action) : Deeds spoken heard srv (srv.act action).1 := by
  cases action with
  | send id message datagram =>
    cases datagram with
    | false => exact .single (.send srv id message)
    | true => exact .single (.sendDatagram srv id message)
  | close id reason => exact .single (.close srv id reason)
  | associate id identity =>
    -- the attempt begins and is decided at once
    exact .head (.transition srv id .none .doing) (.single (.associate _ identity id))
  | unregister kind => exact .single (.unregister srv kind)

theorem deeds_actAll (actions : List Action) (srv : Server) :
    Deeds spoken heard srv (srv.actAll actions).1 := by
  induction actions generalizing srv with
  | nil => exact .refl
  | cons action rest ih =>
    have first : Deeds spoken heard srv (srv.act action).1 := deeds_act srv action
    unfold actAll
    rcases hresult : srv.act action with ⟨srv', _ | _⟩ <;> rw [hresult] at first
    · exact first
    · exact first.trans (ih srv')

/-- An event happens once, and whatever its handler does then is no event. -/
theorem exists_deeds_emit (srv : Server) (event : ServerEvent) :
    ∃ delivered, Deeds spoken heard (srv.record (.event event delivered)) (srv.emit event).1 := by
  unfold emit
  cases srv.handlers.find? event.kind with
  | none => exact ⟨false, .refl⟩
  | some entry =>
    let called : Server := { srv.record (.event event true) with
      handlers := srv.handlers.countCall event.kind }
    have happens : Deeds spoken heard (srv.record (.event event true)) called :=
      .single (.called (srv.record _) event.kind)
    have ran : Deeds spoken heard called
        (called.actAll (entry.handler entry.calls event).actions).1 := deeds_actAll _ called
    refine ⟨true, ?_⟩
    -- how the handler ends changes nothing about what it did
    dsimp only
    rcases hresult : called.actAll (entry.handler entry.calls event).actions with ⟨done, _ | _⟩ <;>
      rw [hresult] at ran
    · exact happens.trans ran
    · exact happens.trans ran

theorem deeds_emit (srv : Server) {event : ServerEvent} (allowed : spoken event) :
    Deeds spoken heard srv (srv.emit event).1 := by
  have emitted : ∃ delivered, Deeds spoken heard (srv.record (.event event delivered))
      (srv.emit event).1 := exists_deeds_emit srv event
  rcases emitted with ⟨delivered, deeds⟩
  exact .head (.event srv event delivered allowed) deeds

theorem deeds_announce (srv : Server) {event : ServerEvent} (allowed : spoken event) :
    Deeds spoken heard srv (srv.announce event).1 := by
  rw [announce_eq]
  exact deeds_emit srv allowed

/-! ## Requests -/

theorem deeds_deliverMessage (srv : Server) (id : SessionId) (message : Message)
    (transport : TransportKind) :
    Deeds ServerEvent.IsPlain heard srv (srv.deliverMessage id message transport).1 := by
  unfold deliverMessage
  split
  · exact .refl
  · split
    · exact deeds_announce srv rfl
    · exact .refl

theorem deeds_offerReconnection (srv : Server) (id : SessionId) (message : Message) :
    Deeds ServerEvent.IsPlain heard srv (srv.offerReconnection id message).1 := by
  have asked : Deeds ServerEvent.IsPlain heard srv (srv.emit (.reconnectionRequest id message)).1 :=
    deeds_emit srv rfl
  unfold offerReconnection
  rcases hasked : srv.emit (.reconnectionRequest id message) with ⟨srv', failure | reply⟩ <;>
    rw [hasked] at asked
  · exact asked
  · dsimp only
    cases reply.identity? with
    | none => exact asked
    | some identity =>
      dsimp only
      cases held : srv'.liveHolder? identity id with
      | none => exact asked
      | some old =>
        have told : Deeds ServerEvent.IsPlain heard (srv'.takeOver identity id)
            ((srv'.takeOver identity id).announce (.reconnectionResult id identity .success)).1 :=
          deeds_announce _ rfl
        have moved := (asked.tail (.takeOver held)).trans told
        rcases hresult : (srv'.takeOver identity id).announce
          (.reconnectionResult id identity .success) with ⟨srv'', _ | _⟩ <;> rw [hresult] at moved
        · exact moved
        · exact moved

theorem deeds_refuse (srv : Server) (id : SessionId) (message : Message) :
    Deeds ServerEvent.IsPlain heard srv (srv.refuse id message).1 := by
  have told : Deeds ServerEvent.IsPlain heard srv
      (srv.announce (.connectionEstablished id message .reachedMaxConnection)).1 :=
    deeds_announce srv rfl
  unfold refuse
  rcases hresult : srv.announce (.connectionEstablished id message .reachedMaxConnection)
    with ⟨srv', _ | _⟩ <;> rw [hresult] at told
  · exact told
  · exact (told.tail (.transition srv' id .doing .none)).tail (.close _ id .rejected)

theorem deeds_bindIdentity (srv : Server) (id : SessionId) (identity : String) :
    Deeds ServerEvent.IsPlain heard srv (srv.bindIdentity id identity).1 := by
  have bound : Deeds ServerEvent.IsPlain heard srv
      { srv with roster := (srv.roster.associate identity id).2 } :=
    .single (.associate srv identity id)
  unfold bindIdentity
  rcases hbound : srv.roster.associate identity id with ⟨result, roster⟩
  rw [hbound] at bound
  -- whether the attempt is settled here depends on the result, the announcement does not
  have settled : Deeds ServerEvent.IsPlain heard srv (if result = .alreadyAssociated then
      ({ srv with roster } : Server).transition id .doing .done else { srv with roster }) := by
    split
    · exact bound.tail (.transition _ id .doing .done)
    · exact bound
  dsimp only
  generalize (if result = .alreadyAssociated then
      ({ srv with roster } : Server).transition id .doing .done else { srv with roster }) = srv'
    at settled ⊢
  have told : Deeds ServerEvent.IsPlain heard srv
      (srv'.announce (.associationResult id identity result)).1 :=
    settled.trans (deeds_announce srv' rfl)
  rcases hresult : srv'.announce (.associationResult id identity result) with ⟨srv'', _ | _⟩ <;>
    rw [hresult] at told
  · exact told
  · dsimp only
    split
    · exact told.tail (.close srv'' id .rejected)
    · exact told

theorem deeds_establish (srv : Server) (id : SessionId) (message : Message) :
    Deeds ServerEvent.IsPlain heard srv (srv.establish id message).1 := by
  unfold establish
  split
  · exact deeds_refuse srv id message
  · have asked : Deeds ServerEvent.IsPlain heard srv
        (srv.emit (.connectionEstablished id message .success)).1 := deeds_emit srv rfl
    rcases hasked : srv.emit (.connectionEstablished id message .success) with
      ⟨srv', failure | reply⟩ <;> rw [hasked] at asked
    · exact asked
    · dsimp only
      cases reply.identity? with
      | none => exact asked.tail (.transition srv' id .doing .none)
      | some identity => exact asked.trans (deeds_bindIdentity srv' id identity)

theorem deeds_answerConnection (srv : Server) (id : SessionId) (message : Message) :
    Deeds ServerEvent.IsPlain heard srv (srv.answerConnection id message).1 := by
  have begun : Deeds ServerEvent.IsPlain heard srv (srv.transition id .none .doing) :=
    .single (.transition srv id .none .doing)
  unfold answerConnection
  split
  · exact .refl
  · split
    · exact .refl
    · generalize srv.transition id .none .doing = srv' at begun
      dsimp only
      split
      · have offered := begun.trans (deeds_offerReconnection srv' id message)
        rcases hresult : srv'.offerReconnection id message with ⟨srv'', _ | _ | _⟩ <;>
          rw [hresult] at offered
        · exact offered
        · exact offered.trans (deeds_establish srv'' id message)
        · exact offered
      · exact begun.trans (deeds_establish srv' id message)

/-- Whatever path a client is granted, the reply and the announcement are all that follow. -/
theorem deeds_answerHandshake (srv : Server) (message : Message) {peer : DatagramPeer}
    (asks : heard peer) :
    Deeds ServerEvent.IsPlain heard srv (srv.answerHandshake peer message).1 := by
  have asked : Deeds ServerEvent.IsPlain heard srv
      (srv.emit (.datagramChannelValidation peer.client message)).1 := deeds_emit srv rfl
  unfold answerHandshake
  rcases hasked : srv.emit (.datagramChannelValidation peer.client message) with
    ⟨srv', failure | reply⟩ <;> rw [hasked] at asked
  · exact asked
  · dsimp only
    cases reply.identity? with
    | none =>
      have answered := asked.tail (.reply srv' peer .invalidIdentity 0 asks)
      split
      · rename_i failed
        rwa [failed] at answered
      · rename_i later sent
        rw [sent] at answered
        exact answered.trans (deeds_announce later rfl)
    | some identity =>
      have granted := asked.tail (.grantPath srv' peer identity asks)
      have answered := granted.tail (.reply _ peer (srv'.grantPath peer identity).1.1
        (srv'.grantPath peer identity).1.2 asks)
      split
      · rename_i failed
        rwa [failed] at answered
      · rename_i later sent
        rw [sent] at answered
        exact answered.trans (deeds_announce later rfl)

theorem deeds_handle (srv : Server) (request : Request) :
    Deeds request.Tells request.Asks srv (srv.handle request).1 := by
  have plainly : ∀ {srv' : Server}, Deeds ServerEvent.IsPlain request.Asks srv srv' →
      Deeds request.Tells request.Asks srv srv' :=
    Relation.ReflTransGen.mono (fun _ _ deed => deed.weaken fun _ => .inl) _ _
  rcases request with ⟨sender, kind, transport⟩
  cases sender with
  | peer peer =>
    cases kind with
    | datagramHandshake message => exact plainly (deeds_answerHandshake srv message rfl)
    | connectionRequest | sessionMessage | sessionClosed => exact .refl
  | session id =>
    unfold handle handleFrom
    cases kind with
    | connectionRequest message =>
      dsimp only
      split
      · exact plainly (deeds_deliverMessage srv id message transport)
      · exact plainly (deeds_answerConnection srv id message)
    | sessionMessage message => exact plainly (deeds_deliverMessage srv id message transport)
    | sessionClosed reason => exact deeds_announce srv (.inr rfl)
    | datagramHandshake message => exact .refl

/-- A request that fails may still have to fall back from an attempt, and nothing else. -/
theorem deeds_handled (srv : Server) (request : Request) :
    Deeds spoken heard (srv.handle request).1 (srv.process request) := by
  unfold process
  rcases srv.handle request with ⟨srv', _ | _⟩
  · cases request.sender with
    | session id => exact .single (.transition srv' id .doing .none)
    | peer peer => exact .refl
  · exact .refl

/-- Whether a request fails or not, nothing else comes of it. -/
theorem deeds_process (srv : Server) (request : Request) :
    Deeds request.Tells request.Asks srv (srv.process request) :=
  (deeds_handle srv request).trans (deeds_handled srv request)

/-- A notice is answered with the event of the end, and with no other event. -/
theorem exists_deeds_process {request : Request} {id : SessionId} {reason : CloseReason}
    (ending : request.ending? = some (id, reason)) (srv : Server) :
    ∃ identity? delivered,
      Deeds spoken heard (srv.record (.event (.sessionWillBeClosed id identity? reason) delivered))
        (srv.process request) := by
  obtain ⟨transport, rfl⟩ : ∃ transport, request = ⟨.session id, .sessionClosed reason, transport⟩ := by
    rcases request with ⟨_ | _, _ | _ | _ | _, transport⟩ <;> cases ending
    exact ⟨transport, rfl⟩
  have emitted : ∃ delivered, Deeds spoken heard
      (srv.record (.event (.sessionWillBeClosed id ((srv.session? id).bind (·.identity?)) reason)
        delivered))
      (srv.handle ⟨.session id, .sessionClosed reason, transport⟩).1 := by
    unfold handle handleFrom
    dsimp only
    rw [announce_eq]
    exact exists_deeds_emit srv _
  rcases emitted with ⟨delivered, deeds⟩
  exact ⟨_, delivered, deeds.trans (deeds_handled srv _)⟩

end Server

end SessionNet
