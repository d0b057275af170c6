import SessionNet.Proofs.Dispatch.Handling

/-!
# The stages of a request

What the processing of one request does, as steps between stages: a request is ready, perhaps an
attempt to associate its session is under way, perhaps an identity was bound whose announcement is
still due, and then the request is over. `process_path` shows that processing is a path of such
steps from ready to over, whatever the handlers answer and however they fail. What every step
preserves holds after the request.
-/

namespace SessionNet

/-! ## Events and requests by session -/

namespace ServerEvent

/-- The session that an event is about, be it handed to the handler or only named. -/
def about? : ServerEvent → Option SessionId
  | .reconnectionRequest id _ => some id
  | .reconnectionResult id _ _ => some id
  | .connectionEstablished id _ _ => some id
  | .associationResult id _ _ => some id
  | .sessionReadMessage id _ _ _ => some id
  | .sessionWillBeClosed id _ _ => some id
  | .datagramChannelValidation _ _ => none
  | .datagramChannelResult _ _ _ => none

/-- Whether an event is part of an attempt: its answer can name an identity. -/
def isQuestion : ServerEvent → Bool
  | .reconnectionRequest _ _ => true
  | .connectionEstablished _ _ _ => true
  | _ => false

/-- The identity that an event announces as bound to its session. -/
def announced? : ServerEvent → Option String
  | .reconnectionResult _ identity _ => some identity
  | .associationResult _ identity result => if result = .success then some identity else none
  | _ => none

end ServerEvent

/-- The session whose end a request reports. -/
def Request.ends? (request : Request) : Option SessionId :=
  match request.sender, request.kind with
  | .session id, .sessionClosed _ => some id
  | _, _ => none

namespace Server

/-! ## Steps -/

/-- How far the processing of a request has come. -/
inductive Stage where
  | ready
  /-- The session is being associated. -/
  | attempt (id : SessionId)
  /-- The identity is bound to the session, which is still to be announced. -/
  | bound (id : SessionId) (identity : String)
  | over
  deriving DecidableEq

/-- What can happen next while a request is processed. -/
inductive Step (mayClose : ServerEvent → SessionId → Prop) (request : Request) :
    Stage × Server → Stage × Server → Prop
  | skip {srv : Server} (silent : request.ends? = none) :
      Step mayClose request (.ready, srv) (.over, srv)
  | aside {srv srv' : Server} (same : SameStanding srv srv') :
      Step mayClose request (.ready, srv) (.ready, srv')
  /-- An event that is about no session. -/
  | remark {srv srv' : Server} {event : ServerEvent} (foreign : event.about? = none)
      (emits : Emits mayClose event srv srv') :
      Step mayClose request (.ready, srv) (.ready, srv')
  /-- A message of an active session, which is associated unless the request was made otherwise. -/
  | deliver {srv srv' : Server} {id : SessionId} {s : Session} {message : Message}
      {transport : TransportKind} (sender : request.sender = .session id)
      (kind : request.kind = .sessionMessage message ∨
        request.kind = .connectionRequest message ∧ srv.roster.association? id = some .done)
      (hs : srv.session? id = some s) (active : s.isActive = true)
      (emits : Emits mayClose (.sessionReadMessage id s.identity? transport message) srv srv') :
      Step mayClose request (.ready, srv) (.over, srv')
  | report {srv srv' : Server} {id : SessionId} {identity? : Option String} {reason : CloseReason}
      (ends : request.ends? = some id)
      (emits : Emits mayClose (.sessionWillBeClosed id identity? reason) srv srv') :
      Step mayClose request (.ready, srv) (.over, srv')
  | begin {srv : Server} {id : SessionId} (silent : request.ends? = none)
      (active : srv.roster.isActive id = true) (free : srv.roster.association? id = some .none) :
      Step mayClose request (.ready, srv) (.attempt id, srv.transition id .none .doing)
  | ask {srv srv' : Server} {id : SessionId} {event : ServerEvent} (about : event.about? = some id)
      (question : event.isQuestion = true) (emits : Emits mayClose event srv srv') :
      Step mayClose request (.attempt id, srv) (.attempt id, srv')
  | takeOver {srv : Server} {id old : SessionId} {identity : String}
      (live : srv.liveHolder? identity id = some old) :
      Step mayClose request (.attempt id, srv) (.bound id identity, srv.takeOver identity id)
  | associate {srv : Server} {id : SessionId} {identity : String}
      (success : (srv.roster.associate identity id).1 = .success) :
      Step mayClose request (.attempt id, srv)
        (.bound id identity, { srv with roster := (srv.roster.associate identity id).2 })
  /-- The session has the identity already. -/
  | already {srv srv' : Server} {id : SessionId} {identity : String}
      (found : srv.roster.findIdentity? identity = some id)
      (emits : Emits mayClose (.associationResult id identity .alreadyAssociated)
        (srv.transition id .doing .done) srv') :
      Step mayClose request (.attempt id, srv) (.over, srv')
  | refuse {srv srv' : Server} {id : SessionId} {identity : String} {result : AssociationResult}
      (refused : result ≠ .success)
      (emits : Emits mayClose (.associationResult id identity result)
        (srv.transition id .doing .none) srv') :
      Step mayClose request (.attempt id, srv) (.over, srv')
  | announce {srv srv' : Server} {id : SessionId} {identity : String} {event : ServerEvent}
      (about : event.about? = some id) (announced : event.announced? = some identity)
      (emits : Emits mayClose event srv srv') :
      Step mayClose request (.bound id identity, srv) (.over, srv')
  | fallBack {srv : Server} {stage : Stage} {id : SessionId}
      (given : stage = .attempt id ∨ stage = .over) :
      Step mayClose request (stage, srv) (.over, srv.transition id .doing .none)
  | close {srv : Server} (id : SessionId) (reason : CloseReason) :
      Step mayClose request (.over, srv) (.over, (srv.close id reason).2)

/-- A sequence of steps. -/
abbrev Path (mayClose : ServerEvent → SessionId → Prop) (request : Request) :
    Stage × Server → Stage × Server → Prop :=
  Relation.ReflTransGen (Step mayClose request)

/-- What every step preserves, every path preserves. -/
theorem Path.preserves {mayClose : ServerEvent → SessionId → Prop} {request : Request}
    {P : Stage → Server → Prop} {start finish : Stage × Server}
    (path : Path mayClose request start finish)
    (hstep : ∀ a b, Step mayClose request a b → P a.1 a.2 → P b.1 b.2)
    (h : P start.1 start.2) : P finish.1 finish.2 := by
  induction path with
  | refl => exact h
  | tail _ step ih => exact hstep _ _ step ih

/-! ## The path of an attempt -/

/-- Processing ends over, or fails with the attempt still under way. -/
def Ends {α : Type} (mayClose : ServerEvent → SessionId → Prop) (request : Request)
    (id : SessionId) (start : Stage × Server) (result : Server × Except HandlerFailure α) : Prop :=
  Path mayClose request start (.over, result.1) ∨
    (∃ failure, result.2 = .error failure) ∧ Path mayClose request start (.attempt id, result.1)

section Attempt

variable {mayClose : ServerEvent → SessionId → Prop} {request : Request} {srv srv' : Server}
variable {id : SessionId} {identity : String} {message : Message}

theorem Ends.after {α : Type} {start middle : Stage × Server}
    {result : Server × Except HandlerFailure α} (first : Path mayClose request start middle)
    (ends : Ends mayClose request id middle result) : Ends mayClose request id start result := by
  rcases ends with finished | ⟨failed, under⟩
  · exact .inl (first.trans finished)
  · exact .inr ⟨failed, first.trans under⟩

theorem handlers_takeOver (srv : Server) (identity : String) (id : SessionId) :
    (srv.takeOver identity id).handlers = srv.handlers := by
  unfold takeOver
  dsimp only
  split
  · exact handlers_close _ _ _
  · rfl

theorem ends_refuse (confined : srv.handlers.Confined mayClose) :
    Ends mayClose request id (.attempt id, srv) (srv.refuse id message) := by
  have asked : Step mayClose request (.attempt id, srv)
      (.attempt id, (srv.announce (.connectionEstablished id message .reachedMaxConnection)).1) :=
    .ask rfl rfl (emits_announce _ confined)
  unfold refuse
  rcases hresult : srv.announce (.connectionEstablished id message .reachedMaxConnection) with
    ⟨srv', result⟩
  rw [hresult] at asked
  cases result with
  | error failure => exact .inr ⟨⟨failure, rfl⟩, .single asked⟩
  | ok _ =>
    have back : Path mayClose request (.attempt id, srv) (.over, srv'.transition id .doing .none) :=
      .tail (.single asked) (.fallBack (.inl rfl))
    exact .inl (back.tail (.close id .rejected))

/-- Once the result is announced, only a reached limit has a further consequence. -/
theorem bindIdentity_fst (srv : Server) (id : SessionId) (identity : String) :
    let result := (srv.roster.associate identity id).1
    let bound : Server := { srv with roster := (srv.roster.associate identity id).2 }
    let settled := if result = .alreadyAssociated then bound.transition id .doing .done else bound
    let announced := (settled.announce (.associationResult id identity result)).1
    (srv.bindIdentity id identity).1 = announced ∨
      (srv.bindIdentity id identity).1 = (announced.close id .rejected).2 := by
  intro result bound settled announced
  unfold bindIdentity
  dsimp only
  split
  · rename_i heq
    exact .inl (congrArg Prod.fst heq).symm
  · rename_i srv' heq
    have same : srv' = announced := (congrArg Prod.fst heq).symm
    rw [same]
    split
    · exact .inr rfl
    · exact .inl rfl

theorem ends_bindIdentity (confined : srv.handlers.Confined mayClose) :
    Ends mayClose request id (.attempt id, srv) (srv.bindIdentity id identity) := by
  have finish : ∀ announced : Server, Path mayClose request (.attempt id, srv) (.over, announced) →
      (srv.bindIdentity id identity).1 = announced ∨
        (srv.bindIdentity id identity).1 = (announced.close id .rejected).2 →
      Ends mayClose request id (.attempt id, srv) (srv.bindIdentity id identity) := by
    rintro announced path (same | closed)
    · exact .inl (by rwa [same])
    · exact .inl (by rw [closed]; exact path.tail (.close id .rejected))
  have back : (srv.transition id .doing .none).handlers.Confined mayClose := confined
  have done : (srv.transition id .doing .done).handlers.Confined mayClose := confined
  refine finish _ ?_ (bindIdentity_fst srv id identity)
  cases hresult : (srv.roster.associate identity id).1 with
  | success =>
    have associated : Step mayClose request (.attempt id, srv)
        (.bound id identity, { srv with roster := (srv.roster.associate identity id).2 }) :=
      .associate hresult
    exact .tail (.single associated) (.announce rfl rfl (emits_announce _ confined))
  | duplicated =>
    have emits := emits_announce (.associationResult id identity .duplicated) back
    rw [Roster.associate_of_refused (.inl hresult)]
    exact .single (.refuse (by decide) emits)
  | limitReached =>
    have emits := emits_announce (.associationResult id identity .limitReached) back
    rw [Roster.associate_of_refused (.inr hresult)]
    exact .single (.refuse (by decide) emits)
  | alreadyAssociated =>
    rcases Roster.associate_of_already hresult with ⟨found, same⟩
    have emits := emits_announce (.associationResult id identity .alreadyAssociated) done
    rw [same]
    exact .single (.already found emits)

theorem ends_establish (confined : srv.handlers.Confined mayClose) :
    Ends mayClose request id (.attempt id, srv) (srv.establish id message) := by
  unfold establish
  split
  · exact ends_refuse confined
  · have emits := emits_emit (.connectionEstablished id message .success) confined
    have asked : Step mayClose request (.attempt id, srv)
        (.attempt id, (srv.emit (.connectionEstablished id message .success)).1) :=
      .ask rfl rfl emits
    have still := emits.confined confined
    rcases hresult : srv.emit (.connectionEstablished id message .success) with ⟨srv', result⟩
    rw [hresult] at asked still
    cases result with
    | error failure => exact .inr ⟨⟨failure, rfl⟩, .single asked⟩
    | ok reply =>
      dsimp only
      cases reply.identity? with
      | none => exact .inl (.tail (.single asked) (.fallBack (.inl rfl)))
      | some identity => exact (ends_bindIdentity still).after (.single asked)

/-- An offer that is not taken leaves the attempt under way. -/
theorem ends_offerReconnection (request : Request) (id : SessionId) (message : Message)
    (confined : srv.handlers.Confined mayClose) :
    (srv.offerReconnection id message).1.handlers.Confined mayClose ∧
      ((srv.offerReconnection id message).2 = .ok false ∧
          Path mayClose request (.attempt id, srv)
            (.attempt id, (srv.offerReconnection id message).1) ∨
        (srv.offerReconnection id message).2 ≠ .ok false ∧
          Ends mayClose request id (.attempt id, srv) (srv.offerReconnection id message)) := by
  have emits := emits_emit (.reconnectionRequest id message) confined
  have asked : Step mayClose request (.attempt id, srv)
      (.attempt id, (srv.emit (.reconnectionRequest id message)).1) := .ask rfl rfl emits
  have still := emits.confined confined
  unfold offerReconnection
  rcases hresult : srv.emit (.reconnectionRequest id message) with ⟨srv', result⟩
  rw [hresult] at asked still
  cases result with
  | error failure =>
    exact ⟨still, .inr ⟨by simp, .inr ⟨⟨failure, rfl⟩, .single asked⟩⟩⟩
  | ok reply =>
    dsimp only
    cases reply.identity? with
    | none => exact ⟨still, .inl ⟨rfl, .single asked⟩⟩
    | some identity =>
      dsimp only
      cases hlive : srv'.liveHolder? identity id with
      | none => exact ⟨still, .inl ⟨rfl, .single asked⟩⟩
      | some old =>
        -- the takeover comes before its announcement, which cannot undo it
        have taken : Step mayClose request (.attempt id, srv')
            (.bound id identity, srv'.takeOver identity id) := .takeOver hlive
        have kept : (srv'.takeOver identity id).handlers.Confined mayClose := by
          rwa [handlers_takeOver]
        have announces := emits_announce (.reconnectionResult id identity .success) kept
        have path : Path mayClose request (.attempt id, srv) (.over,
            ((srv'.takeOver identity id).announce (.reconnectionResult id identity .success)).1) :=
          .tail (.tail (.single asked) taken) (.announce rfl rfl announces)
        have remain := announces.confined kept
        simp only [Option.isNone_some, Bool.false_eq_true, if_false]
        rcases hannounced : (srv'.takeOver identity id).announce
          (.reconnectionResult id identity .success) with ⟨srv'', outcome⟩
        rw [hannounced] at path remain
        cases outcome with
        | error failure => exact ⟨remain, .inr ⟨by simp, .inl path⟩⟩
        | ok _ => exact ⟨remain, .inr ⟨by simp, .inl path⟩⟩

theorem ends_answerConnection (silent : request.ends? = none)
    (confined : srv.handlers.Confined mayClose) :
    Ends mayClose request id (.ready, srv) (srv.answerConnection id message) := by
  unfold answerConnection
  split
  · exact .inl (.single (.skip silent))
  · rename_i hactive
    split
    · exact .inl (.single (.skip silent))
    · rename_i hfree
      have begun : Step mayClose request (.ready, srv)
          (.attempt id, srv.transition id .none .doing) :=
        .begin silent (by simpa using hactive) (by simpa using hfree)
      have kept : (srv.transition id .none .doing).handlers.Confined mayClose := confined
      dsimp only
      split
      · -- an offer that was refused leaves the attempt to the second handler
        rcases ends_offerReconnection request id message kept with
          ⟨still, ⟨refused, path⟩ | ⟨settled, ends⟩⟩
        · rcases hresult : (srv.transition id .none .doing).offerReconnection id message with
            ⟨srv', result⟩
          simp only [hresult] at still refused path
          subst refused
          exact (ends_establish still).after (.head begun path)
        · rcases hresult : (srv.transition id .none .doing).offerReconnection id message with
            ⟨srv', result⟩
          simp only [hresult] at settled ends
          have whole := ends.after (.single begun)
          cases result with
          | error failure =>
            rcases whole with finished | ⟨_, under⟩
            · exact .inl finished
            · exact .inr ⟨⟨failure, rfl⟩, under⟩
          | ok taken =>
            cases taken with
            | false => exact absurd rfl settled
            | true =>
              rcases whole with finished | ⟨⟨failure, failed⟩, _⟩
              · exact .inl finished
              · cases failed
      · exact (ends_establish kept).after (.single begun)

end Attempt

/-! ## The path of a request -/

section Process

variable {mayClose : ServerEvent → SessionId → Prop} {request : Request} {srv : Server}
variable {id : SessionId} {peer : DatagramPeer} {message : Message}

theorem ends_deliverMessage {transport : TransportKind} (silent : request.ends? = none)
    (sender : request.sender = .session id)
    (kind : request.kind = .sessionMessage message ∨
      request.kind = .connectionRequest message ∧ srv.roster.association? id = some .done)
    (confined : srv.handlers.Confined mayClose) :
    Ends mayClose request id (.ready, srv) (srv.deliverMessage id message transport) := by
  unfold deliverMessage
  cases hs : srv.session? id with
  | none => exact .inl (.single (.skip silent))
  | some s =>
    dsimp only
    split
    · rename_i active
      exact .inl (.single (.deliver sender kind hs active (emits_announce _ confined)))
    · exact .inl (.single (.skip silent))

theorem sameStanding_grantPath (srv : Server) (peer : DatagramPeer) (identity : String) :
    SameStanding srv (srv.grantPath peer identity).2 := by
  rcases srv.grantPath_cases peer identity with
    ⟨counter, same⟩ | ⟨id, key, counter, roster, -, added, granted⟩
  · rw [same]
    exact ⟨fun _ => rfl, rfl, rfl, rfl, rfl, rfl, rfl, rfl, rfl, fun _ h => h⟩
  · rcases Roster.addDatagram_eq_ok added with ⟨s, -, -, -, rfl⟩
    have attached := sameStanding_update srv id
      (f := fun s => { s with datagram? := some ⟨peer, key⟩ }) fun _ => rfl
    rw [granted]
    exact ⟨attached.standing, attached.length, rfl, rfl, rfl, rfl, rfl, rfl, rfl, attached.handlers⟩

theorem sameStanding_replyToHandshake (srv : Server) (peer : DatagramPeer) (access : DatagramAccess)
    (conveyance : UInt32) :
    SameStanding srv (srv.replyToHandshake peer access conveyance).1 := by
  obtain ⟨supply, replied⟩ := srv.exists_replyToHandshake_eq peer access conveyance
  rw [replied]
  exact .of_roster_eq rfl rfl rfl rfl fun _ h => h

/-- Whatever a validated handshake is granted, the client is answered and the result announced. -/
theorem answerHandshake_fst (srv : Server) (peer : DatagramPeer) (message : Message) :
    let validated := (srv.emit (.datagramChannelValidation peer.client message)).1
    (srv.answerHandshake peer message).1 = validated ∨
      ∃ replied, SameStanding validated replied ∧
        ((srv.answerHandshake peer message).1 = replied ∨
          ∃ identity? conveyance access, (srv.answerHandshake peer message).1 =
            (replied.announce (.datagramChannelResult identity? conveyance access)).1) := by
  intro validated
  have answered : ∀ (granted : Server) (access : DatagramAccess) (conveyance : UInt32),
      SameStanding validated granted →
      SameStanding validated (granted.replyToHandshake peer access conveyance).1 := by
    intro granted access conveyance same
    exact same.trans (sameStanding_replyToHandshake granted peer access conveyance)
  unfold answerHandshake
  rcases hemit : srv.emit (.datagramChannelValidation peer.client message) with ⟨srv', result⟩
  have emitted : srv' = validated := (congrArg Prod.fst hemit).symm
  cases result with
  | error failure => exact .inl emitted
  | ok reply =>
    refine .inr ?_
    rw [emitted]
    dsimp only
    cases reply.identity? with
    | none =>
      refine ⟨_, answered validated .invalidIdentity 0 (.refl _), ?_⟩
      split
      · rename_i heq
        exact .inl (congrArg Prod.fst heq).symm
      · rename_i heq
        exact .inr ⟨none, 0, .invalidIdentity, by rw [heq]⟩
    | some identity =>
      have granted := sameStanding_grantPath validated peer identity
      let access := (validated.grantPath peer identity).1.1
      let conveyance := (validated.grantPath peer identity).1.2
      refine ⟨_, answered _ access conveyance granted, ?_⟩
      split
      · rename_i heq
        exact .inl (congrArg Prod.fst heq).symm
      · rename_i heq
        exact .inr ⟨some identity, conveyance, access, by rw [heq]⟩

/-- A handshake is about no session, whatever path it grants. -/
theorem path_answerHandshake (confined : srv.handlers.Confined mayClose) :
    Path mayClose request (.ready, srv) (.ready, (srv.answerHandshake peer message).1) := by
  have emits := emits_emit (.datagramChannelValidation peer.client message) confined
  have validated : Path mayClose request (.ready, srv)
      (.ready, (srv.emit (.datagramChannelValidation peer.client message)).1) :=
    .single (.remark rfl emits)
  rcases answerHandshake_fst srv peer message with failed | ⟨replied, same, ends⟩
  · rw [failed]
    exact validated
  · have answered : Path mayClose request (.ready, srv) (.ready, replied) :=
      validated.tail (.aside same)
    have still := same.handlers mayClose (emits.confined confined)
    rcases ends with unanswered | ⟨identity?, conveyance, access, announced⟩
    · rw [unanswered]
      exact answered
    · rw [announced]
      exact answered.tail (.remark rfl (emits_announce _ still))

theorem ends_handleFrom {transport : TransportKind} {kind : RequestKind}
    (hrequest : request = ⟨.session id, kind, transport⟩)
    (confined : srv.handlers.Confined mayClose) :
    Ends mayClose request id (.ready, srv) (srv.handleFrom id transport kind) := by
  subst hrequest
  unfold handleFrom
  cases kind with
  | connectionRequest message =>
    dsimp only
    split
    · rename_i done
      exact ends_deliverMessage rfl rfl (.inr ⟨rfl, done⟩) confined
    · exact ends_answerConnection rfl confined
  | sessionMessage message => exact ends_deliverMessage rfl rfl (.inl rfl) confined
  | sessionClosed reason => exact .inl (.single (.report rfl (emits_announce _ confined)))
  | datagramHandshake message => exact .inl (.single (.skip rfl))

/-- Processing a request is a path from ready to over. -/
theorem process_path (confined : srv.handlers.Confined mayClose) :
    Path mayClose request (.ready, srv) (.over, srv.process request) := by
  rcases request with ⟨sender, kind, transport⟩
  unfold process
  cases sender with
  | session id =>
    have ends : Ends mayClose ⟨.session id, kind, transport⟩ id (.ready, srv)
        (srv.handle ⟨.session id, kind, transport⟩) := ends_handleFrom rfl confined
    rcases hresult : srv.handle ⟨.session id, kind, transport⟩ with ⟨srv', result⟩
    rw [hresult] at ends
    cases result with
    | error failure =>
      -- a failure falls back whether the attempt was decided by then or not
      rcases ends with finished | ⟨-, under⟩
      · exact finished.tail (.fallBack (.inr rfl))
      · exact under.tail (.fallBack (.inl rfl))
    | ok _ =>
      rcases ends with finished | ⟨⟨failure, failed⟩, -⟩
      · exact finished
      · cases failed
  | peer peer =>
    have silent : Request.ends? ⟨.peer peer, kind, transport⟩ = none := rfl
    have path : Path mayClose ⟨.peer peer, kind, transport⟩ (.ready, srv)
        (.over, (srv.handle ⟨.peer peer, kind, transport⟩).1) := by
      cases kind with
      | datagramHandshake message => exact .tail (path_answerHandshake confined) (.skip silent)
      | connectionRequest message => exact .single (.skip silent)
      | sessionMessage message => exact .single (.skip silent)
      | sessionClosed reason => exact .single (.skip silent)
    rcases hresult : srv.handle ⟨.peer peer, kind, transport⟩ with ⟨srv', result⟩
    rw [hresult] at path
    cases result <;> exact path

/-- Handlers stay confined from step to step. -/
theorem Step.confined {a b : Stage × Server} (step : Step mayClose request a b)
    (confined : a.2.handlers.Confined mayClose) : b.2.handlers.Confined mayClose := by
  cases step with
  | skip => exact confined
  | aside same => exact same.handlers mayClose confined
  | remark _ emits => exact emits.confined confined
  | deliver _ _ _ _ emits => exact emits.confined confined
  | report _ emits => exact emits.confined confined
  | begin => exact confined
  | ask _ _ emits => exact emits.confined confined
  | takeOver => simpa only [handlers_takeOver] using confined
  | associate => exact confined
  | already _ emits => exact emits.confined confined
  | refuse _ emits => exact emits.confined confined
  | announce _ _ emits => exact emits.confined confined
  | fallBack => exact confined
  | close => simpa only [handlers_close] using confined

theorem confined_process (confined : srv.handlers.Confined mayClose) :
    (srv.process request).handlers.Confined mayClose :=
  (process_path confined).preserves (P := fun _ later => later.handlers.Confined mayClose)
    (fun _ _ step => step.confined) confined

end Process

end Server

end SessionNet
