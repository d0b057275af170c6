import SessionNet.Proofs.Dispatch.Handshake
import SessionNet.Proofs.Dispatch.Neighbours
import SessionNet.Proofs.Dispatch.Reconnection
import SessionNet.Proofs.Server.Aftermath

/-!
# Isolation of sessions

Where handlers only answer, fail or panic, a request of a session passes by all other sessions, with
one exception: an identity that is taken over is that of exactly one other session, which is closed
(`Usurped`). A handler that fails closes nobody, and no attempt stays under way because of it. A
request of a client gives a datagram path to the session whose identity a handler named, or does
nothing (`PathOnly`).
-/

namespace SessionNet

namespace Server

variable {start srv after : Server} {id old other : SessionId} {identity : String}
variable {message : Message} {kind : RequestKind} {peer : DatagramPeer}

/-! ## Takeovers -/

theorem takeover?_eq_some (taken : srv.takeover? id kind = some (identity, old)) :
    ∃ message, kind = .connectionRequest message ∧ srv.roster.isActive id = true ∧
      srv.roster.association? id = some .none ∧ srv.reconnection = true ∧
      srv.answer (.reconnectionRequest id message) = .ok (.identity (some identity)) ∧
      srv.liveHolder? identity id = some old := by
  cases kind with
  | sessionMessage | sessionClosed | datagramHandshake => cases taken
  | connectionRequest message =>
    simp only [takeover?] at taken
    split at taken
    · rename_i attempt
      split at taken
      · rename_i reply answered
        obtain ⟨name, named, held⟩ := Option.bind_eq_some_iff.1 taken
        obtain ⟨holder, live, same⟩ := Option.map_eq_some_iff.1 held
        cases same
        have identified : reply = .identity (some identity) := by
          cases reply with
          | identity identity? => exact congrArg EventReply.identity named
          | unhandled | handled => cases named
        exact ⟨message, rfl, attempt.1, attempt.2.1, attempt.2.2, identified ▸ answered, live⟩
      · cases taken
    · cases taken

/-- An identity has been taken from a session, which is closed, and given to another one. -/
structure Usurped (srv after : Server) (identity : String) (id old : SessionId) : Prop where
  held : srv.roster.findIdentity? identity = some old ∧ srv.roster.isActive old = true ∧ old ≠ id
  /-- The one entry is redirected. -/
  redirected : after.roster.findIdentity? identity = some id
  names : ∀ name, name ≠ identity →
    after.roster.findIdentity? name = srv.roster.findIdentity? name
  taker : ∃ s, srv.session? id = some s ∧
    after.session? id = some { s with association := .done, identity? := some identity }
  /-- The session that lost the identity is torn down, and its slot is free. -/
  loser : ∃ s, srv.session? old = some s ∧
    after.session? old = some (({ s with identity? := none } : Session).tearDown .reconnected) ∧
    ∀ ip, after.roster.filter.connectionsFrom ip =
      srv.roster.filter.connectionsFrom ip - if s.slot? = some ip then 1 else 0
  forgotten : after.roster.Forgets old
  closings : after.closings = srv.closings ++ [(old, .reconnected)]

section Taken

variable (discreet : Discreet start srv) (held : srv.liveHolder? identity id = some old)

theorem session?_begun_of_ne (differs : other ≠ id) (message : Message) :
    (srv.begun id message).session? other = srv.session? other := by
  rw [session?, roster_begun, Roster.transition_eq_update]
  exact Roster.session?_update_of_ne differs

include held

/-- In the middle of a takeover the identity is moved, and its old holder is still open. -/
theorem taken_eq (message : Message) :
    srv.taken identity id message =
      (((srv.begun id message).moved identity id old).close old .reconnected).2.heard
        (.reconnectionResult id identity .success) := by
  rw [taken, takeOver_eq (liveHolder?_begun held message)]

theorem session?_taken_self (message : Message) (free : srv.roster.association? id = some .none) :
    ∃ s, srv.session? id = some s ∧ (srv.taken identity id message).session? id =
      some { s with association := .done, identity? := some identity } := by
  have differs : id ≠ old := Ne.symm (liveHolder?_eq_some held).2.2
  obtain ⟨s, hs, unassociated⟩ := Option.map_eq_some_iff.1 free
  refine ⟨s, hs, ?_⟩
  -- what becomes of the old holder does not show in the session that gets its identity
  have bound : ((srv.begun id message).moved identity id old).session? id =
      some { s with association := .done, identity? := some identity } := by
    change (((srv.begun id message).roster.bind identity id).update old _).session? id = _
    rw [Roster.session?_update_of_ne differs, Roster.session?_bind_self, roster_begun,
      Roster.transition_eq_update, Roster.session?_update_self, hs]
    simp [Session.transition, unassociated]
  rw [taken_eq held]
  change (((srv.begun id message).moved identity id old).close old .reconnected).2.session? id = _
  rw [session?_close_of_ne _ differs, bound]

include discreet

/-- The old holder is open until it is closed as the last thing, only without its identity. -/
theorem session?_middle (message : Message) :
    ∃ s, srv.session? old = some s ∧ s.isActive = true ∧ s.isManaged = true ∧
      ((srv.begun id message).moved identity id old).roster.session? old =
        some { s with identity? := none } := by
  have live := liveHolder?_begun held message
  obtain ⟨s, hs, active, disowned⟩ := session?_moved live
  rw [session?_begun_of_ne (liveHolder?_eq_some live).2.2] at hs
  exact ⟨s, hs, active, discreet.isManaged hs, disowned⟩

/-- A takeover passes by everyone but the two sessions. -/
theorem alike_taken (message : Message) (differs : other ≠ id) (differs' : other ≠ old) :
    srv.roster.Alike (srv.taken identity id message).roster other := by
  have member : (identity, old) ∈ srv.roster.byIdentity :=
    Roster.mem_byIdentity_of_find (liveHolder?_eq_some held).1
  have begun : srv.roster.Alike (srv.begun id message).roster other := by
    rw [roster_begun]
    exact Roster.alike_transition differs _ _
  -- the identity has one entry, and that is the one of its old holder
  have free : (identity, other) ∉ (srv.begun id message).roster.byIdentity := by
    rw [begun.identity]
    intro member'
    exact differs' (holder_unique_of_keys discreet.exact.live.keys member' member)
  have middle : srv.roster.Alike ((srv.begun id message).moved identity id old).roster other :=
    (begun.trans (Roster.alike_bind differs free)).trans (Roster.alike_update differs' _)
  obtain ⟨s, -, -, managed, disowned⟩ := session?_middle discreet held message
  rw [taken_eq held, roster_heard, roster_close]
  refine middle.trans (Roster.alike_close differs' (fun t ht => ?_) .reconnected)
  obtain rfl := Option.some.inj (disowned.symm.trans ht)
  exact managed

theorem closings_taken (message : Message) :
    (srv.taken identity id message).closings = srv.closings ++ [(old, .reconnected)] := by
  obtain ⟨s, -, active, managed, disowned⟩ := session?_middle discreet held message
  have reported := isReported_of_session disowned active managed
  have middle : ((srv.begun id message).moved identity id old).closings = srv.closings :=
    closings_begun srv id message
  rw [taken_eq held, closings_heard, closings_close, middle, if_pos reported]

theorem loser_taken (message : Message) :
    ∃ s, srv.session? old = some s ∧ (srv.taken identity id message).session? old =
        some (({ s with identity? := none } : Session).tearDown .reconnected) ∧
      ∀ ip, (srv.taken identity id message).roster.filter.connectionsFrom ip =
        srv.roster.filter.connectionsFrom ip - if s.slot? = some ip then 1 else 0 := by
  obtain ⟨s, hs, active, managed, disowned⟩ := session?_middle discreet held message
  have departed := Roster.departed_close .reconnected disowned active managed
  -- to move an identity takes no slot and gives none back
  have filter : ((srv.begun id message).moved identity id old).roster.filter =
      srv.roster.filter := by
    change ((srv.begun id message).roster.bind identity id).filter = _
    rw [Roster.bind_eq, roster_begun, Roster.transition_eq_update]
    rfl
  refine ⟨s, hs, ?_, fun ip => ?_⟩
  · rw [taken_eq held]
    change (((srv.begun id message).moved identity id old).close old .reconnected).2.roster.session?
      old = _
    rw [roster_close, Roster.session?_close_self, disowned]
    simp [active]
  · have slots := departed.slots ip
    rw [filter] at slots
    rw [taken_eq held, roster_heard, roster_close]
    exact slots

end Taken

theorem usurped_process (insulated : Insulated start srv)
    (taken : srv.takeover? id kind = some (identity, old)) (transport : TransportKind) :
    Usurped srv (srv.process ⟨.session id, kind, transport⟩) identity id old ∧
      ∀ other, other ≠ id → other ≠ old →
        srv.roster.Alike (srv.process ⟨.session id, kind, transport⟩).roster other := by
  have next := insulated.process ⟨.session id, kind, transport⟩
  obtain ⟨message, rfl, active, free, reconnection, answered, held⟩ := takeover?_eq_some taken
  obtain ⟨found, oldActive, differs⟩ := liveHolder?_eq_some held
  have processed : srv.process ⟨.session id, .connectionRequest message, transport⟩ =
      srv.taken identity id message :=
    process_of_taken insulated.answers.answering active free reconnection answered held transport
  rw [processed] at next ⊢
  -- the old holder is without the identity when it is closed, so the new entry stays
  have index := byIdentity_taken held message
  have loser := loser_taken insulated.toDiscreet held message
  have inactive : (srv.taken identity id message).roster.isActive old = false := by
    obtain ⟨s, -, torn, -⟩ := loser
    exact isActive_of_session torn
  refine ⟨⟨⟨found, oldActive, differs⟩, ?_, ?_, session?_taken_self held message free, loser,
    forgets_of_inactive next.exact.live (next.wired old) inactive,
    closings_taken insulated.toDiscreet held message⟩, ?_⟩
  · rw [Roster.findIdentity?, index]
    exact lookup_setEntry_self
  · intro name elsewhere
    rw [Roster.findIdentity?, index, lookup_setEntry_of_ne elsewhere]
    rfl
  · exact fun other elsewhere elsewhere' =>
      alike_taken insulated.toDiscreet held message elsewhere elsewhere'

/-! ## Handshakes -/

/-- The identity that a handler names if a client asks for a datagram path. -/
def named? (srv : Server) (client : ClientId) : RequestKind → Option String
  | .datagramHandshake message =>
    (srv.answer (.datagramChannelValidation client message)).toOption.bind (·.identity?)
  | _ => none

/-- A session that had no datagram path has one to a client, through the socket on which it asked
and under an id that was not in use. -/
structure Pathed (srv after : Server) (peer : DatagramPeer) (id : SessionId) (s : Session)
    (key : UInt32) : Prop where
  before : srv.session? id = some s ∧ s.isActive = true ∧ s.datagram? = none
  session : after.session? id = some { s with datagram? := some ⟨peer, key⟩ }
  unused : srv.roster.findConveyance? key = none
  conveyance : ∀ name, after.roster.findConveyance? name =
    if name = key then some id else srv.roster.findConveyance? name
  number : after.roster.find? id = srv.roster.find? id
  tunnel : after.roster.findTunnel? = srv.roster.findTunnel?
  identity : after.roster.findIdentity? = srv.roster.findIdentity?

/-- Of all sessions at most the holder of an identity has changed, and only by a datagram path. -/
structure PathOnly (srv after : Server) (peer : DatagramPeer) (identity? : Option String) : Prop where
  others : ∀ id, (∀ identity, identity? = some identity →
    srv.roster.findIdentity? identity ≠ some id) → srv.roster.Untouched after.roster id
  holder : ∀ identity id, identity? = some identity →
    srv.roster.findIdentity? identity = some id →
      srv.roster.Untouched after.roster id ∨ ∃ s key, Pathed srv after peer id s key
  closings : after.closings = srv.closings
  dispatcher : after.dispatcher = srv.dispatcher

/-- What becomes of a roster when a client asks for a path: the stream session that holds the
identity gets one, or nobody does. -/
inductive Grants (r : Roster) (peer : DatagramPeer) (identity? : Option String) : Roster → Prop
  | nothing (conveyanceCounter : UInt32) :
      Grants r peer identity? { r with conveyanceCounter }
  | path {identity : String} {id : SessionId} {s : Session} {key : UInt32}
      (named : identity? = some identity) (holder : r.StreamHolder identity id s)
      (free : s.datagram? = none) (unused : r.findConveyance? key = none) :
      Grants r peer identity?
        { r.update id fun s => { s with datagram? := some ⟨peer, key⟩ } with
          byConveyance := setEntry r.byConveyance key id
          conveyanceCounter := key + 1 }

theorem grants_judge (srv : Server) (peer : DatagramPeer) (identity? : Option String) :
    ∃ roster, (srv.judge peer identity?).2 = { srv with roster } ∧
      Grants srv.roster peer identity? roster := by
  cases identity? with
  | none => exact ⟨srv.roster, rfl, .nothing _⟩
  | some identity =>
    change ∃ roster, (srv.grantPath peer identity).2 = { srv with roster } ∧ _
    by_cases free : ∃ key, key ≠ 0 ∧ srv.roster.findConveyance? key = none
    · have tried := tried_grantPath srv peer identity free
      generalize srv.grantPath peer identity = verdict at tried ⊢
      cases tried with
      | absent | bound => exact ⟨srv.roster, rfl, .nothing _⟩
      | given holder pathless next added =>
        obtain ⟨-, unused, rfl⟩ := Roster.nextConveyance_eq_some next
        obtain ⟨t, -, -, -, rfl⟩ := Roster.addDatagram_eq_ok added
        exact ⟨_, rfl, .path rfl holder pathless unused⟩
    · -- without a free id there is no path to give
      rcases srv.grantPath_cases peer identity with
        ⟨conveyanceCounter, same⟩ | ⟨_, key, _, _, next, -, -⟩
      · exact ⟨_, same, .nothing conveyanceCounter⟩
      · obtain ⟨nonzero, unused, -⟩ := Roster.nextConveyance_eq_some next
        exact absurd ⟨key, nonzero, unused⟩ free

/-- Of a request of a client the verdict stays, whether it can be announced or not. -/
theorem grants_process (only : srv.handlers.OnlyAnswers) (peer : DatagramPeer) (kind : RequestKind)
    (transport : TransportKind) :
    Grants srv.roster peer (srv.named? peer.client kind)
        (srv.process ⟨.peer peer, kind, transport⟩).roster ∧
      (srv.process ⟨.peer peer, kind, transport⟩).closings = srv.closings ∧
      (srv.process ⟨.peer peer, kind, transport⟩).dispatcher = srv.dispatcher := by
  rw [process_datagram]
  cases kind with
  | connectionRequest | sessionMessage | sessionClosed => exact ⟨.nothing _, rfl, rfl⟩
  | datagramHandshake message =>
    let event : ServerEvent := .datagramChannelValidation peer.client message
    have asks := emit_of_onlyAnswers only event
    have silent := closings_heard srv event
    cases answered : srv.answer event with
    | error failure =>
      have failed : srv.handle ⟨.peer peer, .datagramHandshake message, transport⟩ =
          (srv.heard event, .error failure) := by
        change srv.answerHandshake peer message = _
        unfold answerHandshake
        rw [asks, answered]
      rw [failed]
      exact ⟨.nothing _, silent, rfl⟩
    | ok reply =>
      have named : srv.named? peer.client (.datagramHandshake message) = reply.identity? := by
        rw [named?, answered]
        rfl
      rw [answered] at asks
      obtain ⟨roster, granted, grants⟩ := grants_judge (srv.heard event) peer reply.identity?
      rcases judged : (srv.heard event).judge peer reply.identity? with ⟨⟨access, conveyance⟩, _⟩
      obtain rfl : _ = { srv.heard event with roster } :=
        (congrArg Prod.snd judged).symm.trans granted
      rw [named, handle_of_judged asks judged]
      obtain ⟨supply, replied⟩ := exists_replyToHandshake_eq
        { srv.heard event with roster } peer access conveyance
      rcases hreply : replyToHandshake { srv.heard event with roster } peer access conveyance with
        ⟨later, _ | _⟩ <;> rw [hreply] at replied <;> obtain rfl : later = _ := replied
      · exact ⟨grants, silent, rfl⟩
      · have later : HandlerTable.OnlyAnswers
            ({ srv.heard event with roster, supply } : Server).handlers := only.countCall
        dsimp only
        rw [announce_of_onlyAnswers later]
        exact ⟨grants, (closings_heard _ _).trans silent, rfl⟩

/-- Giving a path passes by everyone but the one who gets it. -/
theorem Grants.pathOnly (insulated : Insulated start srv) (insulated' : Insulated start after)
    {identity? : Option String} (grants : Grants srv.roster peer identity? after.roster)
    (closings : after.closings = srv.closings) (dispatcher : after.dispatcher = srv.dispatcher) :
    PathOnly srv after peer identity? := by
  have untouched {id : SessionId} (alike : srv.roster.Alike after.roster id) :
      srv.roster.Untouched after.roster id :=
    alike.untouched insulated.keyed insulated'.keyed insulated.exact.live.keys
      insulated'.exact.live.keys
  clear insulated'
  rcases after with ⟨roster⟩
  cases grants with
  | nothing conveyanceCounter =>
    have alike (id : SessionId) : srv.roster.Alike { srv.roster with conveyanceCounter } id :=
      { Roster.Alike.refl srv.roster id with }
    exact ⟨fun id _ => untouched (alike id), fun _ id _ _ => .inl (untouched (alike id)), closings,
      dispatcher⟩
  | @path identity id s key named holder free unused =>
    refine ⟨?_, ?_, closings, dispatcher⟩
    · intro other elsewhere
      have differs : other ≠ id := by
        rintro rfl
        exact elsewhere identity named holder.found
      -- the id led nowhere before, so no entry of anyone is replaced
      refine untouched ⟨Roster.session?_update_of_ne differs, .rfl, fun name => ?_, fun _ => .rfl,
        fun _ => .rfl⟩
      exact mem_setEntry_of_ne differs (not_mem_of_lookup_eq_none unused)
    · intro identity' other named' found
      obtain rfl := Option.some.inj (named.symm.trans named')
      obtain rfl := Option.some.inj (holder.found.symm.trans found)
      refine .inr ⟨s, key, ⟨holder.present, holder.active, free⟩, ?_, unused, ?_, rfl, rfl, rfl⟩
      · exact Roster.session?_update_self.trans (congrArg (Option.map _) holder.present)
      · intro name
        split
        · rename_i same
          exact same ▸ lookup_setEntry_self
        · rename_i differs
          exact lookup_setEntry_of_ne differs

theorem pathOnly_process (insulated : Insulated start srv) (peer : DatagramPeer) (kind : RequestKind)
    (transport : TransportKind) :
    PathOnly srv (srv.process ⟨.peer peer, kind, transport⟩) peer
      (srv.named? peer.client kind) := by
  obtain ⟨grants, closings, dispatcher⟩ := grants_process insulated.answers peer kind transport
  exact grants.pathOnly insulated (insulated.process _) closings dispatcher

/-! ## Requests -/

/-- The closing that a takeover brings with it. -/
def severed (srv : Server) (id : SessionId) (kind : RequestKind) :
    List (SessionId × CloseReason) :=
  ((srv.takeover? id kind).map fun taken => (taken.2, .reconnected)).toList

/-- A request of a session, handled with some result, changes no other session but the one that it
takes an identity from. -/
structure Isolated (srv after : Server) (id : SessionId) (kind : RequestKind)
    (result : Except HandlerFailure Unit) : Prop where
  others : ∀ other, other ≠ id →
    (∀ identity, srv.takeover? id kind ≠ some (identity, other)) →
      srv.roster.Untouched after.roster other
  usurped : ∀ identity old, srv.takeover? id kind = some (identity, old) →
    Usurped srv after identity id old
  /-- If somebody else is closed, it is the session itself, and no handler has failed. -/
  closings : after.closings = srv.closings ++ srv.severed id kind ∨
    result = .ok () ∧ after.closings = srv.closings ++ [(id, .rejected)]
  failed : ∀ failure, result = .error failure →
    ∀ other, (∀ identity, srv.takeover? id kind ≠ some (identity, other)) →
      after.roster.isActive other = srv.roster.isActive other
  /-- All that is queued are the notices of closings. -/
  told : ∃ new, after.closings = srv.closings ++ new ∧
    after.dispatcher = srv.dispatcher.appendAll (srv.told new)
  idle : ∀ other, after.roster.association? other ≠ some .doing

theorem isolated_process (insulated : Insulated start srv) (id : SessionId) (kind : RequestKind)
    (transport : TransportKind) :
    Isolated srv (srv.process ⟨.session id, kind, transport⟩) id kind
      (srv.handle ⟨.session id, kind, transport⟩).2 := by
  have next := insulated.process ⟨.session id, kind, transport⟩
  have untouched {other : SessionId}
      (alike : srv.roster.Alike (srv.process ⟨.session id, kind, transport⟩).roster other) :=
    alike.untouched insulated.keyed next.keyed insulated.exact.live.keys next.exact.live.keys
  obtain ⟨new, closes, told⟩ := exists_closes_process srv ⟨.session id, kind, transport⟩
  cases taken : srv.takeover? id kind with
  | none =>
    have outcome := outcome_process insulated.toDiscreet taken transport
    have alike {other : SessionId} (differs : other ≠ id) :=
      outcome.alike insulated.toDiscreet differs
    generalize (srv.handle ⟨.session id, kind, transport⟩).2 = result at outcome ⊢
    refine ⟨fun other differs _ => untouched (alike differs), ?_, ?_, ?_,
      ⟨new, closes.closings, told⟩, next.idle⟩
    · intro identity old held
      cases taken.symm.trans held
    · have nothing : srv.severed id kind = [] := by rw [severed, taken]; rfl
      rw [nothing, List.append_nil]
      cases outcome with
      | kept roster closings => exact .inl closings
      | bound absent roster closings => exact .inl closings
      | rejected roster closings => exact .inr ⟨rfl, closings⟩
    · intro failure failed other _
      subst failed
      by_cases own : other = id
      · exact own ▸ outcome.of_failed.2
      · exact (alike own).isActive
  | some identity_old =>
    obtain ⟨identity, old⟩ := identity_old
    obtain ⟨usurped, alike⟩ := usurped_process insulated taken transport
    have elsewhere {other : SessionId} (free : ∀ name, srv.takeover? id kind ≠ some (name, other)) :
        other ≠ old := fun same => free identity (same ▸ taken)
    refine ⟨fun other differs free => untouched (alike other differs (elsewhere free)), ?_, ?_, ?_,
      ⟨new, closes.closings, told⟩, next.idle⟩
    · intro identity' old' held
      cases taken.symm.trans held
      exact usurped
    · have severed : srv.severed id kind = [(old, .reconnected)] := by rw [severed, taken]; rfl
      exact .inl (severed ▸ usurped.closings)
    · intro failure _ other free
      by_cases own : other = id
      · obtain ⟨s, before, after⟩ := usurped.taker
        rw [own, isActive_of_session after, isActive_of_session before]
      · exact (alike other own (elsewhere free)).isActive

/-- However a run has come about in which handlers only answer, fail or panic, a request changes no
session but the one it is from, and the one whose identity it takes over or that gets a path. -/
theorem process_isolated (plan : ServerPlan) (shardKey : RequestSender → Nat)
    (handlers : HandlerTable) (only : handlers.OnlyAnswers) (affairs : List Affair)
    (kind : RequestKind) (transport : TransportKind) :
    let srv := (blank plan shardKey handlers).conductAll affairs
    (∀ id, Isolated srv (srv.process ⟨.session id, kind, transport⟩) id kind
        (srv.handle ⟨.session id, kind, transport⟩).2) ∧
      ∀ peer, PathOnly srv (srv.process ⟨.peer peer, kind, transport⟩) peer
        (srv.named? peer.client kind) := by
  intro srv
  have insulated : Insulated (blank plan shardKey handlers) srv :=
    conductAll_preserves (fun _ affair insulated => insulated.conduct affair) affairs
      (insulated_blank plan shardKey only)
  exact ⟨fun id => isolated_process insulated id kind transport,
    fun peer => pathOnly_process insulated peer kind transport⟩

/-- As the panicking ones, and a client that asks for a path is taken for the same peer. -/
def validating : HandlerTable :=
  panicking.register .datagramChannelValidation fun _ _ =>
    { outcome := .ok (.identity (some "ann")) }

/-- There are three streams; the first gets an identity and a tunnel, and packets are queued. -/
def populating : List Affair :=
  [.incident (.operation (.acceptStream {} .loopback)),
    .incident (.operation (.acceptStream {} .loopback)),
    .incident (.operation (.acceptStream {} .loopback)),
    .incident (.operation (.process ⟨.session 0, .connectionRequest .empty, .tcp⟩)),
    .incident (.addTunnel 0 ⟨7, {}⟩), .send 0 .empty, .send 2 .empty]

/-- Session 1 takes over what session 0 has although the handler that is told of it panics, and a
client gets a path to session 0; session 2, which has packets to send, is not concerned. -/
theorem process_isolated_populating :
    let srv := (blank { sessions := { tunnelEnabled := true } } RequestSender.number
      validating).conductAll populating
    let taken := srv.process ⟨.session 1, .connectionRequest .empty, .tcp⟩
    let granted := srv.process ⟨.peer ⟨3, 1⟩, .datagramHandshake .empty, .tcp⟩
    validating.OnlyAnswers ∧
      ((srv.session? 2).any (fun s => s.writeScheduled) = true ∧
        srv.roster.findTunnel? 7 = some 0) ∧
      ((srv.handle ⟨.session 1, .connectionRequest .empty, .tcp⟩).2 = .error .panicked ∧
        Usurped srv taken "ann" 1 0 ∧ srv.roster.Untouched taken.roster 2 ∧
        taken.roster.isActive 1 = true) ∧
      (∃ s key, Pathed srv granted ⟨3, 1⟩ 0 s key) ∧ srv.roster.Untouched granted.roster 2 := by
  intro srv taken granted
  have only : validating.OnlyAnswers := by
    have empty : HandlerTable.OnlyAnswers {} := by rintro entry ⟨⟩
    have panicking : panicking.OnlyAnswers :=
      ((empty.register fun _ _ => rfl).register fun _ _ => rfl).register fun _ _ => rfl
    exact panicking.register fun _ _ => rfl
  have isolated := process_isolated { sessions := { tunnelEnabled := true } }
    RequestSender.number validating only populating
  obtain ⟨requests, -⟩ := isolated (.connectionRequest .empty) .tcp
  obtain ⟨-, handshakes⟩ := isolated (.datagramHandshake .empty) .tcp
  have takeover : srv.takeover? 1 (.connectionRequest .empty) = some ("ann", 0) := by
    decide +kernel
  have named : srv.named? 3 (.datagramHandshake .empty) = some "ann" := by decide +kernel
  have elsewhere (other : SessionId) (differs : other ≠ 0) (identity : String) :
      srv.takeover? 1 (.connectionRequest .empty) ≠ some (identity, other) := by
    rw [takeover]
    simp [differs.symm]
  have panicked : (srv.handle ⟨.session 1, .connectionRequest .empty, .tcp⟩).2 =
      .error .panicked := rfl
  have remains : taken.roster.isActive 1 = srv.roster.isActive 1 :=
    (requests 1).failed .panicked panicked 1 (elsewhere 1 (by decide))
  refine ⟨only, by decide +kernel, ⟨panicked, (requests 1).usurped "ann" 0 takeover,
    (requests 1).others 2 (by decide) (elsewhere 2 (by decide)), ?_⟩, ?_, ?_⟩
  · rw [remains]
    decide +kernel
  · have given : ¬ srv.roster.Untouched granted.roster 0 := by
      intro untouched
      have path : (granted.session? 0).bind (·.datagram?) = none := by
        rw [show granted.session? 0 = srv.session? 0 from untouched.session]
        decide +kernel
      revert path
      decide +kernel
    exact ((handshakes ⟨3, 1⟩).holder "ann" 0 named (by decide +kernel)).resolve_left given
  · refine (handshakes ⟨3, 1⟩).others 2 fun identity same => ?_
    obtain rfl := Option.some.inj (named.symm.trans same)
    decide +kernel

end Server

end SessionNet
