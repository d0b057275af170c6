import SessionNet.Proofs.Dispatch.Orderly
import SessionNet.Proofs.Dispatch.Undertakings
import SessionNet.Proofs.Server.Rewiring
import SessionNet.Proofs.Server.Serving

/-!
# Datagram handshakes

A client asks for a conveyance id, and a handler names an identity. What the client is told, what is
announced and what became of the roster say the same: either the stream session that holds the
identity has a datagram path to the client from now on, under an id that was not in use, or nothing
has changed and the first condition that failed is named. A path is made before the answer is
encoded, and stays if that fails.
-/

namespace SessionNet

open Roster

/-! ## Who gets a path -/

/-- A session that is active and has a stream holds an identity. -/
structure Roster.StreamHolder (r : Roster) (identity : String) (id : SessionId) (s : Session) :
    Prop where
  found : r.findIdentity? identity = some id
  present : r.session? id = some s
  active : s.isActive = true
  stream : s.transport.kind = .tcp

theorem Roster.StreamHolder.unique {r : Roster} {identity : String} {id other : SessionId}
    {s t : Session} (one : r.StreamHolder identity id s) (two : r.StreamHolder identity other t) :
    id = other ∧ s = t := by
  obtain rfl := Option.some.inj (one.found.symm.trans two.found)
  exact ⟨rfl, Option.some.inj (one.present.symm.trans two.present)⟩

/-- A stream session without a datagram path gets the one it is given. -/
theorem Roster.exists_addDatagram {r : Roster} {identity : String} {id : SessionId} {s : Session}
    {channel : DatagramChannel} (holder : r.StreamHolder identity id s) (free : s.datagram? = none)
    (nonzero : channel.conveyance ≠ 0) : ∃ r', r.addDatagram id channel = .ok r' := by
  have attached : s.attachDatagram channel = .ok { s with datagram? := some channel } := by
    simp [Session.attachDatagram, nonzero, holder.stream, free]
  simp [Roster.addDatagram, holder.present, holder.active, attached]

namespace Server

variable {srv asked : Server} {peer : DatagramPeer} {message : Message} {identity : String}

/-- The ways in which an identity is tried for a datagram path. -/
inductive Tried (srv : Server) (peer : DatagramPeer) (identity : String) :
    (DatagramAccess × UInt32) × Server → Prop
  | absent (nobody : ∀ id s, ¬ srv.roster.StreamHolder identity id s) :
      Tried srv peer identity ((.sessionNotFound, 0), srv)
  | bound {id : SessionId} {s : Session} (holder : srv.roster.StreamHolder identity id s)
      (path : s.datagram?.isSome = true) : Tried srv peer identity ((.alreadyBound, 0), srv)
  | given {id : SessionId} {s : Session} {key : UInt32} {roster roster' : Roster}
      (holder : srv.roster.StreamHolder identity id s) (free : s.datagram? = none)
      (next : srv.roster.nextConveyance? = some (key, roster))
      (added : roster.addDatagram id ⟨peer, key⟩ = .ok roster') :
      Tried srv peer identity ((.success, key), { srv with roster := roster' })

theorem tried_grantPath (srv : Server) (peer : DatagramPeer) (identity : String)
    (free : ∃ key, key ≠ 0 ∧ srv.roster.findConveyance? key = none) :
    Tried srv peer identity (srv.grantPath peer identity) := by
  unfold grantPath
  cases found : srv.roster.findIdentity? identity with
  | none =>
    refine .absent fun id s holder => ?_
    rw [holder.found] at found
    cases found
  | some id =>
    dsimp only
    cases present : srv.session? id with
    | none =>
      refine .absent fun other s holder => ?_
      obtain rfl := Option.some.inj (found.symm.trans holder.found)
      cases present.symm.trans holder.present
    | some s =>
      dsimp only
      split
      case isTrue unfit =>
        refine .absent fun other t holder => ?_
        obtain rfl := Option.some.inj (found.symm.trans holder.found)
        obtain rfl := Option.some.inj (present.symm.trans holder.present)
        simp [holder.active, holder.stream] at unfit
      case isFalse fit =>
        have holder : srv.roster.StreamHolder identity id s := by
          simp only [Bool.or_eq_true, Bool.not_eq_true', bne_iff_ne, not_or, Bool.not_eq_false,
            not_not] at fit
          exact ⟨found, present, fit.1, fit.2⟩
        split
        case isTrue path => exact .bound holder path
        case isFalse pathless =>
          have pathless : s.datagram? = none := by simpa using pathless
          obtain ⟨key, roster, next⟩ := exists_nextConveyance free
          obtain ⟨nonzero, -, counted⟩ := nextConveyance_eq_some next
          have still : roster.StreamHolder identity id s := by
            rw [counted]
            exact ⟨holder.found, holder.present, holder.active, holder.stream⟩
          have added : ∃ roster', roster.addDatagram id ⟨peer, key⟩ = .ok roster' :=
            exists_addDatagram still pathless nonzero
          obtain ⟨roster', added⟩ := added
          simp only [next, added]
          exact .given holder pathless next added

/-- The verdict on a handshake and the server after a path was made, if one was. -/
def judge (srv : Server) (peer : DatagramPeer) : Option String → (DatagramAccess × UInt32) × Server
  | none => ((.invalidIdentity, 0), srv)
  | some identity => srv.grantPath peer identity

/-- What a verdict says, and what became of the sessions and the index of conveyance ids. -/
structure Verdict (asked : Server) (peer : DatagramPeer) (identity? : Option String)
    (access : DatagramAccess) (conveyance : UInt32) (granted : Server) : Prop where
  success_iff : access = .success ↔ ∃ identity id s, identity? = some identity ∧
    asked.roster.StreamHolder identity id s ∧ s.datagram? = none
  invalidIdentity_iff : access = .invalidIdentity ↔ identity? = none
  sessionNotFound_iff : access = .sessionNotFound ↔ ∃ identity, identity? = some identity ∧
    ∀ id s, ¬ asked.roster.StreamHolder identity id s
  alreadyBound_iff : access = .alreadyBound ↔ ∃ identity id s, identity? = some identity ∧
    asked.roster.StreamHolder identity id s ∧ s.datagram?.isSome = true
  /-- The session of the identity, and it alone, has a path that leads to the client through the
  socket on which it asked. -/
  bound : access = .success → ∃ identity id s, identity? = some identity ∧
    asked.roster.StreamHolder identity id s ∧
    conveyance ≠ 0 ∧ asked.roster.findConveyance? conveyance = none ∧
    granted.roster.findConveyance? conveyance = some id ∧
    granted.session? id = some { s with datagram? := some ⟨peer, conveyance⟩ } ∧
    (∀ other, other ≠ id → granted.session? other = asked.session? other) ∧
    (∀ key, key ≠ conveyance →
      granted.roster.findConveyance? key = asked.roster.findConveyance? key) ∧
    ∀ name, granted.roster.findIdentity? name = asked.roster.findIdentity? name
  /-- A refusal changes nothing. -/
  kept : access ≠ .success → conveyance = 0 ∧ granted = asked
  /-- A path shows in the roster only. -/
  frame : granted = { asked with roster := granted.roster }

theorem verdict_invalid (asked : Server) (peer : DatagramPeer) :
    Verdict asked peer none .invalidIdentity 0 asked where
  success_iff := ⟨nofun, fun ⟨_, _, _, named, _⟩ => nomatch named⟩
  invalidIdentity_iff := iff_of_true rfl rfl
  sessionNotFound_iff := ⟨nofun, fun ⟨_, named, _⟩ => nomatch named⟩
  alreadyBound_iff := ⟨nofun, fun ⟨_, _, _, named, _⟩ => nomatch named⟩
  bound := nofun
  kept _ := ⟨rfl, rfl⟩
  frame := rfl

theorem verdict_absent (nobody : ∀ id s, ¬ asked.roster.StreamHolder identity id s) :
    Verdict asked peer (some identity) .sessionNotFound 0 asked where
  success_iff := ⟨nofun, fun ⟨_, id, s, named, holder, _⟩ =>
    absurd (Option.some.inj named ▸ holder) (nobody id s)⟩
  invalidIdentity_iff := ⟨nofun, nofun⟩
  sessionNotFound_iff := iff_of_true rfl ⟨identity, rfl, nobody⟩
  alreadyBound_iff := ⟨nofun, fun ⟨_, id, s, named, holder, _⟩ =>
    absurd (Option.some.inj named ▸ holder) (nobody id s)⟩
  bound := nofun
  kept _ := ⟨rfl, rfl⟩
  frame := rfl

theorem verdict_bound {id : SessionId} {s : Session} (holder : asked.roster.StreamHolder identity id s)
    (path : s.datagram?.isSome = true) :
    Verdict asked peer (some identity) .alreadyBound 0 asked where
  success_iff := by
    refine ⟨nofun, fun ⟨name, other, t, named, holds, free⟩ => ?_⟩
    cases named
    rw [(holder.unique holds).2, free] at path
    cases path
  invalidIdentity_iff := ⟨nofun, nofun⟩
  sessionNotFound_iff := ⟨nofun, fun ⟨_, named, nobody⟩ =>
    absurd (Option.some.inj named ▸ holder) (nobody id s)⟩
  alreadyBound_iff := iff_of_true rfl ⟨identity, id, s, rfl, holder, path⟩
  bound := nofun
  kept _ := ⟨rfl, rfl⟩
  frame := rfl

theorem verdict_given {id : SessionId} {s : Session} {key : UInt32} {roster roster' : Roster}
    (holder : asked.roster.StreamHolder identity id s) (free : s.datagram? = none)
    (next : asked.roster.nextConveyance? = some (key, roster))
    (added : roster.addDatagram id ⟨peer, key⟩ = .ok roster') :
    Verdict asked peer (some identity) .success key { asked with roster := roster' } where
  success_iff := iff_of_true rfl ⟨identity, id, s, rfl, holder, free⟩
  invalidIdentity_iff := ⟨nofun, nofun⟩
  sessionNotFound_iff := ⟨nofun, fun ⟨_, named, nobody⟩ =>
    absurd (Option.some.inj named ▸ holder) (nobody id s)⟩
  alreadyBound_iff := by
    refine ⟨nofun, fun ⟨name, other, t, named, holds, path⟩ => ?_⟩
    cases named
    rw [← (holder.unique holds).2, free] at path
    cases path
  bound _ := by
    obtain ⟨nonzero, unused, rfl⟩ := nextConveyance_eq_some next
    have given := given_addDatagram added
    obtain ⟨t, present, -, -, rfl⟩ := addDatagram_eq_ok added
    obtain rfl : s = t := Option.some.inj (holder.present.symm.trans present)
    refine ⟨identity, id, s, rfl, holder, nonzero, unused, given.entry, ?_, ?_, given.entries,
      fun _ => rfl⟩
    · exact Roster.session?_update_self.trans (congrArg (Option.map _) present)
    · exact fun other differs => Roster.session?_update_of_ne differs
  kept := nofun
  frame := rfl

/-- Every handshake is settled by a verdict, as long as some conveyance id is free. -/
theorem verdict_judge {identity? : Option String} {access : DatagramAccess} {conveyance : UInt32}
    {granted : Server} (judged : asked.judge peer identity? = ((access, conveyance), granted))
    (free : ∃ key, key ≠ 0 ∧ asked.roster.findConveyance? key = none) :
    Verdict asked peer identity? access conveyance granted := by
  cases identity? with
  | none =>
    cases judged
    exact verdict_invalid asked peer
  | some identity =>
    have tried := tried_grantPath asked peer identity free
    rw [show asked.grantPath peer identity = _ from judged] at tried
    cases tried with
    | absent nobody => exact verdict_absent nobody
    | bound holder path => exact verdict_bound holder path
    | given holder pathless next added => exact verdict_given holder pathless next added

/-! ## What handlers leave alone -/

/-- The events that happened, oldest first. -/
def events (srv : Server) : List ServerEvent := srv.history.reverse.filterMap Occurrence.event?

/-- No event happened, and nothing was encoded or sent. -/
structure Mute (srv srv' : Server) : Prop where
  events : srv'.events = srv.events
  supply : srv'.supply = srv.supply

theorem Mute.trans {srv srv' srv'' : Server} (first : Mute srv srv') (second : Mute srv' srv'') :
    Mute srv srv'' :=
  ⟨second.events.trans first.events, second.supply.trans first.supply⟩

theorem Verdict.mute {granted : Server} {identity? : Option String} {access : DatagramAccess}
    {conveyance : UInt32} (verdict : Verdict asked peer identity? access conveyance granted) :
    Mute asked granted := by
  rw [verdict.frame]
  exact ⟨rfl, rfl⟩

theorem mute_close (srv : Server) (id : SessionId) (reason : CloseReason) :
    Mute srv (srv.close id reason).2 := by
  refine ⟨?_, (writing_close srv id reason).2⟩
  -- the end of a session shows in the history, but is no event
  rcases history_close srv id reason with same | grown
  · rw [events, same, events]
  · simp [events, grown, Occurrence.event?]

theorem mute_act (srv : Server) (action : Action) : Mute srv (srv.act action).1 := by
  cases action with
  | send id message datagram =>
    obtain ⟨⟨_, _, _, sent⟩, _, _, _, sentDatagram⟩ := srv.exists_send_eq id message
    cases datagram with
    | false =>
      have acted : (srv.act (.send id message false)).1 = _ := sent
      rw [acted]
      exact ⟨rfl, rfl⟩
    | true =>
      have acted : (srv.act (.send id message true)).1 = _ := sentDatagram
      rw [acted]
      exact ⟨rfl, rfl⟩
  | close id reason => exact mute_close srv id reason
  | associate id identity => exact ⟨rfl, rfl⟩
  | unregister kind => exact ⟨rfl, rfl⟩

theorem mute_actAll (actions : List Action) (srv : Server) : Mute srv (srv.actAll actions).1 := by
  induction actions generalizing srv with
  | nil => exact ⟨rfl, rfl⟩
  | cons action rest ih =>
    have first := mute_act srv action
    unfold actAll
    rcases hresult : srv.act action with ⟨srv', _ | _⟩ <;> rw [hresult] at first
    · exact first
    · exact first.trans (ih srv')

/-- An event happens once, and whatever its handler does is neither an event nor a datagram. -/
theorem mute_emit (srv : Server) (event : ServerEvent) :
    (srv.emit event).1.events = srv.events ++ [event] ∧ (srv.emit event).1.supply = srv.supply := by
  have recorded : ∀ delivered, (srv.record (.event event delivered)).events = srv.events ++ [event] :=
    fun delivered => by simp [events, record, Occurrence.event?]
  unfold emit
  cases srv.handlers.find? event.kind with
  | none => exact ⟨recorded false, rfl⟩
  | some entry =>
    dsimp only
    have ran := mute_actAll (entry.handler entry.calls event).actions
      { srv.record (.event event true) with handlers := srv.handlers.countCall event.kind }
    rcases hresult : actAll { srv.record (.event event true) with
      handlers := srv.handlers.countCall event.kind } (entry.handler entry.calls event).actions with
      ⟨done, _ | _⟩ <;> rw [hresult] at ran
    · exact ⟨ran.events.trans (recorded true), ran.supply⟩
    · exact ⟨ran.events.trans (recorded true), ran.supply⟩

/-! ## Answers -/

/-- The answer to a client, which is encoded with the next nonce. -/
def encodedReply (srv : Server) (access : DatagramAccess) (conveyance : UInt32) :
    Except NetError Bytes :=
  srv.supply.codec.encodeAsDatagram srv.supply.nonce.1 conveyance (handshakeReply access conveyance)

theorem replyToHandshake_of_ok (srv : Server) (peer : DatagramPeer) {access : DatagramAccess}
    {conveyance : UInt32} {bytes : Bytes} (encoded : srv.encodedReply access conveyance = .ok bytes) :
    srv.replyToHandshake peer access conveyance =
      ({ srv with supply := (srv.supply.nonce.2.send peer bytes).2 }, .ok ()) := by
  have made : srv.supply.nonce.2.codec.encodeAsDatagram srv.supply.nonce.1 conveyance
      (handshakeReply access conveyance) = .ok bytes := encoded
  simp only [replyToHandshake, made]

theorem replyToHandshake_of_error (srv : Server) (peer : DatagramPeer) {access : DatagramAccess}
    {conveyance : UInt32} {e : NetError} (failed : srv.encodedReply access conveyance = .error e) :
    srv.replyToHandshake peer access conveyance =
      ({ srv with supply := srv.supply.nonce.2 }, .error (.failed e)) := by
  have made : srv.supply.nonce.2.codec.encodeAsDatagram srv.supply.nonce.1 conveyance
      (handshakeReply access conveyance) = .error e := failed
  simp only [replyToHandshake, made]

/-- A request of a client leaves nothing to fall back from if it fails. -/
theorem process_datagram (srv : Server) (peer : DatagramPeer) (kind : RequestKind)
    (transport : TransportKind) :
    srv.process ⟨.peer peer, kind, transport⟩ =
      (srv.handle ⟨.peer peer, kind, transport⟩).1 := by
  unfold process
  rcases srv.handle ⟨.peer peer, kind, transport⟩ with ⟨later, _ | _⟩ <;> rfl

variable {granted : Server} {access : DatagramAccess} {conveyance : UInt32}
variable {transport : TransportKind} {reply : EventReply}

/-- After the verdict the client is answered, and if that does not fail the result is announced. -/
theorem handle_of_judged
    (asks : srv.emit (.datagramChannelValidation peer.client message) = (asked, .ok reply))
    (judged : asked.judge peer reply.identity? = ((access, conveyance), granted)) :
    srv.handle ⟨.peer peer, .datagramHandshake message, transport⟩ =
      match granted.replyToHandshake peer access conveyance with
      | (later, .error failure) => (later, .error failure)
      | (later, .ok ()) =>
        later.announce (.datagramChannelResult reply.identity? conveyance access) := by
  have answered : ∀ verdict, asked.judge peer reply.identity? = verdict →
      srv.answerHandshake peer message =
        match verdict.2.replyToHandshake peer verdict.1.1 verdict.1.2 with
        | (later, .error failure) => (later, .error failure)
        | (later, .ok ()) =>
          later.announce (.datagramChannelResult reply.identity? verdict.1.2 verdict.1.1) := by
    rintro _ rfl
    unfold answerHandshake
    rw [asks]
    dsimp only
    cases reply.identity? <;> rfl
  exact answered _ judged

/-- A handshake whose answer can be encoded: the client is sent it, and then the result is announced. -/
theorem handle_of_encoded
    (asks : srv.emit (.datagramChannelValidation peer.client message) = (asked, .ok reply))
    (judged : asked.judge peer reply.identity? = ((access, conveyance), granted))
    {bytes : Bytes} (encoded : granted.encodedReply access conveyance = .ok bytes) :
    srv.handle ⟨.peer peer, .datagramHandshake message, transport⟩ =
      ({ granted with supply := (granted.supply.nonce.2.send peer bytes).2 } : Server).announce
        (.datagramChannelResult reply.identity? conveyance access) := by
  rw [handle_of_judged asks judged, replyToHandshake_of_ok _ peer encoded]

/-- A handshake whose answer cannot be encoded ends there. -/
theorem handle_of_unencodable
    (asks : srv.emit (.datagramChannelValidation peer.client message) = (asked, .ok reply))
    (judged : asked.judge peer reply.identity? = ((access, conveyance), granted))
    {e : NetError} (failed : granted.encodedReply access conveyance = .error e) :
    srv.handle ⟨.peer peer, .datagramHandshake message, transport⟩ =
      ({ granted with supply := granted.supply.nonce.2 }, .error (.failed e)) := by
  rw [handle_of_judged asks judged, replyToHandshake_of_error _ peer failed]

/-- A handshake that does not fail was answered. -/
theorem exists_answer
    (handled : (srv.handle ⟨.peer peer, .datagramHandshake message, transport⟩).2 = .ok ()) :
    ∃ asked reply access conveyance granted bytes,
      srv.emit (.datagramChannelValidation peer.client message) = (asked, .ok reply) ∧
      asked.judge peer reply.identity? = ((access, conveyance), granted) ∧
      granted.encodedReply access conveyance = .ok bytes := by
  rcases asks : srv.emit (.datagramChannelValidation peer.client message) with ⟨asked, failure | reply⟩
  · have failed : srv.handle ⟨.peer peer, .datagramHandshake message, transport⟩ =
        (asked, .error failure) := by
      change srv.answerHandshake peer message = _
      unfold answerHandshake
      rw [asks]
    rw [failed] at handled
    cases handled
  · rcases judged : asked.judge peer reply.identity? with ⟨⟨access, conveyance⟩, granted⟩
    cases encoded : granted.encodedReply access conveyance with
    | ok bytes => exact ⟨asked, reply, access, conveyance, granted, bytes, rfl, judged, encoded⟩
    | error e =>
      rw [handle_of_unencodable asks judged encoded] at handled
      cases handled

/-- What a client is told, what is announced and what became of the roster say the same. -/
structure Agreement (srv asked granted later : Server) (peer : DatagramPeer) (message : Message)
    (identity? : Option String) (access : DatagramAccess) (conveyance : UInt32) : Prop where
  verdict : Verdict asked peer identity? access conveyance granted
  /-- The client is sent one datagram on the socket on which it asked, and nobody else any. -/
  sent : ∃ bytes, srv.encodedReply access conveyance = .ok bytes ∧
    later.supply.port = (srv.supply.port.send peer bytes).2
  /-- The result is announced once, after the question. -/
  events : later.events = srv.events ++ [.datagramChannelValidation peer.client message,
    .datagramChannelResult identity? conveyance access]
  /-- The sessions and the indexes are those of the verdict when the result is announced. -/
  announced : ∃ answered : Server, answered.roster = granted.roster ∧
    answered.announce (.datagramChannelResult identity? conveyance access) = (later, .ok ())

theorem agreement_of_encoded
    (asks : srv.emit (.datagramChannelValidation peer.client message) = (asked, .ok reply))
    (judged : asked.judge peer reply.identity? = ((access, conveyance), granted))
    (free : ∃ key, key ≠ 0 ∧ asked.roster.findConveyance? key = none)
    {bytes : Bytes} (encoded : granted.encodedReply access conveyance = .ok bytes)
    (handled : (srv.handle ⟨.peer peer, .datagramHandshake message, transport⟩).2 = .ok ()) :
    Agreement srv asked granted
      (srv.process ⟨.peer peer, .datagramHandshake message, transport⟩) peer message
      reply.identity? access conveyance := by
  have verdict := verdict_judge judged free
  have whole : srv.handle ⟨.peer peer, .datagramHandshake message, transport⟩ = _ :=
    handle_of_encoded asks judged encoded
  obtain ⟨spoken, unsent⟩ := mute_emit srv (.datagramChannelValidation peer.client message)
  rw [asks] at spoken unsent
  have supply : granted.supply = srv.supply := verdict.mute.supply.trans unsent
  let answered : Server := { granted with supply := (granted.supply.nonce.2.send peer bytes).2 }
  obtain ⟨announced, still⟩ :=
    mute_emit answered (.datagramChannelResult reply.identity? conveyance access)
  have later : srv.process ⟨.peer peer, .datagramHandshake message, transport⟩ =
      (answered.emit (.datagramChannelResult reply.identity? conveyance access)).1 := by
    rw [process_datagram, whole]
    exact announce_eq answered _
  refine ⟨verdict, ⟨bytes, ?_, ?_⟩, ?_, answered, rfl, ?_⟩
  · rwa [encodedReply, supply] at encoded
  · rw [later, still]
    exact supply ▸ rfl
  · have before : answered.events = asked.events := verdict.mute.events
    rw [later, announced, before, spoken, List.append_assoc]
    rfl
  · rw [process_datagram]
    exact Prod.ext (congrArg Prod.fst whole).symm (by rwa [whole] at handled)

/-! ## Runs -/

/-- Whatever its handler does, an event leaves entries and datagram paths fitting together. -/
theorem conveyed_emit (conveyed : srv.roster.Conveyed) (event : ServerEvent) :
    (srv.emit event).1.roster.Conveyed := by
  have deeds : Deeds (fun _ => True) (fun _ => False) srv (srv.emit event).1 :=
    deeds_emit srv trivial
  exact deeds.preserves (P := fun later => later.roster.Conveyed)
    (fun _ _ deed before => before.rewirings (rewirings_deed deed)) conveyed

/-- Entries and datagram paths fit together as long as all paths are made by handshakes. -/
theorem conveyed_undertakeAll {undertakings : List Undertaking} (conveyed : srv.roster.Conveyed)
    (own : ∀ id channel, .addDatagram id channel ∉ undertakings) :
    (srv.undertakeAll undertakings).roster.Conveyed := by
  induction undertakings generalizing srv with
  | nil => exact conveyed
  | cons first rest ih =>
    refine ih ?_ fun id channel member => own id channel (List.mem_cons_of_mem first member)
    cases first with
    | operation operation => exact conveyed.rewirings (rewirings_step srv operation)
    | addDatagram id channel => exact absurd List.mem_cons_self (own id channel)
    | addTunnel id channel => exact conveyed.rewirings (rewirings_addTunnel srv id channel)

/--
A handshake that does not fail: the client is sent one datagram, one result is announced, and both say
what became of the roster. The id of a new path has no entry, so it is that of no live session
exactly if whoever has it would be found by it; that is so in every run in which all paths are made
by handshakes.
-/
theorem handshakes_agree (srv : Server) (peer : DatagramPeer) (message : Message)
    (transport : TransportKind) (plan : ServerPlan) (shardKey : RequestSender → Nat)
    (handlers : HandlerTable) (undertakings : List Undertaking) :
    (let request : Request := ⟨.peer peer, .datagramHandshake message, transport⟩
      let asked := (srv.emit (.datagramChannelValidation peer.client message)).1
      (∃ key, key ≠ 0 ∧ asked.roster.findConveyance? key = none) →
      (srv.handle request).2 = .ok () →
      ∃ reply access conveyance granted,
        (srv.emit (.datagramChannelValidation peer.client message)).2 = .ok reply ∧
        Agreement srv asked granted (srv.process request) peer message reply.identity? access
          conveyance ∧
        (access = .success → ((∀ other, ¬ asked.roster.Carries .datagram other conveyance) ↔
          ∀ other, asked.roster.Carries .datagram other conveyance →
            asked.roster.findConveyance? conveyance = some other)) ∧
        (srv.roster.Conveyed → access = .success →
          ∀ other, ¬ asked.roster.Carries .datagram other conveyance)) ∧
    ((∀ id channel, .addDatagram id channel ∉ undertakings) →
      let r := ((blank plan shardKey handlers).undertakeAll undertakings).roster
      r.Conveyed ∧ ∀ id s channel, r.session? id = some s → s.isActive = true →
        s.datagram? = some channel →
          channel.conveyance ≠ 0 ∧ r.findConveyance? channel.conveyance = some id ∧
          ∀ other t, other ≠ id → r.session? other = some t → t.isActive = true →
            t.datagram?.map (·.conveyance) ≠ some channel.conveyance) := by
  constructor
  · intro request asked free handled
    obtain ⟨asked', reply, access, conveyance, granted, bytes, asks, judged, encoded⟩ :=
      exists_answer handled
    obtain rfl : asked = asked' := congrArg Prod.fst asks
    have agreement := agreement_of_encoded asks judged free encoded handled
    -- the new id has no entry, so nobody can be found by it
    have unused : access = .success → (∀ other, asked.roster.Carries .datagram other conveyance →
        asked.roster.findConveyance? conveyance = some other) →
          ∀ other, ¬ asked.roster.Carries .datagram other conveyance := by
      intro success findable other held
      obtain ⟨-, -, -, -, -, -, unfound, -⟩ := agreement.verdict.bound success
      cases unfound.symm.trans (findable other held)
    refine ⟨reply, access, conveyance, granted, congrArg Prod.snd asks, agreement, ?_, ?_⟩
    · exact fun success => ⟨fun nobody other held => absurd held (nobody other), unused success⟩
    · exact fun conveyed success => unused success fun other held =>
        (conveyed_emit conveyed _).findable other conveyance held
  · intro own r
    have conveyed : r.Conveyed :=
      conveyed_undertakeAll (.of_no_sessions rfl rfl rfl) own
    refine ⟨conveyed, fun id s channel present active path => ?_⟩
    have carries : ∀ {other : SessionId} {t : Session} {key : UInt32}, r.session? other = some t →
        t.isActive = true → t.datagram?.map (·.conveyance) = some key →
          r.Carries .datagram other key :=
      fun present active path => ⟨_, congrArg (Option.map _) present, active, path⟩
    have own := carries present active (congrArg (Option.map _) path)
    refine ⟨conveyed.nonzero id _ own, conveyed.findable id _ own, ?_⟩
    intro other t differs present' active' path'
    exact differs (conveyed.unique (carries present' active' path') own)

/-- Everyone is given the same identity, clients that send datagrams too. -/
def greeters : HandlerTable :=
  let answer : Handler := fun _ _ => { outcome := .ok (.identity (some "ann")) }
  (({} : HandlerTable).register .connectionEstablished answer).register .datagramChannelValidation
    answer

/-- A stream session that is given the identity. -/
def introduced : List Undertaking :=
  [.operation (.acceptStream {} .loopback),
    .operation (.process ⟨.session 0, .connectionRequest .empty, .tcp⟩)]

/-- The first handshake on behalf of the identity succeeds. -/
theorem handshakes_agree_introduced :
    let srv := (blank {} RequestSender.number greeters).undertakeAll introduced
    let request : Request := ⟨.peer ⟨7, 1⟩, .datagramHandshake .empty, .udp⟩
    let asked := (srv.emit (.datagramChannelValidation 7 .empty)).1
    asked.roster.findConveyance? 1 = none ∧ (srv.handle request).2 = .ok () ∧ srv.roster.Conveyed ∧
      ∃ access conveyance granted,
        Agreement srv asked granted (srv.process request) ⟨7, 1⟩ .empty (some "ann") access
          conveyance ∧
        ∀ other, access = .success → ¬ asked.roster.Carries .datagram other conveyance := by
  intro srv request asked
  obtain ⟨agree, runs⟩ :=
    handshakes_agree srv ⟨7, 1⟩ .empty .udp {} RequestSender.number greeters introduced
  have conveyed : srv.roster.Conveyed := (runs (by simp [introduced])).1
  obtain ⟨reply, access, conveyance, granted, replied, agreement, -, unused⟩ :=
    agree ⟨1, by decide, rfl⟩ rfl
  have named : reply = .identity (some "ann") := (Except.ok.inj replied).symm
  subst named
  exact ⟨rfl, rfl, conveyed, access, conveyance, granted, agreement,
    fun other success => unused conveyed success other⟩

/-- Two sessions are given the same conveyance id from outside, and the one that is found is closed. -/
def doubled : List Undertaking :=
  [.operation (.acceptStream {} .loopback), .operation (.acceptStream {} .loopback),
    .operation (.acceptStream {} .loopback),
    .operation (.process ⟨.session 2, .connectionRequest .empty, .tcp⟩),
    .addDatagram 0 (.mk 0 1), .addDatagram 1 (.mk 1 1), .operation (.close 1 .idle)]

/-- A handshake is then given the id that session 0, which is live, still has. -/
theorem conveyance_in_use_given :
    let srv := (blank {} RequestSender.number greeters).undertakeAll doubled
    let request : Request := ⟨.datagram 2, .datagramHandshake .empty, .udp⟩
    (srv.session? 0).map (fun s => (s.isActive, s.datagram?)) = some (true, some (.mk 0 1)) ∧
      (srv.handle request).2 = .ok () ∧
      ((srv.process request).session? 0).map (fun s => (s.isActive, s.datagram?)) =
        some (true, some (.mk 0 1)) ∧
      ((srv.process request).session? 2).map (fun s => (s.isActive, s.datagram?)) =
        some (true, some (.mk 2 1)) ∧
      (srv.process request).roster.findConveyance? 1 = some 2 :=
  ⟨rfl, rfl, rfl, rfl, rfl⟩

/-! ## Answers that cannot be encoded -/

/-- The datagram paths of all sessions and the index of conveyance ids are as they were. -/
structure SamePaths (srv srv' : Server) : Prop where
  paths : ∀ id, (srv'.session? id).map (·.datagram?) = (srv.session? id).map (·.datagram?)
  index : ∀ key, srv'.roster.findConveyance? key = srv.roster.findConveyance? key

/-- Who has a path gets no other one, whichever client asks. -/
theorem judge_of_bound {id : SessionId} {s : Session} (holder : srv.roster.StreamHolder identity id s)
    (path : s.datagram?.isSome = true) (peer : DatagramPeer) :
    srv.judge peer (some identity) = ((.alreadyBound, 0), srv) := by
  have present : srv.session? id = some s := holder.present
  simp [judge, grantPath, holder.found, present, holder.active, holder.stream, path]

/-- After a verdict the paths are as they were exactly if it was a refusal. -/
theorem Verdict.samePaths_iff {later : Server} {identity? : Option String}
    (verdict : Verdict asked peer identity? access conveyance granted)
    (same : later.roster = granted.roster) : SamePaths asked later ↔ access ≠ .success := by
  constructor
  · intro kept success
    obtain ⟨identity, id, s, named, holder, -, unused, found, -⟩ := verdict.bound success
    rw [← same, kept.index, unused] at found
    cases found
  · intro refused
    rw [(verdict.kept refused).2] at same
    exact ⟨fun id => by rw [session?, session?, same], fun key => by rw [same]⟩

/-- After a path was made the identity is refused another one. -/
theorem Verdict.alreadyBound {later : Server} {identity? : Option String}
    (verdict : Verdict asked peer identity? access conveyance granted)
    (same : later.roster = granted.roster) (success : access = .success) :
    ∃ identity id s, identity? = some identity ∧ later.session? id = some s ∧
      s.datagram? = some ⟨peer, conveyance⟩ ∧ later.roster.findConveyance? conveyance = some id ∧
      ∀ other, later.judge other (some identity) = ((.alreadyBound, 0), later) := by
  obtain ⟨identity, id, s, named, holder, -, -, found, present, -, -, names⟩ :=
    verdict.bound success
  have present : later.session? id = some { s with datagram? := some ⟨peer, conveyance⟩ } := by
    rwa [session?, same]
  have holds : later.roster.StreamHolder identity id
      { s with datagram? := some ⟨peer, conveyance⟩ } :=
    { found := by rw [same, names, holder.found]
      present := present
      active := holder.active
      stream := holder.stream }
  exact ⟨identity, id, _, named, present, rfl, by rwa [same], judge_of_bound holds rfl⟩

/--
A handshake whose answer cannot be encoded fails: nothing is sent, and no result is announced. The
datagram paths are as they were exactly if the handshake was refused. If it was not, the session of
the identity keeps the path, and every later handshake for the identity is refused because of it.
-/
theorem unanswered_handshake
    (asks : srv.emit (.datagramChannelValidation peer.client message) = (asked, .ok reply))
    (judged : asked.judge peer reply.identity? = ((access, conveyance), granted))
    (free : ∃ key, key ≠ 0 ∧ asked.roster.findConveyance? key = none)
    {e : NetError} (failed : granted.encodedReply access conveyance = .error e) :
    let request : Request := ⟨.peer peer, .datagramHandshake message, transport⟩
    let later := srv.process request
    Verdict asked peer reply.identity? access conveyance granted ∧
      (srv.handle request).2 = .error (.failed e) ∧
      later.supply.port = srv.supply.port ∧
      later.events = srv.events ++ [.datagramChannelValidation peer.client message] ∧
      (SamePaths asked later ↔ access ≠ .success) ∧
      (access = .success → ∃ identity id s, reply.identity? = some identity ∧
        later.session? id = some s ∧ s.datagram? = some ⟨peer, conveyance⟩ ∧
        later.roster.findConveyance? conveyance = some id ∧
        ∀ other, later.judge other (some identity) = ((.alreadyBound, 0), later)) := by
  intro request later
  have verdict := verdict_judge judged free
  have whole : srv.handle request = _ := handle_of_unencodable asks judged failed
  have ended : later = (srv.handle request).1 := process_datagram srv peer _ transport
  obtain ⟨spoken, unsent⟩ := mute_emit srv (.datagramChannelValidation peer.client message)
  rw [asks] at spoken unsent
  rw [whole] at ended
  have same : later.roster = granted.roster := by rw [ended]
  refine ⟨verdict, by rw [whole], ?_, ?_, verdict.samePaths_iff same, verdict.alreadyBound same⟩
  · rw [ended, ← unsent, ← verdict.mute.supply]
    rfl
  · rw [ended, ← spoken, ← verdict.mute.events]
    rfl

/-- A server that cannot send datagrams of more than eight bytes, and the session of the identity. -/
def terse : Server :=
  (blank { codec := { frameLimit := 8 } } RequestSender.number greeters).undertakeAll introduced

/-- Session 0 has no path, fails to be given one, and is refused one from then on. -/
theorem unanswered_handshake_terse :
    let request : Request := ⟨.datagram 0, .datagramHandshake .empty, .udp⟩
    let asked := (terse.emit (.datagramChannelValidation 0 .empty)).1
    let later := terse.process request
    (terse.handle request).2 = .error (.failed (.oversizedPacket 35)) ∧
      later.supply.port = terse.supply.port ∧
      later.events = terse.events ++ [.datagramChannelValidation 0 .empty] ∧
      ¬ SamePaths asked later ∧
      ∃ id s, later.session? id = some s ∧ s.datagram? = some (.mk 0 1) ∧
        later.roster.findConveyance? 1 = some id ∧
        ∀ other, later.judge other (some "ann") = ((.alreadyBound, 0), later) := by
  intro request asked later
  obtain ⟨-, failed, unsent, announced, paths, kept⟩ :=
    @unanswered_handshake terse asked ⟨0, 0⟩ .empty _ .success 1 .udp (.identity (some "ann")) rfl rfl
      ⟨1, by decide, rfl⟩ _ rfl
  obtain ⟨identity, id, s, named, present, path, found, refused⟩ := kept rfl
  cases named
  exact ⟨failed, unsent, announced, fun same => paths.1 same rfl, id, s, present, path, found, refused⟩

/-- Nothing is sent to the client, and the path of session 0 leads to it all the same. -/
theorem failed_handshake_binds :
    let request : Request := ⟨.datagram 0, .datagramHandshake .empty, .udp⟩
    (terse.session? 0).map (fun s => (s.isActive, s.datagram?)) = some (true, none) ∧
      terse.roster.findConveyance? 1 = none ∧
      (terse.handle request).2 = .error (.failed (.oversizedPacket 35)) ∧
      (terse.process request).supply.port.sent = terse.supply.port.sent ∧
      ((terse.process request).session? 0).map (fun s => (s.isActive, s.datagram?)) =
        some (true, some (.mk 0 1)) ∧
      (terse.process request).roster.findConveyance? 1 = some 0 ∧
      ((terse.process request).judge ⟨0, 0⟩ (some "ann")).1 = (.alreadyBound, 0) :=
  ⟨rfl, rfl, rfl, rfl, rfl, rfl, rfl⟩

end Server

end SessionNet
