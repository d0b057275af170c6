import SessionNet.Proofs.Dispatch.Handshake
import SessionNet.Proofs.Server.Incidents

/-!
# Whom a datagram reaches

Datagrams come from anywhere and say of themselves which session they belong to. A server that only
clients and sessions have had to do with lets them through to a session under one condition: the
session is open and has the conveyance id that the datagram names, and the handshake that gave it
this id came from the sender of the datagram. On which sockets the two arrived, what the datagram
says and what has happened before do not matter beside that, and all other sessions, and all of the
server if there is none, are as they were.
-/

namespace SessionNet.Server

variable {srv : Server} {incidents : List Incident} {id other : SessionId} {client : ClientId}
variable {peer : DatagramPeer} {key : UInt32}

/-! ## Handshakes -/

/-- A handshake of a client, on any socket, gave a session its datagram path in the course of a
run. -/
def Introduced (srv : Server) (incidents : List Incident) (id : SessionId) (client : ClientId) :
    Prop :=
  ∃ before incident after socket, incidents = before ++ incident :: after ∧
    (srv.undergoAll before).Asks incident ⟨client, socket⟩ ∧
    (srv.undergoAll before).roster.path? id = none ∧
    ((srv.undergoAll before).undergo incident).roster.path? id ≠ none

/-- No two clients ask for a path in one incident. -/
theorem Asks.unique {incident : Incident} {peer' : DatagramPeer} (one : srv.Asks incident peer)
    (two : srv.Asks incident peer') : peer = peer' := by
  rcases incident with operation | _ | _ | _ | _ | _ | _ | _ | _ | _ | _
  case operation =>
    cases operation with
    | process request => exact Option.some.inj (one.symm.trans two)
    | shardStep shard =>
      obtain ⟨queued, dispatcher, taken, asks⟩ := one
      obtain ⟨queued', dispatcher', taken', asks'⟩ := two
      cases taken.symm.trans taken'
      exact Option.some.inj (asks.symm.trans asks')
    | _ => exact one.elim
  all_goals exact one.elim

/-- A path that was given stays the same for the rest of a run. -/
theorem path?_undergoAll {path : DatagramChannel} (given : srv.roster.path? id = some path)
    (incidents : List Incident) : (srv.undergoAll incidents).roster.path? id = some path := by
  refine undergoAll_preserves (P := fun srv => srv.roster.path? id = some path) ?_ given incidents
  intro srv incident given
  rcases (srv.passes_undergo incident).shifts.path id with same | ⟨pathless, -⟩
  · exact same.trans given
  · cases pathless.symm.trans given

theorem hasPathTo_iff :
    srv.hasPathTo id client = true ↔
      ∃ socket key, srv.roster.path? id = some ⟨⟨client, socket⟩, key⟩ := by
  change ((srv.roster.path? id).any (·.peer.client == client)) = true ↔ _
  cases srv.roster.path? id with
  | none => simp
  | some path =>
    rcases path with ⟨⟨other, socket⟩, key⟩
    simp

/-- The path of a session leads to the client whose handshake gave it to the session. -/
theorem hasPathTo_iff_introduced (pathless : srv.roster.path? id = none)
    (incidents : List Incident) :
    (srv.undergoAll incidents).hasPathTo id client = true ↔
      srv.Introduced incidents id client := by
  induction incidents generalizing srv with
  | nil =>
    have never : ¬ srv.Introduced [] id client := by
      rintro ⟨before, incident, after, socket, split, -⟩
      simp at split
    refine iff_of_false ?_ never
    rw [hasPathTo_iff]
    rintro ⟨socket, key, given⟩
    cases pathless.symm.trans given
  | cons incident rest ih =>
    cases given : (srv.undergo incident).roster.path? id with
    | none =>
      refine (ih given).trans ⟨?_, ?_⟩
      · rintro ⟨before, later, after, socket, rfl, asks⟩
        exact ⟨incident :: before, later, after, socket, rfl, asks⟩
      · rintro ⟨_ | ⟨first, before⟩, later, after, socket, split, asks, none, gained⟩
        · cases split
          exact absurd given gained
        · cases split
          exact ⟨before, later, after, socket, rfl, asks, none, gained⟩
    | some path =>
      -- whoever asked here is the one that the path leads to
      have final : (srv.undergoAll (incident :: rest)).roster.path? id = some path :=
        path?_undergoAll given rest
      rcases (srv.passes_undergo incident).shifts.path id with same | ⟨-, asker, key, asks, led⟩
      · cases (same.trans pathless).symm.trans given
      obtain rfl : path = ⟨asker, key⟩ := Option.some.inj (given.symm.trans led)
      have introduced : srv.Introduced (incident :: rest) id asker.client :=
        ⟨[], incident, rest, asker.socket, rfl, asks, pathless,
          by rw [undergoAll, List.foldl_nil, given]; nofun⟩
      rw [hasPathTo_iff]
      constructor
      · rintro ⟨socket, key', led'⟩
        cases final.symm.trans led'
        exact introduced
      · rintro ⟨_ | ⟨first, before⟩, later, after, socket, split, asks', none, -⟩
        · cases split
          exact ⟨socket, key, by rw [final, Asks.unique asks' asks]⟩
        · cases split
          cases none.symm.trans (path?_undergoAll given before)

/-- Entries and datagram paths fit together throughout a run. -/
theorem conveyed_undergoAll (conveyed : srv.roster.Conveyed) (incidents : List Incident) :
    (srv.undergoAll incidents).roster.Conveyed :=
  undergoAll_preserves (P := fun srv => srv.roster.Conveyed) (fun srv incident conveyed =>
    conveyed.rewirings (srv.passes_undergo incident).shifts.rewirings) conveyed incidents

/-! ## Sessions that are reached -/

/-- Who is reached has the conveyance id, is open, and was introduced by the sender. -/
theorem reached_iff (conveyed : srv.roster.Conveyed) :
    srv.roster.findConveyance? key = some id ↔ srv.roster.Carries .datagram id key :=
  ⟨Roster.Wired.carries conveyed.wired .datagram, conveyed.findable id key⟩

/--
Datagram isolation. After any run that begins without sessions, a datagram that does not decode
changes nothing, and one that names no conveyance asks for a handshake at most. Any other belongs to
at most one open session, and is a message of that session if the session's handshake came from its
sender; otherwise it changes nothing. No session is closed, and no closed session is changed.
-/
theorem datagram_isolated (plan : ServerPlan) (shardKey : RequestSender → Nat)
    (handlers : HandlerTable) (incidents : List Incident) (peer : DatagramPeer) (data : Bytes) :
    let srv := (blank plan shardKey handlers).undergoAll incidents
    let later := srv.datagramReceived peer data
    (∀ e, srv.supply.codec.decodeDatagram data = .error e → later = srv) ∧
    (∀ message, srv.supply.codec.decodeDatagram data = .ok (0, message) →
      later = srv ∨ ∃ dispatcher,
        srv.dispatcher.enqueue ⟨.peer peer, .datagramHandshake message, .udp⟩ =
          .ok dispatcher ∧ later = { srv with dispatcher }) ∧
    (∀ key message, srv.supply.codec.decodeDatagram data = .ok (key, message) → key ≠ 0 →
      (∀ id other, srv.roster.Carries .datagram id key → srv.roster.Carries .datagram other key →
        id = other) ∧
      (∀ id, srv.roster.Carries .datagram id key →
        (blank plan shardKey handlers).Introduced incidents id peer.client →
        later = (((srv.recordRead id data.length).touch id).submit id message .udp).1) ∧
      ((∀ id, srv.roster.Carries .datagram id key →
        ¬ (blank plan shardKey handlers).Introduced incidents id peer.client) → later = srv)) ∧
    ∀ id, later.roster.isActive id = srv.roster.isActive id ∧
      (srv.roster.isActive id = false → later.session? id = srv.session? id) := by
  intro srv later
  have conveyed : srv.roster.Conveyed :=
    conveyed_undergoAll (.of_no_sessions rfl rfl rfl) incidents
  have pathless : ∀ id, (blank plan shardKey handlers).roster.path? id = none := fun _ => rfl
  have leads : ∀ id, srv.hasPathTo id peer.client = true ↔
      (blank plan shardKey handlers).Introduced incidents id peer.client :=
    fun id => hasPathTo_iff_introduced (pathless id) incidents
  refine ⟨?_, ?_, ?_, ?_⟩
  · intro e failed
    simp only [later, datagramReceived, failed]
  · intro message decoded
    simp only [later, datagramReceived, decoded, if_true]
    split
    · rename_i dispatcher accepted
      exact .inr ⟨dispatcher, accepted, rfl⟩
    · exact .inl rfl
  · intro key message decoded nonzero
    refine ⟨fun id other => conveyed.unique, ?_, ?_⟩
    · intro id carries introduced
      have found := (reached_iff conveyed).2 carries
      simp only [later, datagramReceived, decoded, nonzero, if_false, found,
        (leads id).2 introduced, if_true]
    · intro stranger
      simp only [later, datagramReceived, decoded, nonzero, if_false]
      split
      · rfl
      · rename_i id found
        rw [if_neg fun led => stranger id ((reached_iff conveyed).1 found) ((leads id).1 led)]
  · intro id
    rcases srv.datagramReceived_cases peer data with
      ⟨dispatcher, aside⟩ | ⟨key, reached, message, found, -, taken⟩
    · rw [show later = { srv with dispatcher } from aside]
      exact ⟨rfl, fun _ => rfl⟩
    · rw [show later = srv.takeIn reached data.length .udp [message] from taken]
      refine ⟨srv.isActive_takeIn reached data.length .udp [message] id, fun inactive =>
        srv.session?_takeIn_of_ne data.length .udp [message] ?_⟩
      -- who is reached is open
      rintro rfl
      obtain ⟨w, present, open_, -⟩ := (reached_iff conveyed).1 found
      obtain ⟨s, hs, rfl⟩ := Option.map_eq_some_iff.mp present
      cases inactive.symm.trans ((isActive_of_session hs).trans open_)

/-- A client has been introduced to session 0, and another one has not. -/
def acquainted : List Incident :=
  [.operation (.acceptStream {} .loopback),
    .operation (.process ⟨.session 0, .connectionRequest .empty, .tcp⟩),
    .operation (.process ⟨.datagram 7, .datagramHandshake .empty, .udp⟩)]

/-- An empty message for the session is submitted if it comes from the one, even on another socket,
and dropped if not. -/
theorem datagram_isolated_acquainted :
    let srv := (blank {} RequestSender.number greeters).undergoAll acquainted
    let data : Bytes := [0, 0, 0, 1, 1, 0, 2, 0x91, 0x80]
    srv.datagramReceived ⟨7, 1⟩ data = (((srv.recordRead 0 9).touch 0).submit 0 .empty .udp).1 ∧
      srv.datagramReceived ⟨8, 0⟩ data = srv := by
  intro srv data
  have codec : srv.supply.codec = {} := rfl
  have decoded : srv.supply.codec.decodeDatagram data = .ok (1, .empty) := by
    rw [codec]
    with_unfolding_all rfl
  have carries : srv.roster.Carries .datagram 0 1 := ⟨_, rfl, rfl, rfl⟩
  have asker : (blank {} RequestSender.number greeters).Introduced acquainted 0 7 :=
    ⟨acquainted.take 2, _, [], 0, rfl, rfl, rfl, nofun⟩
  obtain ⟨-, -, welcome, -⟩ :=
    datagram_isolated {} RequestSender.number greeters acquainted ⟨7, 1⟩ data
  obtain ⟨-, -, strange, -⟩ :=
    datagram_isolated {} RequestSender.number greeters acquainted ⟨8, 0⟩ data
  refine ⟨(welcome 1 .empty decoded (by decide)).2.1 0 carries asker,
    (strange 1 .empty decoded (by decide)).2.2 ?_⟩
  intro id held stranger
  obtain rfl : id = 0 := (strange 1 .empty decoded (by decide)).1 id 0 held carries
  -- the path leads to one client only
  have led := (hasPathTo_iff_introduced rfl acquainted).2 stranger
  exact absurd led (by decide)

end SessionNet.Server
