import SessionNet.Proofs.Server.Changes
import SessionNet.Proofs.Server.Closing
import SessionNet.Proofs.Session.Steady
import SessionNet.Server.Admission
import SessionNet.Server.Plan

/-!
# A session is torn down once

A managed session is used in any way and closed by any number of callers. One call at most closes
it, and that call alone frees its slot, counts what is lost, shuts its stream or closes its sink,
closes its tunnel, takes it off the indexes and reports its end. Nothing brings it back.
-/

namespace SessionNet

/-- What is done with one session, or by its writer. -/
inductive Use where
  | activate
  | deactivate
  | enqueue (packet : Packet)
  | transition (source target : AssociationState)
  | associate (identity : String)
  | rebind (identity : String)
  | attachSocket (stream : Stream)
  | attachWebSocket (sink : Sink)
  | attachDatagram (channel : DatagramChannel)
  | attachTunnel (channel : TunnelChannel)
  | addDatagram (channel : DatagramChannel)
  | addTunnel (channel : TunnelChannel)
  /-- Claim or give back its place on a run queue. -/
  | setScheduled (scheduled : Bool)
  | setAwaiting (awaits : Bool)
  | schedule
  /-- Write what a pass writes; what follows from its result is left to the writer. -/
  | write
  | close (reason : CloseReason)

namespace Server

/-- Attach a transport to a session, unless that is refused. -/
def attach (srv : Server) (id : SessionId) (attached : Session → Except NetError Session) : Server :=
  srv.update id fun s => (attached s).toOption.getD s

/-- Bind a datagram path to a session, unless that is refused. -/
def addDatagram (srv : Server) (id : SessionId) (channel : DatagramChannel) : Server :=
  match srv.roster.addDatagram id channel with
  | .ok roster => { srv with roster }
  | .error _ => srv

/-- A datagram path is attached, or nothing happens. -/
theorem addDatagram_cases (srv : Server) (id : SessionId) (channel : DatagramChannel) :
    srv.addDatagram id channel = srv ∨ ∃ roster, srv.roster.addDatagram id channel = .ok roster ∧
      srv.addDatagram id channel = { srv with roster } := by
  unfold addDatagram
  cases srv.roster.addDatagram id channel with
  | error e => exact .inl rfl
  | ok roster => exact .inr ⟨roster, rfl, rfl⟩

def write (srv : Server) (id : SessionId) : Server :=
  match srv.session? id with
  | none => srv
  | some s =>
    let pass := s.writePass srv.writers.budget srv.supply
    { srv.update id fun _ => pass.session with supply := pass.supply }

/-- The server after one session was used; a use that fails leaves it as it was. -/
def use (srv : Server) (id : SessionId) : Use → Server
  | .activate => srv.update id Session.activate
  | .deactivate => srv.update id fun s => s.deactivate.2
  | .enqueue packet => (srv.enqueue id packet).1
  | .transition source target => srv.transition id source target
  | .associate identity => { srv with roster := (srv.roster.associate identity id).2 }
  | .rebind identity => { srv with roster := (srv.roster.rebind identity id).2 }
  | .attachSocket stream => srv.attach id (·.attachSocket stream)
  | .attachWebSocket sink => srv.attach id (·.attachWebSocket sink)
  | .attachDatagram channel => srv.attach id (·.attachDatagram channel)
  | .attachTunnel channel => srv.attach id (·.attachTunnel channel)
  | .addDatagram channel => srv.addDatagram id channel
  | .addTunnel channel => (srv.addTunnel id channel).1
  | .setScheduled scheduled => srv.update id fun s => { s with writeScheduled := scheduled }
  | .setAwaiting awaits => srv.update id fun s => { s with awaitsWritable := awaits }
  | .schedule => srv.schedule id
  | .write => srv.write id
  | .close reason => (srv.close id reason).2

/-- The server after uses of one session in order. -/
def useAll (srv : Server) (id : SessionId) (uses : List Use) : Server :=
  uses.foldl (fun srv use => srv.use id use) srv

/-- The reason of a close call that says it closed the session. -/
def won (srv : Server) (id : SessionId) : Use → Option CloseReason
  | .close reason => if (srv.close id reason).1 then some reason else none
  | _ => none

/-- The reasons of all close calls in a run that say they closed the session. -/
def wins (srv : Server) (id : SessionId) : List Use → List CloseReason
  | [] => []
  | use :: rest => (srv.won id use).toList ++ (srv.use id use).wins id rest

variable {srv srv' srv'' : Server} {id : SessionId} {s : Session} {reason : CloseReason}

theorem useAll_append (srv : Server) (id : SessionId) (uses more : List Use) :
    srv.useAll id (uses ++ more) = (srv.useAll id uses).useAll id more := by
  simp only [useAll, List.foldl_append]

theorem wins_append (id : SessionId) (uses more : List Use) :
    ∀ srv : Server, srv.wins id (uses ++ more) =
      srv.wins id uses ++ (srv.useAll id uses).wins id more := by
  induction uses with
  | nil =>
    intro srv
    rfl
  | cons use rest ih =>
    intro srv
    simp only [List.cons_append, wins, ih, List.append_assoc]
    rfl

/-! ## The writer -/

/-- A writer's turn is a run of uses, one of which is a close call if the writing fails. -/
theorem runPass_eq_useAll (srv : Server) (id : SessionId) :
    ∃ uses, srv.runPass id = srv.useAll id uses := by
  unfold runPass
  cases hs : srv.session? id with
  | none => exact ⟨[], rfl⟩
  | some s =>
    dsimp only
    split
    · exact ⟨[.setScheduled false], rfl⟩
    · -- the pass, and then the slot on the run queue is free again
      have passed : srv.useAll id [.write, .setScheduled false] =
          { srv.update id fun _ =>
              { (s.writePass srv.writers.budget srv.supply).session with writeScheduled := false } with
            supply := (s.writePass srv.writers.budget srv.supply).supply } := by
        simp [useAll, use, write, hs, update, Roster.update, List.modify_modify_eq, Function.comp_def]
      rw [← passed]
      split
      · split
        · exact ⟨_, rfl⟩
        · exact ⟨[.write, .setScheduled false, .schedule], rfl⟩
      · exact ⟨[.write, .setScheduled false, .schedule], rfl⟩
      · exact ⟨[.write, .setScheduled false, .setAwaiting true], rfl⟩
      · exact ⟨[.write, .setScheduled false, .close .writeError], rfl⟩

/-- A reader that resumes the writing does so in the writer's place. -/
theorem streamWritable_eq_useAll (srv : Server) (id : SessionId) :
    ∃ uses, srv.streamWritable id = srv.useAll id uses := by
  unfold streamWritable
  cases hs : srv.session? id with
  | none => exact ⟨[], rfl⟩
  | some s =>
    dsimp only
    split
    · split
      · exact ⟨[.setAwaiting false], rfl⟩
      · rcases runPass_eq_useAll (srv.useAll id [.setAwaiting false, .setScheduled true]) id with
          ⟨uses, passed⟩
        refine ⟨[.setAwaiting false, .setScheduled true] ++ uses, ?_⟩
        rw [useAll_append]
        exact passed
    · exact ⟨[], rfl⟩

/-! ## Uses that close nothing -/

/-- Nothing was reported, released, removed or shut, and a session that was not closed is not now. -/
structure Steady (id : SessionId) (srv srv' : Server) : Prop where
  roster : srv.roster.Steady id srv'.roster
  history : srv'.history = srv.history
  dispatcher : srv'.dispatcher = srv.dispatcher
  notifies : srv'.notifiesDispatcher = srv.notifiesDispatcher

namespace Steady

theorem refl (srv : Server) : srv.Steady id srv := ⟨.refl _, rfl, rfl, rfl⟩

theorem trans (first : srv.Steady id srv') (second : srv'.Steady id srv'') : srv.Steady id srv'' where
  roster := first.roster.trans second.roster
  history := second.history.trans first.history
  dispatcher := second.dispatcher.trans first.dispatcher
  notifies := second.notifies.trans first.notifies

theorem session (steady : srv.Steady id srv') (hs : srv.session? id = some s) :
    ∃ t, srv'.session? id = some t ∧ s.Steady t := by
  have related := steady.roster.session
  have present : srv.roster.session? id = some s := hs
  rw [present] at related
  cases ht : srv'.roster.session? id with
  | none => simp [ht] at related
  | some t =>
    rw [ht] at related
    cases related with
    | some steady => exact ⟨t, ht, steady⟩

end Steady

theorem steady_update (srv : Server) {f : Session → Session} (steady : ∀ s : Session, s.Steady (f s)) :
    srv.Steady id (srv.update id f) :=
  ⟨Roster.steady_update fun s _ => steady s, rfl, rfl, rfl⟩

/-- Storing a session computed from the one that is there. -/
theorem steady_replace {t : Session} (hs : srv.session? id = some s) (steady : s.Steady t) :
    srv.Steady id (srv.update id fun _ => t) := by
  refine ⟨⟨?_, rfl, rfl, fun _ h => h, fun _ h => h, fun _ h => h⟩, rfl, rfl, rfl⟩
  have present : srv.roster.session? id = some s := hs
  have stored : (srv.update id fun _ => t).roster.session? id = some t := by
    simp [update, Roster.session?_update_self, present]
  rw [present, stored]
  exact .some steady

theorem steady_attach (srv : Server) {attached : Session → Except NetError Session}
    (steady : ∀ s t : Session, attached s = .ok t → s.Steady t) :
    srv.Steady id (srv.attach id attached) := by
  refine srv.steady_update ?_
  intro s
  cases result : attached s with
  | error e => exact .refl s
  | ok t => exact steady s t result

theorem steady_schedule (srv : Server) (id : SessionId) : srv.Steady id (srv.schedule id) := by
  rcases srv.schedule_cases id with same | ⟨queues, scheduled⟩
  · rw [same]
    exact .refl srv
  · have marked : srv.Steady id (srv.update id fun s => { s with writeScheduled := true }) :=
      srv.steady_update fun s => .mark s
    rw [scheduled]
    exact ⟨marked.roster, rfl, rfl, rfl⟩

theorem steady_write (srv : Server) (id : SessionId) : srv.Steady id (srv.write id) := by
  unfold write
  cases hs : srv.session? id with
  | none => exact .refl srv
  | some s =>
    have written := steady_replace hs (s.steady_writePass srv.writers.budget srv.supply)
    exact ⟨written.roster, rfl, rfl, rfl⟩

theorem steady_enqueue (srv : Server) (id : SessionId) (packet : Packet) :
    srv.Steady id (srv.enqueue id packet).1 := by
  rw [enqueue_eq]
  exact srv.steady_update fun s => s.steady_enqueue packet

theorem steady_addDatagram (srv : Server) (id : SessionId) (channel : DatagramChannel) :
    srv.Steady id (srv.addDatagram id channel) := by
  rcases srv.addDatagram_cases id channel with same | ⟨roster, added, attached⟩
  · rw [same]
    exact .refl srv
  · rw [attached]
    exact ⟨Roster.steady_addDatagram added, rfl, rfl, rfl⟩

theorem steady_addTunnel (srv : Server) (id : SessionId) (channel : TunnelChannel) :
    srv.Steady id (srv.addTunnel id channel).1 := by
  rcases srv.addTunnel_cases id channel with same | ⟨roster, readers, added, attached⟩
  · rw [same]
    exact .refl srv
  · rw [attached]
    exact ⟨Roster.steady_addTunnel added, rfl, rfl, rfl⟩

theorem isActive_of_session (hs : srv.session? id = some s) :
    srv.roster.isActive id = s.isActive := by
  have present : srv.roster.session? id = some s := hs
  simp [Roster.isActive, present]

/-- A close call succeeds exactly on an active session. -/
theorem close_fst (srv : Server) (id : SessionId) (reason : CloseReason) :
    (srv.close id reason).1 = srv.roster.isActive id := by
  unfold close
  cases hs : srv.session? id with
  | none =>
    have absent : srv.roster.session? id = none := hs
    simp [Roster.isActive, absent]
  | some s =>
    have present : srv.roster.session? id = some s := hs
    rw [isActive_of_session hs]
    cases hactive : s.isActive <;> cases hmanaged : s.isManaged <;>
      simp [Roster.close, present, hactive, hmanaged]

theorem steady_use {use : Use} (lost : srv.won id use = none) : srv.Steady id (srv.use id use) := by
  cases use with
  | activate => exact srv.steady_update Session.steady_activate
  | deactivate => exact srv.steady_update Session.steady_deactivate
  | enqueue packet => exact srv.steady_enqueue id packet
  | transition source target => exact ⟨srv.roster.steady_transition source target, rfl, rfl, rfl⟩
  | associate identity => exact ⟨srv.roster.steady_associate identity id, rfl, rfl, rfl⟩
  | rebind identity => exact ⟨srv.roster.steady_rebind identity id, rfl, rfl, rfl⟩
  | attachSocket stream => exact srv.steady_attach fun _ _ => Session.steady_attachSocket
  | attachWebSocket sink => exact srv.steady_attach fun _ _ => Session.steady_attach
  | attachDatagram channel =>
    refine srv.steady_attach ?_
    intro s t attached
    rw [(Roster.attachDatagram_eq_ok attached).2]
    exact .place s (.inr rfl) (.inr rfl)
  | attachTunnel channel =>
    refine srv.steady_attach ?_
    intro s t attached
    rcases Roster.attachTunnel_eq_ok attached with ⟨free, rfl⟩
    exact .place s (.inr rfl) (.inl free)
  | addDatagram channel => exact srv.steady_addDatagram id channel
  | addTunnel channel => exact srv.steady_addTunnel id channel
  | setScheduled scheduled => exact srv.steady_update fun s => .mark s
  | setAwaiting awaits => exact srv.steady_update fun s => .mark s
  | schedule => exact srv.steady_schedule id
  | write => exact srv.steady_write id
  | close reason =>
    have inactive : srv.roster.isActive id = false := by
      rw [← close_fst srv id reason]
      simpa [won] using lost
    have same : srv.use id (.close reason) = srv := close_of_not_active inactive
    rw [same]
    exact .refl srv

theorem steady_useAll {uses : List Use} :
    ∀ {srv : Server}, srv.wins id uses = [] → srv.Steady id (srv.useAll id uses) := by
  induction uses with
  | nil =>
    intro srv _
    exact .refl srv
  | cons use rest ih =>
    intro srv lost
    simp only [wins, List.append_eq_nil_iff, Option.toList_eq_nil_iff] at lost
    exact (steady_use lost.1).trans (ih lost.2)

/-! ## The close call that succeeds -/

/-- What the one close call does that closes a session. -/
structure TornDown (id : SessionId) (reason : CloseReason) (s : Session) (srv srv' : Server) :
    Prop where
  session : ∃ t, srv'.session? id = some t ∧ s.TornDown t reason
  roster : srv.roster.Departed id s srv'.roster
  history : srv'.history = .closed id reason :: srv.history
  /-- The dispatcher gets one notice, if it listens and has not been stopped. -/
  notice : srv'.dispatcher =
    if srv.notifiesDispatcher ∧ srv.dispatcher.phase ≠ .stopped then
      srv.dispatcher.update (srv.dispatcher.shardOf (.session id)) fun shard =>
        { shard with queued :=
            shard.queued ++ [⟨⟨.session id, .sessionClosed reason, s.transport.kind⟩, false⟩] }
    else srv.dispatcher

theorem tornDown_close (hs : srv.session? id = some s) (active : s.isActive = true)
    (managed : s.isManaged = true) (unclosed : s.closeReason? = none) :
    TornDown id reason s srv (srv.close id reason).2 := by
  -- removal and reports come after the tearing down and do not touch the session
  have torn : (srv.close id reason).2.session? id = some (s.tearDown reason) := by
    have present : srv.roster.session? id = some s := hs
    simp [session?, roster_close, Roster.session?_close_self, present, active]
  refine ⟨⟨_, torn, Session.tornDown_tearDown unclosed reason⟩, ?_, ?_, ?_⟩
  · rw [roster_close]
    exact Roster.departed_close reason hs active managed
  · rw [close_of_managed hs active managed]
    exact history_reportClosed
  · rw [close_of_managed hs active managed]
    cases hnotifies : srv.notifiesDispatcher with
    | true => simp [dispatcher_reportClosed]
    | false => simp [reportClosed, record]

/-! ## After it -/

/-- A session that was closed for a reason, for good. -/
structure Ended (id : SessionId) (reason : CloseReason) (srv : Server) : Prop where
  session : ∃ s, srv.session? id = some s ∧ s.Ended reason
  activate : srv.use id .activate = srv
  enqueue : ∀ packet, srv.enqueue id packet = (srv, .error (.illegalState .sessionInactive))
  close : ∀ reason, srv.close id reason = (false, srv)

theorem isActive_of_ended (hs : srv.session? id = some s) (ended : s.Ended reason) :
    srv.roster.isActive id = false :=
  (isActive_of_session hs).trans ended.inactive

theorem ended_of_session (hs : srv.session? id = some s) (ended : s.Ended reason) :
    Ended id reason srv := by
  have kept : ∀ f : Session → Session, f s = s → srv.update id f = srv := by
    intro f fixed
    rw [update, Roster.update_of_fixed fun t present => ?_]
    rwa [← Option.some.inj (hs.symm.trans present)]
  refine ⟨⟨s, hs, ended⟩, ?_, ?_, ?_⟩
  · exact kept _ (by simp [Session.activate, ended.closeReason])
  · intro packet
    simp only [enqueue, hs, Session.enqueue_of_ended ended]
    rw [kept _ rfl]
  · intro reason
    have inactive := isActive_of_ended hs ended
    exact Prod.ext ((close_fst srv id reason).trans inactive) (close_of_not_active inactive)

/-- Whatever is done with a closed session, no close call succeeds and it stays closed. -/
theorem useAll_of_ended (uses : List Use) :
    ∀ {srv : Server} {s : Session}, srv.session? id = some s → s.Ended reason →
      srv.wins id uses = [] ∧
        ∃ t, (srv.useAll id uses).session? id = some t ∧ t.Ended reason := by
  induction uses with
  | nil =>
    intro srv s hs ended
    exact ⟨rfl, s, hs, ended⟩
  | cons use rest ih =>
    intro srv s hs ended
    -- a closed session is not active, so this use does not close it and leaves it as it is
    have lost : srv.won id use = none := by
      cases use with
      | close other => simp [won, close_fst, isActive_of_ended hs ended]
      | _ => rfl
    rcases (steady_use lost).session hs with ⟨t, ht, steady⟩
    rcases ih ht (steady.ended reason ended).1 with ⟨lostLater, later⟩
    exact ⟨by simp [wins, lost, lostLater], later⟩

/-- A run in which some close call succeeds, cut at the first one. -/
theorem wins_cases (id : SessionId) (uses : List Use) :
    ∀ srv : Server, srv.wins id uses = [] ∨ ∃ before reason after,
      uses = before ++ .close reason :: after ∧ srv.wins id before = [] ∧
        ((srv.useAll id before).close id reason).1 = true := by
  induction uses with
  | nil =>
    intro srv
    exact .inl rfl
  | cons use rest ih =>
    intro srv
    cases first : srv.won id use with
    | some reason =>
      -- only a close call can have succeeded
      cases use with
      | close reason =>
        refine .inr ⟨[], reason, rest, rfl, rfl, ?_⟩
        by_cases closed : (srv.close id reason).1 = true
        · exact closed
        · simp [won, closed] at first
      | _ => cases first
    | none =>
      -- the cut of the rest, if there is one, is the cut of the run
      rcases ih (srv.use id use) with lost | ⟨before, reason, after, rfl, lost, closed⟩
      · exact .inl (by simp [wins, first, lost])
      · exact .inr ⟨use :: before, reason, after, rfl, by simp [wins, first, lost], closed⟩

section Runs

variable {before after uses : List Use}

theorem ended_of_tornDown (torn : TornDown id reason s srv srv') :
    ∃ t, srv'.session? id = some t ∧ t.Ended reason := by
  rcases torn.session with ⟨t, ht, torn⟩
  exact ⟨t, ht, torn.inactive, torn.closeReason, torn.queue, torn.pending⟩

/-- The first close call that succeeds finds the session managed and not closed, and tears it down. -/
theorem tornDown_first (hs : srv.session? id = some s) (managed : s.isManaged = true)
    (unclosed : s.closeReason? = none) (lost : srv.wins id before = [])
    (closes : ((srv.useAll id before).close id reason).1 = true) :
    ∃ t, (srv.useAll id before).session? id = some t ∧
      TornDown id reason t (srv.useAll id before) ((srv.useAll id before).close id reason).2 := by
  rcases (steady_useAll lost).session hs with ⟨t, ht, steady⟩
  have active : t.isActive = true := by
    rwa [close_fst, isActive_of_session ht] at closes
  exact ⟨t, ht, tornDown_close ht active (steady.managed.trans managed)
    (steady.closeReason.trans unclosed)⟩

/-- No close call before one that succeeds has succeeded. -/
theorem wins_before (hs : srv.session? id = some s) (managed : s.isManaged = true)
    (unclosed : s.closeReason? = none)
    (closes : ((srv.useAll id before).close id reason).1 = true) : srv.wins id before = [] := by
  rcases wins_cases id before srv with lost | ⟨earlier, first, between, rfl, lost, closesFirst⟩
  · exact lost
  · -- an earlier success would have ended the session
    rcases tornDown_first hs managed unclosed lost closesFirst with ⟨_, _, torn⟩
    rcases ended_of_tornDown torn with ⟨t, ht, ended⟩
    rcases (useAll_of_ended between ht ended).2 with ⟨u, hu, ended'⟩
    rw [useAll_append, close_fst] at closes
    have inactive := isActive_of_ended hu ended'
    exact absurd (closes.symm.trans inactive) nofun

/-- What comes of a run with a close call that succeeds, whatever follows it. -/
theorem useAll_of_success (hs : srv.session? id = some s) (managed : s.isManaged = true)
    (unclosed : s.closeReason? = none)
    (closes : ((srv.useAll id before).close id reason).1 = true) (after : List Use) :
    srv.wins id (before ++ .close reason :: after) = [reason] ∧
      ((srv.useAll id before).close id reason).2.Steady id
        (srv.useAll id (before ++ .close reason :: after)) ∧
      ∃ t, (srv.useAll id (before ++ .close reason :: after)).session? id = some t ∧
        t.Ended reason := by
  have lost := wins_before hs managed unclosed closes
  rcases tornDown_first hs managed unclosed lost closes with ⟨_, _, torn⟩
  rcases ended_of_tornDown torn with ⟨t, ht, ended⟩
  rcases useAll_of_ended after ht ended with ⟨lostAfter, later⟩
  rw [useAll_append]
  refine ⟨?_, steady_useAll lostAfter, later⟩
  have here : (srv.useAll id before).won id (.close reason) = some reason := by simp [won, closes]
  rw [wins_append, lost, wins, here]
  exact congrArg (reason :: ·) lostAfter

/--
Whatever is done with a managed session that was not closed before, and whoever closes it: at most
one close call says that it did, and its reason stays. Until then nothing is taken from the session;
that call tears it down; and afterwards nothing is done to it any more, nor can it be used.
-/
theorem close_once (hs : srv.session? id = some s) (managed : s.isManaged = true)
    (unclosed : s.closeReason? = none) (uses : List Use) :
    (srv.wins id uses).length ≤ 1 ∧
    ((srv.useAll id uses).session? id).bind (·.closeReason?) = (srv.wins id uses).head? ∧
    ∀ before reason after, uses = before ++ .close reason :: after →
      ((srv.useAll id before).close id reason).1 = true →
      let closed := ((srv.useAll id before).close id reason).2
      srv.Steady id (srv.useAll id before) ∧
      (∃ t, (srv.useAll id before).session? id = some t ∧
        TornDown id reason t (srv.useAll id before) closed) ∧
      closed.Steady id (srv.useAll id uses) ∧ Ended id reason (srv.useAll id uses) := by
  -- the reasons and their number only depend on whether any close call succeeds
  have counted : (srv.wins id uses).length ≤ 1 ∧
      ((srv.useAll id uses).session? id).bind (·.closeReason?) = (srv.wins id uses).head? := by
    rcases wins_cases id uses srv with lost | ⟨before, reason, after, rfl, -, closes⟩
    · rcases (steady_useAll lost).session hs with ⟨t, ht, steady⟩
      simp [lost, ht, steady.closeReason, unclosed]
    · rcases useAll_of_success hs managed unclosed closes after with ⟨one, -, t, ht, ended⟩
      simp [one, ht, ended.closeReason]
  refine ⟨counted.1, counted.2, ?_⟩
  rintro before reason after rfl closes
  have lost := wins_before hs managed unclosed closes
  rcases useAll_of_success hs managed unclosed closes after with ⟨-, steady, t, ht, ended⟩
  exact ⟨steady_useAll lost, tornDown_first hs managed unclosed lost closes, steady,
    ended_of_session ht ended⟩

/-- A stream session, a session for a channel of messages, and a slot for each of them. -/
def hosting : Server :=
  let visit := fun srv : Server => do
    let (_, srv) ← srv.acceptStream {} .loopback
    srv.createWebSocket {} .loopback
  match visit (create { sessions := { tunnelEnabled := true } }) with
  | .ok (_, srv) => srv
  | .error _ => create {}

/-- A tunnel is bound if there is a stream, a packet is queued, the peer leaves, and others try to go
on and to close the session as well. -/
def parting : List Use :=
  let packet : Packet := ⟨1, [], .normal, .webSocket, false, none⟩
  [.addTunnel ⟨9, {}⟩, .enqueue packet, .transition .none .doing, .close .peerClosed, .activate,
    .enqueue packet, .write, .close .idle]

/-- The stream is shut and the tunnel closed of the one session, and the sink of the other one. -/
theorem parting_close_once :
    (hosting.wins 0 parting = [.peerClosed] ∧ (hosting.wins 0 parting).length ≤ 1 ∧
      ((hosting.useAll 0 parting).session? 0).bind (·.closeReason?) =
        (hosting.wins 0 parting).head? ∧
      Ended 0 .peerClosed (hosting.useAll 0 parting) ∧
      (∃ t, ((hosting.useAll 0 (parting.take 3)).close 0 .peerClosed).2.session? 0 = some t ∧
        t.transport = .socket { shut := true } ∧ t.tunnel? = some ⟨9, { closed := true }⟩) ∧
      ∃ t, (hosting.useAll 0 parting).session? 0 = some t ∧ t.transport.shut? = some true ∧
        t.tunnelShut? = some true) ∧
    hosting.wins 1 parting = [.peerClosed] ∧
      ∃ t, ((hosting.useAll 1 (parting.take 3)).close 1 .peerClosed).2.session? 1 = some t ∧
        t.transport = .webSocket { closed := true } ∧ t.tunnel? = none := by
  constructor
  · obtain ⟨s, hs, managed, unclosed⟩ : ∃ s, hosting.session? 0 = some s ∧ s.isManaged = true ∧
        s.closeReason? = none := ⟨_, rfl, rfl, rfl⟩
    have once := close_once hs managed unclosed parting
    obtain ⟨-, ⟨t, ht, torn⟩, steady, ended⟩ :=
      once.2.2 (parting.take 3) .peerClosed (parting.drop 4) rfl rfl
    have held : ((hosting.useAll 0 (parting.take 3)).session? 0).map
        (fun s => (s.transport, s.tunnel?)) = some (.socket {}, some ⟨9, {}⟩) := rfl
    rw [ht, Option.map_some, Option.some.injEq, Prod.mk.injEq] at held
    obtain ⟨u, hu, torn⟩ := torn.session
    have stream := torn.stream {} held.1
    have tunnel := torn.tunnel ⟨9, {}⟩ held.2
    obtain ⟨v, hv, steady⟩ := steady.session hu
    refine ⟨rfl, once.1, once.2.1, ended, ⟨u, hu, stream, tunnel⟩, v, hv, ?_, ?_⟩
    · exact steady.transport true (by rw [stream, Transport.shut?])
    · exact steady.tunnel true (by rw [Session.tunnelShut?, tunnel, Option.map_some])
  · obtain ⟨s, hs, managed, unclosed⟩ : ∃ s, hosting.session? 1 = some s ∧ s.isManaged = true ∧
        s.closeReason? = none := ⟨_, rfl, rfl, rfl⟩
    obtain ⟨-, ⟨t, ht, torn⟩, -, -⟩ := (close_once hs managed unclosed parting).2.2 (parting.take 3)
      .peerClosed (parting.drop 4) rfl rfl
    have held : ((hosting.useAll 1 (parting.take 3)).session? 1).map
        (fun s => (s.transport, s.tunnel?)) = some (.webSocket {}, none) := rfl
    rw [ht, Option.map_some, Option.some.injEq, Prod.mk.injEq] at held
    obtain ⟨u, hu, torn⟩ := torn.session
    exact ⟨rfl, u, hu, torn.sink {} held.1, torn.untunneled held.2⟩

end Runs

end Server

end SessionNet
