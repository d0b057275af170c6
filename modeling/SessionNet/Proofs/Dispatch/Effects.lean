import SessionNet.Proofs.Dispatch.Deeds
import SessionNet.Proofs.Dispatch.Ledger

/-!
# What processing a request does to the dispatcher

Handlers may do anything that handlers can do. Still, all that a request adds to the queues of the
dispatcher while it is processed is one notice for each session whose closing is reported, on the
shard of that session and in the order in which they were closed.
-/

namespace SessionNet

namespace Roster

variable {r r' : Roster} {id other : SessionId} {f : Session → Session}

/-- The kind of a session's primary transport. -/
def kindOf (r : Roster) (id : SessionId) : TransportKind :=
  (r.session? id).elim .unknown (·.transport.kind)

theorem kindOf_update (keeps : ∀ s, (f s).transport.kind = s.transport.kind) :
    (r.update id f).kindOf other = r.kindOf other := by
  unfold kindOf
  by_cases same : other = id
  · subst same
    rw [session?_update_self]
    cases r.session? other with
    | none => rfl
    | some s => exact keeps s
  · rw [session?_update_of_ne same]

theorem kindOf_transition (source target : AssociationState) :
    (r.transition id source target).2.kindOf other = r.kindOf other := by
  rw [transition_eq_update]
  refine kindOf_update ?_
  intro s
  unfold Session.transition
  split <;> rfl

theorem kindOf_bind (identity : String) : (r.bind identity id).kindOf other = r.kindOf other := by
  unfold bind
  rw [kindOf_transition]
  exact kindOf_update fun _ => rfl

theorem kindOf_associate (identity : String) :
    (r.associate identity id).2.kindOf other = r.kindOf other :=
  associate_preserves (P := fun r' => r'.kindOf other = r.kindOf other) rfl
    (fun _ before => (kindOf_bind identity).trans before)
    (fun _ before => (kindOf_transition .doing .none).trans before) fun _ _ before => before

theorem kindOf_addDatagram {channel : DatagramChannel} (added : r.addDatagram id channel = .ok r') :
    r'.kindOf other = r.kindOf other := by
  rcases addDatagram_eq_ok added with ⟨_, -, -, -, rfl⟩
  exact kindOf_update (r := r) (f := fun s => { s with datagram? := some channel }) fun _ => rfl

theorem kindOf_close (reason : CloseReason) : (r.close id reason).2.kindOf other = r.kindOf other := by
  unfold kindOf
  by_cases same : other = id
  · subst same
    rw [session?_close_self]
    cases r.session? other with
    | none => rfl
    | some s =>
      -- the stream of a session that closes is shut down, and still is a stream
      simp only [Option.map_some, Option.elim_some]
      split
      · unfold Session.tearDown
        cases s.transport <;> rfl
      · rfl
  · rw [session?_close_of_ne same]

/-- Whether the end of a session would be reported if it were closed now. -/
def isReported (r : Roster) (id : SessionId) : Bool :=
  (r.standing? id).any fun t => t.isActive && t.isManaged

end Roster

/-- The closing that is reported, if that is what happened. -/
def Occurrence.closing? : Occurrence → Option (SessionId × CloseReason)
  | .closed id reason => some (id, reason)
  | .event _ _ => none

namespace Server

/-- The closings that were reported, oldest first. -/
def closings (srv : Server) : List (SessionId × CloseReason) :=
  srv.history.reverse.filterMap Occurrence.closing?

/-- The notice of a closing. -/
def notice (srv : Server) (closing : SessionId × CloseReason) : Queued :=
  ⟨⟨.session closing.1, .sessionClosed closing.2, srv.roster.kindOf closing.1⟩, false⟩

/-- Whether notices are accepted. -/
def isListening (srv : Server) : Bool :=
  srv.notifiesDispatcher && srv.dispatcher.phase != .stopped

/-- The notices that are accepted of closings. -/
def told (srv : Server) (closings : List (SessionId × CloseReason)) : List Queued :=
  if srv.isListening then closings.map srv.notice else []

variable {srv srv' srv'' : Server} {id : SessionId}

theorem closings_record (srv : Server) (o : Occurrence) :
    (srv.record o).closings = srv.closings ++ o.closing?.toList := by
  unfold closings record
  rw [List.reverse_cons, List.filterMap_append]
  cases o <;> rfl

/-- Closing a session reports it, if it is open and managed. -/
theorem closings_close (srv : Server) (id : SessionId) (reason : CloseReason) :
    (srv.close id reason).2.closings =
      srv.closings ++ if srv.roster.isReported id then [(id, reason)] else [] := by
  cases hactive : srv.roster.isActive id with
  | false =>
    have unreported : srv.roster.isReported id = false := by
      rw [Roster.isActive_eq_standing] at hactive
      unfold Roster.isReported
      cases hs : srv.roster.standing? id with
      | none => rfl
      | some t =>
        have inactive : t.isActive = false := by simpa [hs] using hactive
        simp [inactive]
    rw [close_of_not_active hactive, unreported]
    exact (List.append_nil _).symm
  | true =>
    obtain ⟨s, hs, active⟩ := Roster.isActive_eq_true_iff.mp hactive
    have present : srv.session? id = some s := hs
    have reported : srv.roster.isReported id = s.isManaged := by
      simp [Roster.isReported, Roster.standing?, hs, Session.standing, active]
    rw [reported]
    cases managed : s.isManaged with
    | true =>
      rw [close_of_managed present active managed, closings, history_reportClosed]
      exact closings_record srv (.closed id reason)
    | false =>
      have quiet : (srv.close id reason).2 = { srv with roster := (srv.roster.close id reason).2 } := by
        unfold close
        simp [present, managed]
      rw [quiet]
      exact (List.append_nil _).symm

/-! ## Effects -/

/-- Nothing is reported, and neither the dispatcher nor the kind of any transport changes. -/
structure Silent (srv srv' : Server) : Prop where
  kinds : ∀ id, srv'.roster.kindOf id = srv.roster.kindOf id
  dispatcher : srv'.dispatcher = srv.dispatcher
  notifies : srv'.notifiesDispatcher = srv.notifiesDispatcher
  closings : srv'.closings = srv.closings

/-- One thing that happens while a request is processed, as far as the dispatcher can tell. -/
inductive Effect : Server → Server → Prop
  | silent {srv srv' : Server} (silent : Silent srv srv') : Effect srv srv'
  | close (srv : Server) (id : SessionId) (reason : CloseReason) : Effect srv (srv.close id reason).2

/-- All that happens while a request is processed. -/
abbrev Effects : Server → Server → Prop := Relation.ReflTransGen Effect

theorem Silent.trans (first : Silent srv srv') (second : Silent srv' srv'') : Silent srv srv'' where
  kinds id := (second.kinds id).trans (first.kinds id)
  dispatcher := second.dispatcher.trans first.dispatcher
  notifies := second.notifies.trans first.notifies
  closings := second.closings.trans first.closings

/-- A change of the roster that leaves the transports alone. -/
theorem Silent.of_roster {r : Roster} (kinds : ∀ id, r.kindOf id = srv.roster.kindOf id) :
    Silent srv { srv with roster := r } :=
  ⟨kinds, rfl, rfl, rfl⟩

theorem silent_transition (srv : Server) (id : SessionId) (source target : AssociationState) :
    Silent srv (srv.transition id source target) :=
  .of_roster fun _ => Roster.kindOf_transition source target

theorem silent_event (srv : Server) (event : ServerEvent) (delivered : Bool) :
    Silent srv (srv.record (.event event delivered)) := by
  have nothing := closings_record srv (.event event delivered)
  rw [show (Occurrence.event event delivered).closing?.toList = [] from rfl, List.append_nil] at nothing
  exact ⟨fun _ => rfl, rfl, rfl, nothing⟩

theorem silent_schedule (srv : Server) (id : SessionId) : Silent srv (srv.schedule id) := by
  rcases srv.schedule_cases id with same | ⟨queues, scheduled⟩
  · rw [same]
    exact ⟨fun _ => rfl, rfl, rfl, rfl⟩
  · rw [scheduled]
    exact ⟨fun _ => Roster.kindOf_update fun _ => rfl, rfl, rfl, rfl⟩

/-- The queue and the counters of a session are no concern of the dispatcher. -/
theorem silent_enqueue (srv : Server) (id : SessionId) (packet : Packet) :
    Silent srv (srv.enqueue id packet).1 := by
  rw [enqueue_eq]
  refine .of_roster fun other => Roster.kindOf_update fun s => ?_
  obtain ⟨queue, counters, heq⟩ := s.exists_enqueue_eq packet
  rw [heq]

theorem silent_enqueueAndSchedule (srv : Server) (id : SessionId) (packet : Packet) :
    Silent srv (srv.enqueueAndSchedule id packet).1 := by
  have queued := silent_enqueue srv id packet
  rcases srv.enqueueAndSchedule_fst id packet with refused | accepted
  · rwa [refused]
  · rw [accepted]
    exact queued.trans (silent_schedule _ id)

/-- A message is sent without anybody noticing. -/
theorem silent_send (srv : Server) (id : SessionId) (message : Message) :
    Silent srv (srv.send id message).1 ∧ Silent srv (srv.sendDatagram id message).1 := by
  have created : Silent srv (srv.createPacket (message.serialize srv.supply.codec.format)).2 :=
    ⟨fun _ => rfl, rfl, rfl, rfl⟩
  exact ⟨created.trans (silent_enqueueAndSchedule _ id _),
    created.trans (silent_enqueueAndSchedule _ id _)⟩

theorem silent_grantPath (srv : Server) (peer : DatagramPeer) (identity : String) :
    Silent srv (srv.grantPath peer identity).2 := by
  rcases srv.grantPath_cases peer identity with
    ⟨counter, same⟩ | ⟨id, key, counter, roster, -, added, granted⟩
  · rw [same]
    exact .of_roster fun _ => rfl
  · rw [granted]
    exact .of_roster fun _ => (Roster.kindOf_addDatagram added).trans rfl

theorem silent_replyToHandshake (srv : Server) (peer : DatagramPeer) (access : DatagramAccess)
    (conveyance : UInt32) : Silent srv (srv.replyToHandshake peer access conveyance).1 := by
  obtain ⟨supply, replied⟩ := srv.exists_replyToHandshake_eq peer access conveyance
  rw [replied]
  exact ⟨fun _ => rfl, rfl, rfl, rfl⟩

/-! ## Requests -/

theorem effects_of_deed {spoken : ServerEvent → Prop} {heard : DatagramPeer → Prop}
    (deed : Deed spoken heard srv srv') :
    Effects srv srv' := by
  cases deed with
  | event event delivered _ => exact .single (.silent (silent_event srv event delivered))
  | called kind => exact .single (.silent ⟨fun _ => rfl, rfl, rfl, rfl⟩)
  | unregister kind => exact .single (.silent ⟨fun _ => rfl, rfl, rfl, rfl⟩)
  | send id message => exact .single (.silent (silent_send srv id message).1)
  | sendDatagram id message => exact .single (.silent (silent_send srv id message).2)
  | transition id source target => exact .single (.silent (silent_transition srv id source target))
  | close id reason => exact .single (.close srv id reason)
  | associate identity id =>
    exact .single (.silent (.of_roster fun _ => Roster.kindOf_associate identity))
  | takeOver live =>
    rename_i identity id old
    have moved : Silent srv (srv.moved identity id old) := by
      refine .of_roster fun other => ?_
      have bound : (srv.roster.bind identity id).kindOf other = srv.roster.kindOf other :=
        Roster.kindOf_bind identity
      rw [← bound]
      exact Roster.kindOf_update fun _ => rfl
    -- the old holder is closed after the identity has moved
    rw [takeOver_eq live]
    exact .head (.silent moved) (.single (.close _ old .reconnected))
  | grantPath peer identity => exact .single (.silent (silent_grantPath srv peer identity))
  | reply peer access conveyance =>
    exact .single (.silent (silent_replyToHandshake srv peer access conveyance))

/-- Whether a request fails or not, nothing else comes of it. -/
theorem effects_process (srv : Server) (request : Request) : Effects srv (srv.process request) :=
  (deeds_process srv request).preserves (P := Effects srv)
    (fun _ _ deed before => before.trans (effects_of_deed deed)) .refl

/-! ## Notices -/

/-- All that is added to the record and to the queues are closings, and a notice for each. -/
structure Reports (srv srv' : Server) : Prop where
  kinds : ∀ id, srv'.roster.kindOf id = srv.roster.kindOf id
  notifies : srv'.notifiesDispatcher = srv.notifiesDispatcher
  added : ∃ new, srv'.closings = srv.closings ++ new ∧
    srv'.dispatcher = srv.dispatcher.appendAll (srv.told new)

theorem told_append (first second : List (SessionId × CloseReason)) :
    srv.told (first ++ second) = srv.told first ++ srv.told second := by
  unfold told
  split
  · exact List.map_append
  · rfl

theorem told_congr (kinds : ∀ id, srv'.roster.kindOf id = srv.roster.kindOf id)
    (notifies : srv'.notifiesDispatcher = srv.notifiesDispatcher)
    (phase : srv'.dispatcher.phase = srv.dispatcher.phase) (new : List (SessionId × CloseReason)) :
    srv'.told new = srv.told new := by
  have same : srv'.notice = srv.notice := by
    funext closing
    rw [notice, notice, kinds]
  rw [told, told, isListening, isListening, notifies, phase, same]

theorem bounded_of_told {new : List (SessionId × CloseReason)} {queued : Queued}
    (member : queued ∈ srv.told new) : queued.bounded = false := by
  unfold told at member
  split at member
  · rcases List.mem_map.mp member with ⟨closing, -, rfl⟩
    rfl
  · cases member

/-- A stopped dispatcher is told nothing. -/
theorem told_of_stopped (stopped : srv.dispatcher.phase = .stopped)
    (new : List (SessionId × CloseReason)) : srv.told new = [] := by
  rw [told, isListening, stopped]
  simp

theorem dispatcher_notify (srv : Server) (request : Request) :
    (srv.notify request).dispatcher =
      if srv.dispatcher.phase = .stopped then srv.dispatcher
      else srv.dispatcher.append ⟨request, false⟩ := by
  unfold notify Dispatcher.enqueueNotice
  rw [Dispatcher.push_eq_append]
  by_cases stopped : srv.dispatcher.phase = .stopped <;> simp [stopped]

namespace Reports

theorem refl (srv : Server) : Reports srv srv :=
  ⟨fun _ => rfl, rfl, [], (List.append_nil _).symm, by unfold told; split <;> rfl⟩

theorem phase (reports : Reports srv srv') : srv'.dispatcher.phase = srv.dispatcher.phase := by
  rcases reports.added with ⟨new, -, added⟩
  rw [added, Dispatcher.phase_appendAll]

theorem told (reports : Reports srv srv') (new : List (SessionId × CloseReason)) :
    srv'.told new = srv.told new :=
  told_congr reports.kinds reports.notifies reports.phase new

theorem trans (first : Reports srv srv') (second : Reports srv' srv'') : Reports srv srv'' := by
  rcases first.added with ⟨new, closings, dispatcher⟩
  rcases second.added with ⟨new', closings', dispatcher'⟩
  refine ⟨fun id => (second.kinds id).trans (first.kinds id), second.notifies.trans first.notifies,
    new ++ new', ?_, ?_⟩
  · rw [closings', closings, List.append_assoc]
  · -- kinds and phase are the same later on, so the same notices are made
    rw [dispatcher', dispatcher, first.told, told_append]
    exact List.foldl_append.symm

theorem of_silent (silent : Silent srv srv') : Reports srv srv' where
  kinds := silent.kinds
  notifies := silent.notifies
  added := by
    refine ⟨[], by rw [silent.closings, List.append_nil], ?_⟩
    rw [silent.dispatcher]
    unfold Server.told
    split <;> rfl

theorem reportClosed (srv : Server) (id : SessionId) (reason : CloseReason) :
    Reports srv (srv.reportClosed id (srv.roster.kindOf id) reason) where
  kinds other := by
    unfold Server.reportClosed notify
    dsimp only
    split
    · split <;> rfl
    · rfl
  notifies := notifies_reportClosed
  added := by
    refine ⟨[(id, reason)], ?_, ?_⟩
    · rw [closings, history_reportClosed]
      exact closings_record srv (.closed id reason)
    · unfold Server.reportClosed Server.told isListening
      dsimp only
      cases listens : srv.notifiesDispatcher with
      | false => simp [record, listens, Dispatcher.appendAll]
      | true =>
        rw [if_pos (show (srv.record (.closed id reason)).notifiesDispatcher = true from listens),
          dispatcher_notify]
        by_cases stopped : srv.dispatcher.phase = .stopped
        · simp [record, stopped, Dispatcher.appendAll]
        · simp [record, stopped, Dispatcher.appendAll, notice]

/-- A session that closes is reported once, if it is managed. -/
theorem close (srv : Server) (id : SessionId) (reason : CloseReason) :
    Reports srv (srv.close id reason).2 := by
  cases hs : srv.session? id with
  | none =>
    have unchanged : (srv.close id reason).2 = srv := by
      unfold Server.close
      rw [hs]
    rw [unchanged]
    exact .refl srv
  | some s =>
    have kind : srv.roster.kindOf id = s.transport.kind := by
      have present : srv.roster.session? id = some s := hs
      rw [Roster.kindOf, present]
      rfl
    have closed : Silent srv { srv with roster := (srv.roster.close id reason).2 } :=
      .of_roster fun _ => Roster.kindOf_close reason
    unfold Server.close
    rw [hs]
    dsimp only
    split
    · -- the notice names the kind that the transport had before, which is the one it has now
      rw [← kind, ← closed.kinds id]
      exact (of_silent closed).trans (.reportClosed _ id reason)
    · exact of_silent closed

theorem of_effects (effects : Effects srv srv') : Reports srv srv' := by
  induction effects with
  | refl => exact .refl srv
  | tail _ effect ih =>
    cases effect with
    | silent silent => exact ih.trans (of_silent silent)
    | close id reason => exact ih.trans (close _ id reason)

/-- What is added to the queues can be read off the record. -/
theorem dispatcher_eq (reports : Reports srv srv') :
    srv'.dispatcher =
      srv.dispatcher.appendAll (srv'.told (srv'.closings.drop srv.closings.length)) := by
  rcases reports.added with ⟨new, closings, dispatcher⟩
  rw [closings, List.drop_left, reports.told, dispatcher]

theorem process (srv : Server) (request : Request) : Reports srv (srv.process request) :=
  of_effects (effects_process srv request)

end Reports

/-- What a stopped dispatcher processes adds nothing to its queues. -/
theorem dispatcher_process_of_stopped (stopped : srv.dispatcher.phase = .stopped)
    (request : Request) : (srv.process request).dispatcher = srv.dispatcher := by
  have reports := Reports.process srv request
  have added := reports.dispatcher_eq
  rwa [told_of_stopped (reports.phase.trans stopped)] at added

end Server

end SessionNet
