import SessionNet.Proofs.Dispatch.Effects
import SessionNet.Proofs.Dispatch.Orderly
import SessionNet.Proofs.Server.Operations
import SessionNet.Proofs.Server.Serving
import SessionNet.Proofs.Server.Teardown
import SessionNet.Proofs.Session.Accounts

/-!
# What becomes of the end of a session

When a session is closed its end is recorded, a notice of it waits on the shard of the session, and
once that is processed the event of it happens. Whatever handlers do while a request is processed,
sessions are used and closed, and no other notice is handed to the dispatcher.
-/

namespace SessionNet

/-- The end that a session came to, if it has been closed. -/
def Session.ends (id : SessionId) (s : Session) : List (SessionId × CloseReason) :=
  s.closeReason?.toList.map (id, ·)

theorem ServerEvent.isEnd_eq (event : ServerEvent) : event.isEnd = event.ending?.isSome := by
  cases event <;> rfl

theorem Request.sender_of_ending {request : Request} {closing : SessionId × CloseReason}
    (ending : request.ending? = some closing) : request.sender = .session closing.1 := by
  rcases request with ⟨_ | _, _ | _ | _ | _, transport⟩ <;> cases ending
  rfl

namespace Dispatcher

variable {d d' : Dispatcher} {id : SessionId} {index : Nat} {request : Request} {bounded : Bool}
variable {queued : Queued}

/-- The ends of a session whose notices wait on its shard, oldest first. -/
def farewells (d : Dispatcher) (id : SessionId) : List (SessionId × CloseReason) :=
  ((d.waiting id).filterMap Request.ending?).filter (·.1 == id)

/-- The end that a request is the notice of, if it is that of a session. -/
theorem farewell_of_elsewhere (elsewhere : d.shardOf request.sender ≠ d.shardOf (.session id)) :
    request.ending?.toList.filter (·.1 == id) = [] := by
  cases ending : request.ending? with
  | none => rfl
  | some closing =>
    -- the notice of a session's end is on the shard of the session
    have foreign : closing.1 ≠ id := by
      rintro rfl
      exact elsewhere (congrArg d.shardOf (Request.sender_of_ending ending))
    simp [foreign]

theorem farewells_push (nonempty : 0 < d.shards.length) (pushed : d.push request bounded = .ok d') :
    d'.farewells id = d.farewells id ++ request.ending?.toList.filter (·.1 == id) := by
  rw [farewells, waiting_push nonempty pushed]
  split
  · cases ending : request.ending? <;> simp [farewells, ending]
  · rename_i elsewhere
    rw [farewell_of_elsewhere elsewhere, List.append_nil, farewells]

theorem farewells_takeFrom (placed : d.Placed) (taken : d.takeFrom index = some (queued, d')) :
    d.farewells id = queued.request.ending?.toList.filter (·.1 == id) ++ d'.farewells id := by
  rw [farewells, waiting_takeFrom taken]
  split
  · cases ending : queued.request.ending? <;> simp [farewells, ending, List.filter_cons]
    split <;> rfl
  · rename_i elsewhere
    have here : d.shardOf queued.request.sender = index := by
      rcases takeFrom_eq_some taken with ⟨shard, rest, hshard, hqueued, -⟩
      exact placed index shard hshard queued (by simp [hqueued])
    rw [← here] at elsewhere
    rw [farewell_of_elsewhere elsewhere, List.nil_append, farewells]

theorem farewells_finish : (d.finish index queued).farewells id = d.farewells id := by
  rw [farewells, waiting_finish, farewells]

/-- No request waits on any shard. -/
def IsIdle (d : Dispatcher) : Prop := ∀ index, d.queuedOn index = []

theorem farewells_of_isIdle (idle : d.IsIdle) : d.farewells id = [] := by
  have empty := idle (d.shardOf (.session id))
  unfold farewells waiting
  unfold queuedOn at empty
  cases hshard : d.shards[d.shardOf (.session id)]? with
  | none => rfl
  | some shard =>
    rw [hshard] at empty
    rw [Option.elim_some, show shard.queued = [] from empty]
    rfl

end Dispatcher

namespace Server

/-- The ends recorded of a session. -/
def closingsOf (srv : Server) (id : SessionId) : List (SessionId × CloseReason) :=
  srv.closings.filter (·.1 == id)

/-- The ends of a session that were announced, oldest first. -/
def farewells (srv : Server) (id : SessionId) : List (SessionId × CloseReason) :=
  (srv.eventsOf id).filterMap ServerEvent.ending?

variable {srv srv' srv'' : Server} {id : SessionId}

theorem farewells_record (event : ServerEvent) (delivered : Bool) :
    (srv.record (.event event delivered)).farewells id =
      srv.farewells id ++ event.ending?.toList.filter (·.1 == id) := by
  rw [farewells, eventsOf_record]
  cases ending : event.ending? with
  | none => split <;> simp [farewells, ending]
  | some closing =>
    have about : event.about? = some closing.1 := by
      cases event <;> cases ending
      rfl
    rw [about]
    by_cases own : closing.1 = id
    · simp [own, farewells, ending]
    · simp [own, farewells]

/-- A single end that was announced is that of a single event. -/
theorem exists_end_of_farewells {reason : CloseReason}
    (announced : srv.farewells id = [(id, reason)]) :
    ∃ identity?,
      (srv.eventsOf id).filter ServerEvent.isEnd = [.sessionWillBeClosed id identity? reason] := by
  have plain : ∀ {events : List ServerEvent}, (∀ event ∈ events, event.ending? = none) →
      events.filter ServerEvent.isEnd = [] := by
    intro events none
    refine List.filter_eq_nil_iff.mpr fun event member => ?_
    rw [event.isEnd_eq, none event member]
    exact Bool.false_ne_true
  rcases List.filterMap_eq_cons_iff.mp announced with
    ⟨before, event, after, split, earlier, ending, later⟩
  cases event <;> cases ending
  rename_i identity?
  refine ⟨identity?, ?_⟩
  rw [split, List.filter_append, plain earlier, List.filter_cons_of_pos rfl,
    plain (List.filterMap_eq_nil_iff.mp later), List.nil_append]

/-! ## What changes no account -/

/-- Sessions are used, and nothing is reported, announced or handed to the dispatcher. -/
structure Quiet (srv srv' : Server) : Prop where
  roster : srv.roster.Continues srv'.roster
  dispatcher : srv'.dispatcher = srv.dispatcher
  notifies : srv'.notifiesDispatcher = srv.notifiesDispatcher
  lifecycle : srv'.lifecycle = srv.lifecycle
  closings : srv'.closings = srv.closings
  farewells : ∀ id, srv'.farewells id = srv.farewells id

namespace Quiet

theorem refl (srv : Server) : Quiet srv srv := ⟨.refl _, rfl, rfl, rfl, rfl, fun _ => rfl⟩

theorem trans (first : Quiet srv srv') (second : Quiet srv' srv'') : Quiet srv srv'' where
  roster := first.roster.trans second.roster
  dispatcher := second.dispatcher.trans first.dispatcher
  notifies := second.notifies.trans first.notifies
  lifecycle := second.lifecycle.trans first.lifecycle
  closings := second.closings.trans first.closings
  farewells id := (second.farewells id).trans (first.farewells id)

/-- A change of the roster alone. -/
theorem of_roster {r : Roster} (continues : srv.roster.Continues r) :
    Quiet srv { srv with roster := r } :=
  ⟨continues, rfl, rfl, rfl, rfl, fun _ => rfl⟩

theorem event (srv : Server) {event : ServerEvent} (plain : event.IsPlain) (delivered : Bool) :
    Quiet srv (srv.record (.event event delivered)) where
  roster := .refl _
  dispatcher := rfl
  notifies := rfl
  lifecycle := rfl
  closings := (closings_record srv _).trans (List.append_nil _)
  farewells id := by
    rw [farewells_record, show event.ending? = none from plain]
    exact List.append_nil _

theorem update (srv : Server) (id : SessionId) {f : Session → Session}
    (continues : ∀ s : Session, s.Continues (f s)) : Quiet srv (srv.update id f) :=
  .of_roster (.update _ id continues)

theorem schedule (srv : Server) (id : SessionId) : Quiet srv (srv.schedule id) := by
  have marked : Quiet srv (srv.update id fun s => { s with writeScheduled := true }) :=
    .update srv id fun _ => .of_same rfl rfl rfl rfl rfl rfl
  rcases srv.schedule_cases id with same | ⟨queues, scheduled⟩
  · rw [same]
    exact .refl srv
  · rw [scheduled]
    exact marked.trans ⟨.refl _, rfl, rfl, rfl, rfl, fun _ => rfl⟩

theorem enqueueAndSchedule (srv : Server) (id : SessionId) (packet : Packet) :
    Quiet srv (srv.enqueueAndSchedule id packet).1 := by
  have queued : Quiet srv (srv.enqueue id packet).1 := by
    rw [enqueue_eq]
    exact .update srv id fun s => .enqueue s packet
  rcases srv.enqueueAndSchedule_fst id packet with refused | accepted
  · rwa [refused]
  · rw [accepted]
    exact queued.trans (schedule _ id)

theorem send (srv : Server) (id : SessionId) (message : Message) :
    Quiet srv (srv.send id message).1 ∧ Quiet srv (srv.sendDatagram id message).1 := by
  have created : Quiet srv (srv.createPacket (message.serialize srv.supply.codec.format)).2 :=
    ⟨.refl _, rfl, rfl, rfl, rfl, fun _ => rfl⟩
  exact ⟨created.trans (enqueueAndSchedule _ id _), created.trans (enqueueAndSchedule _ id _)⟩

theorem grantPath (srv : Server) (peer : DatagramPeer) (identity : String) :
    Quiet srv (srv.grantPath peer identity).2 := by
  have counted : ∀ conveyanceCounter,
      srv.roster.Continues { srv.roster with conveyanceCounter } :=
    fun _ => ⟨fun _ => rel_refl .refl _, rfl, rfl⟩
  rcases srv.grantPath_cases peer identity with
    ⟨counter, same⟩ | ⟨id, key, counter, roster, -, added, granted⟩
  · rw [same]
    exact .of_roster (counted counter)
  · rw [granted]
    exact .of_roster ((counted counter).trans (.addDatagram added))

theorem replyToHandshake (srv : Server) (peer : DatagramPeer) (access : DatagramAccess)
    (conveyance : UInt32) : Quiet srv (srv.replyToHandshake peer access conveyance).1 := by
  obtain ⟨supply, replied⟩ := srv.exists_replyToHandshake_eq peer access conveyance
  rw [replied]
  exact ⟨.refl _, rfl, rfl, rfl, rfl, fun _ => rfl⟩

/-- The takeover of an identity, up to the closing of the session that had it. -/
theorem moved (srv : Server) (identity : String) (id old : SessionId) :
    Quiet srv (srv.moved identity id old) :=
  .of_roster ((Roster.Continues.bind _ identity id).trans
    (.update _ old fun _ => .of_same rfl rfl rfl rfl rfl rfl))

end Quiet

/-! ## What happens to the accounts -/

/-- What can happen outside a turn of a shard, and during it once the request has been taken. -/
inductive Happening : Server → Server → Prop
  | quiet {srv srv' : Server} (quiet : Quiet srv srv') : Happening srv srv'
  | close (srv : Server) (id : SessionId) (reason : CloseReason) :
      Happening srv (srv.close id reason).2
  /-- A request that is no notice is accepted. -/
  | accept {srv : Server} {dispatcher : Dispatcher} {request : Request}
      (plain : request.ending? = none) (accepted : srv.dispatcher.enqueue request = .ok dispatcher) :
      Happening srv { srv with dispatcher }

abbrev Happenings : Server → Server → Prop := Relation.ReflTransGen Happening

/-- Of all that is done while a request is processed, closings alone change the accounts. -/
theorem happenings_of_deed {heard : DatagramPeer → Prop}
    (deed : Deed ServerEvent.IsPlain heard srv srv') : Happenings srv srv' := by
  cases deed with
  | event event delivered plain => exact .single (.quiet (.event srv plain delivered))
  | called kind => exact .single (.quiet ⟨.refl _, rfl, rfl, rfl, rfl, fun _ => rfl⟩)
  | unregister kind => exact .single (.quiet ⟨.refl _, rfl, rfl, rfl, rfl, fun _ => rfl⟩)
  | send id message => exact .single (.quiet (Quiet.send srv id message).1)
  | sendDatagram id message => exact .single (.quiet (Quiet.send srv id message).2)
  | transition id source target =>
    exact .single (.quiet (.of_roster (.transition _ id source target)))
  | close id reason => exact .single (.close srv id reason)
  | associate identity id => exact .single (.quiet (.of_roster (.associate _ identity id)))
  | @takeOver identity id old live =>
    rw [takeOver_eq live]
    exact .head (.quiet (.moved srv identity id old)) (.single (.close _ old .reconnected))
  | grantPath peer identity => exact .single (.quiet (.grantPath srv peer identity))
  | reply peer access conveyance =>
    exact .single (.quiet (.replyToHandshake srv peer access conveyance))

theorem happenings_of_deeds {heard : DatagramPeer → Prop}
    (deeds : Deeds ServerEvent.IsPlain heard srv srv') : Happenings srv srv' :=
  deeds.preserves (P := Happenings srv)
    (fun _ _ deed before => before.trans (happenings_of_deed deed))
    .refl

/-- A request that is no notice announces no end. -/
theorem happenings_process {request : Request} (plain : request.ending? = none) (srv : Server) :
    Happenings srv (srv.process request) := by
  have silent : ∀ event, request.Tells event → event.IsPlain := by
    rintro event (told | told)
    · exact told
    · exact told.trans plain
  exact happenings_of_deeds (Relation.ReflTransGen.mono (fun _ _ deed => deed.weaken silent) _ _
    (deeds_process srv request))

/-- Once the end that a notice is of has been announced, nothing else is. -/
theorem exists_happenings_process {request : Request} {reason : CloseReason}
    (ending : request.ending? = some (id, reason)) (srv : Server) :
    ∃ identity? delivered,
      Happenings (srv.record (.event (.sessionWillBeClosed id identity? reason) delivered))
        (srv.process request) := by
  have told : ∃ identity? delivered, Deeds ServerEvent.IsPlain (fun _ => False)
      (srv.record (.event (.sessionWillBeClosed id identity? reason) delivered))
      (srv.process request) := exists_deeds_process ending srv
  rcases told with ⟨identity?, delivered, deeds⟩
  exact ⟨identity?, delivered, happenings_of_deeds deeds⟩

end Server

end SessionNet
