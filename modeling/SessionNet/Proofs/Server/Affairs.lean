import SessionNet.Proofs.Dispatch.Undertakings
import SessionNet.Proofs.Server.Incidents

/-!
# Runs whose handlers only answer

The runs of a server in which everything that an incident is may happen and the application sends
messages besides, while its handlers do nothing but answer, fail or panic. Throughout such a run the
handlers only answer, the index of identities is exact, and every entry under a channel id is the
only one of that id and leads to an active session with that channel.
-/

namespace SessionNet

/-- Something that happens to a server, or a message that the application sends. -/
inductive Affair where
  | incident (incident : Incident)
  | send (id : SessionId) (message : Message)
  | sendDatagram (id : SessionId) (message : Message)

/-! ## Channel ids -/

namespace Roster

variable {r r' : Roster}

/-- Each channel id has one entry. -/
structure Keyed (r : Roster) : Prop where
  conveyance : (r.byConveyance.map Prod.fst).Nodup
  tunnel : (r.byTunnel.map Prod.fst).Nodup

/-- Removing an entry, if there is one to remove, makes no key appear twice. -/
theorem keys_removal {κ : Type} [BEq κ] {index : List (κ × SessionId)} {id : SessionId}
    (keys : (index.map Prod.fst).Nodup) (key? : Option κ) :
    ((key?.elim index (removeEntry index · id)).map Prod.fst).Nodup := by
  cases key? with
  | none => exact keys
  | some key => exact keys.sublist (List.filter_sublist.map _)

theorem Keyed.close (keyed : r.Keyed) (wired : ∀ id, r.Wired id) (id : SessionId)
    (reason : CloseReason) : (r.close id reason).2.Keyed := by
  cases hactive : r.isActive id with
  | false => rwa [close_of_not_active hactive]
  | true =>
    obtain ⟨s, hs, active⟩ := isActive_eq_true_iff.1 hactive
    have managed : s.isManaged = true := (wired id).managed _ (congrArg (Option.map _) hs)
    obtain ⟨-, conveyances, tunnels⟩ := close_transports reason hs active managed
    refine ⟨?_, ?_⟩
    · rw [conveyances]
      exact keys_removal keyed.conveyance _
    · rw [tunnels]
      exact keys_removal keyed.tunnel _

theorem Keyed.rewiring (keyed : r.Keyed) (wired : ∀ id, r.Wired id) (rewiring : Rewiring r r') :
    r'.Keyed := by
  cases rewiring with
  | aside same => exact ⟨same.conveyance ▸ keyed.conveyance, same.tunnel ▸ keyed.tunnel⟩
  | register => exact ⟨keyed.conveyance, keyed.tunnel⟩
  | close id reason => exact keyed.close wired id reason
  | grant next added =>
    obtain ⟨-, -, rfl⟩ := nextConveyance_eq_some next
    obtain ⟨s, -, -, -, rfl⟩ := addDatagram_eq_ok added
    exact ⟨keys_setEntry keyed.conveyance, keyed.tunnel⟩
  | tunnel added =>
    obtain ⟨s, -, -, -, rfl⟩ := addTunnel_eq_ok added
    exact ⟨keyed.conveyance, keys_setEntry keyed.tunnel⟩

/-- The wiring goes along, because only a managed session leaves the indexes when it is closed. -/
theorem Keyed.rewirings (keyed : r.Keyed) (wired : ∀ id, r.Wired id)
    (rewirings : Rewirings r r') : r'.Keyed := by
  induction rewirings with
  | refl => exact keyed
  | tail before last ih => exact ih.rewiring (Wired.rewirings wired before) last

end Roster

namespace Server

/-- The server after an affair; one that fails leaves it as it was. -/
def conduct (srv : Server) : Affair → Server
  | .incident incident => srv.undergo incident
  | .send id message => (srv.send id message).1
  | .sendDatagram id message => (srv.sendDatagram id message).1

/-- The server after affairs in order. -/
def conductAll (srv : Server) (affairs : List Affair) : Server := affairs.foldl conduct srv

variable {start srv srv' : Server} {id : SessionId}

theorem conductAll_preserves {P : Server → Prop}
    (hconduct : ∀ srv affair, P srv → P (srv.conduct affair)) (affairs : List Affair) (h : P srv) :
    P (srv.conductAll affairs) := by
  induction affairs generalizing srv with
  | nil => exact h
  | cons first rest ih => exact ih (hconduct srv first h)

/-! ## Handlers and identities -/

theorem onlyAnswers_deed {spoken : ServerEvent → Prop} {heard : DatagramPeer → Prop}
    (only : srv.handlers.OnlyAnswers) (deed : Deed spoken heard srv srv') :
    srv'.handlers.OnlyAnswers := by
  cases deed with
  | event event delivered _ => exact only
  | called kind => exact only.countCall
  | unregister kind => exact only.unregister
  | send id message =>
    obtain ⟨⟨_, _, _, sent⟩, -⟩ := srv.exists_send_eq id message
    rwa [sent]
  | sendDatagram id message =>
    obtain ⟨-, ⟨_, _, _, sent⟩⟩ := srv.exists_send_eq id message
    rwa [sent]
  | transition id source target => exact only
  | close id reason => rwa [handlers_close]
  | associate identity id => exact only
  | takeOver live => rwa [handlers_takeOver]
  | grantPath peer identity =>
    rcases srv.grantPath_cases peer identity with ⟨_, same⟩ | ⟨_, _, _, _, -, -, granted⟩
    · rwa [same]
    · rwa [granted]
  | reply peer access conveyance =>
    obtain ⟨_, replied⟩ := srv.exists_replyToHandshake_eq peer access conveyance
    rwa [replied]

/-- A server whose handlers only answer and whose index of identities is exact. -/
structure Discreet (start srv : Server) : Prop where
  answers : srv.handlers.OnlyAnswers
  exact : Exact start srv

namespace Discreet

theorem aside (discreet : Discreet start srv) (same : SameStanding srv srv')
    (handlers : srv'.handlers = srv.handlers) : Discreet start srv' :=
  ⟨handlers ▸ discreet.answers, discreet.exact.sameStanding same⟩

/-- A change to what neither sessions nor handlers nor events depend on. -/
theorem elsewhere (discreet : Discreet start srv) (roster : srv'.roster = srv.roster)
    (dispatcher : srv'.dispatcher = srv.dispatcher)
    (notifies : srv'.notifiesDispatcher = srv.notifiesDispatcher)
    (history : srv'.history = srv.history) (handlers : srv'.handlers = srv.handlers) :
    Discreet start srv' :=
  discreet.aside (.of_roster_eq roster dispatcher notifies history fun _ confined =>
    handlers ▸ confined) handlers

theorem dispatch (discreet : Discreet start srv) (dispatcher : Dispatcher) :
    Discreet start { srv with dispatcher } :=
  ⟨discreet.answers, discreet.exact.dispatch dispatcher⟩

theorem update {f : Session → Session} (discreet : Discreet start srv)
    (keeps : ∀ s, (f s).standing = s.standing) : Discreet start (srv.update id f) :=
  discreet.aside (sameStanding_update srv id keeps) rfl

theorem close (discreet : Discreet start srv) (id : SessionId) (reason : CloseReason) :
    Discreet start (srv.close id reason).2 :=
  ⟨handlers_close srv id reason ▸ discreet.answers, discreet.exact.close reason⟩

theorem opening (discreet : Discreet start srv) (opened : Opened srv srv') : Discreet start srv' :=
  ⟨opened.handlers ▸ discreet.answers, discreet.exact.opening opened⟩

theorem process (discreet : Discreet start srv) (request : Request) :
    Discreet start (srv.process request) :=
  ⟨(deeds_process srv request).preserves (fun _ _ deed only => onlyAnswers_deed only deed)
    discreet.answers, discreet.exact.process⟩

theorem shardStep (discreet : Discreet start srv) (shard : Nat) :
    Discreet start (srv.shardStep shard) := by
  rcases shardStep_cases srv shard with same | ⟨queued, dispatcher, after, -, rfl, heq⟩
  · rwa [same]
  · rw [heq]
    exact ((discreet.dispatch dispatcher).process queued.request).dispatch _

/-! ### Messages and packets -/

theorem send (discreet : Discreet start srv) (id : SessionId) (message : Message) :
    Discreet start (srv.send id message).1 ∧ Discreet start (srv.sendDatagram id message).1 := by
  obtain ⟨⟨_, _, _, sent⟩, _, _, _, sentDatagram⟩ := srv.exists_send_eq id message
  exact ⟨discreet.aside (sameStanding_send srv id message) (by rw [sent]),
    discreet.aside (sameStanding_sendDatagram srv id message) (by rw [sentDatagram])⟩

theorem submit (discreet : Discreet start srv) (id : SessionId) (message : Message)
    (transport : TransportKind) : Discreet start (srv.submit id message transport).1 := by
  obtain ⟨refused, dispatcher, submitted⟩ := srv.exists_submit_eq_countIn id message transport
  have counted : Discreet start (srv.update id (Session.countIn 0 1 refused)) :=
    discreet.update fun _ => rfl
  rw [submitted]
  exact counted.dispatch dispatcher

theorem submits {messages : List (TransportKind × Message)} (submits : Submits id srv messages srv')
    (discreet : Discreet start srv) : Discreet start srv' := by
  induction submits with
  | done => exact discreet
  | count bytes _ ih => exact ih (discreet.update fun _ => rfl)
  | touch _ ih => exact ih (discreet.update fun _ => rfl)
  | keep reader _ ih => exact ih (discreet.elsewhere rfl rfl rfl rfl rfl)
  | leave inbox _ ih => exact ih (discreet.update fun _ => rfl)
  | submit transport message _ ih => exact ih (discreet.submit id message transport)
  | fault => exact discreet.close id .protocolViolation

theorem takeIn (discreet : Discreet start srv) (id : SessionId) (count : Nat)
    (transport : TransportKind) (messages : List Message) :
    Discreet start (srv.takeIn id count transport messages) := by
  have read := Submits.takeIn count (.done (srv.takeIn id count transport messages))
  exact discreet.submits read

theorem schedule (discreet : Discreet start srv) (id : SessionId) :
    Discreet start (srv.schedule id) := by
  refine discreet.aside (sameStanding_schedule srv id) ?_
  rcases srv.schedule_cases id with same | ⟨queues, scheduled⟩
  · rw [same]
  · rw [scheduled]
    rfl

theorem runPass (discreet : Discreet start srv) (id : SessionId) :
    Discreet start (srv.runPass id) := by
  cases hs : srv.session? id with
  | none =>
    have same : srv.runPass id = srv := by
      unfold Server.runPass
      rw [hs]
    rwa [same]
  | some s =>
    cases active : s.isActive with
    | false =>
      rw [runPass_of_closed hs active]
      exact discreet.update fun _ => rfl
    | true =>
      let pass := s.writePass srv.writers.budget srv.supply
      have stored := Roster.update_const
        (f := fun s => { (s.writePass srv.writers.budget srv.supply).session with
          writeScheduled := false }) hs
      -- a pass writes packets and keeps the standing of its session
      have released : Discreet start (srv.release id pass) := by
        have written : Discreet start (srv.update id fun s =>
            { (s.writePass srv.writers.budget srv.supply).session with writeScheduled := false }) :=
          discreet.update fun t => (Session.served_writePass t _ _).standing
        refine written.elsewhere ?_ rfl rfl rfl rfl
        exact stored
      have ended := runPass_of_active hs active
      change PassEnded id (srv.release id pass) pass.result (srv.runPass id) at ended
      generalize pass.result = result at ended
      generalize srv.runPass id = final at ended ⊢
      cases ended with
      | drained => exact released
      | yielded => exact released.schedule id
      | blocked => exact released.update fun _ => rfl
      | failed e => exact released.close id .writeError

theorem writerStep (discreet : Discreet start srv) (worker : Nat) :
    Discreet start (srv.writerStep worker) := by
  unfold Server.writerStep
  split
  · rename_i id rest _
    have taken : Discreet start
        { srv with writers := { srv.writers with queues := srv.writers.queues.set worker rest } } :=
      discreet.elsewhere rfl rfl rfl rfl rfl
    exact taken.runPass id
  · exact discreet

theorem streamWritable (discreet : Discreet start srv) (id : SessionId) :
    Discreet start (srv.streamWritable id) := by
  unfold Server.streamWritable
  split
  · exact discreet
  · split
    · dsimp only
      have resumed : Discreet start (srv.update id fun s => { s with awaitsWritable := false }) :=
        discreet.update fun _ => rfl
      split
      · exact resumed
      · refine (resumed.update ?_).runPass id
        exact fun _ => rfl
    · exact discreet

/-! ### Affairs -/

theorem step (discreet : Discreet start srv) (operation : Operation) :
    Discreet start (srv.step operation) := by
  cases operation with
  | openWebSocket sink remote =>
    cases made : srv.createWebSocket sink remote with
    | error e => simpa only [Server.step, made] using discreet
    | ok result =>
      have opened := discreet.opening (opened_createWebSocket made)
      simpa only [Server.step, made] using opened
  | acceptStream stream remote =>
    cases accepted : srv.acceptStream stream remote with
    | error e => simpa only [Server.step, accepted] using discreet
    | ok result =>
      obtain ⟨after, opened, ended⟩ := opened_acceptStream accepted
      have admitted := discreet.opening opened
      simp only [Server.step, accepted]
      rcases ended with ended | ended
      · rw [ended]
        exact admitted.close _ _
      · rw [ended]
        exact admitted.elsewhere rfl rfl rfl rfl rfl
  | submit id message transport => exact discreet.submit id message transport
  | process request => exact discreet.process request
  | shardStep shard => exact discreet.shardStep shard
  | close id reason => exact discreet.close id reason
  | closeAll reason =>
    exact closeAll_preserves (fun _ id discreet => discreet.close id reason) discreet
  | start => exact discreet.dispatch _
  | stop => exact discreet.dispatch _

theorem addTunnel (discreet : Discreet start srv) (id : SessionId) (channel : TunnelChannel) :
    Discreet start (srv.addTunnel id channel).1 := by
  refine discreet.aside (sameStanding_addTunnel srv id channel) ?_
  rcases srv.addTunnel_cases id channel with same | ⟨roster, readers, -, attached⟩
  · rw [same]
  · rw [attached]

theorem useTunnel (discreet : Discreet start srv) (use : Tunnel → Except NetError Tunnel) :
    Discreet start (srv.update id (Session.useTunnel use)) := by
  refine discreet.update fun s => ?_
  unfold Session.useTunnel
  split
  · rfl
  · split <;> rfl

theorem undergo (discreet : Discreet start srv) (incident : Incident) :
    Discreet start (srv.undergo incident) := by
  cases incident with
  | operation operation => exact discreet.step operation
  | addTunnel id channel => exact discreet.addTunnel id channel
  | write worker => exact discreet.writerStep worker
  | writable id => exact discreet.streamWritable id
  | elapse now => exact discreet.elsewhere rfl rfl rfl rfl rfl
  | stream id data => exact discreet.submits (submits_undergo rfl srv)
  | webSocket id data => exact discreet.submits (submits_undergo rfl srv)
  | datagram peer data =>
    change Discreet start (srv.datagramReceived peer data)
    rcases srv.datagramReceived_cases peer data with
      ⟨dispatcher, aside⟩ | ⟨key, id, message, -, -, taken⟩
    · rw [aside]
      exact discreet.dispatch dispatcher
    · rw [taken]
      exact discreet.takeIn id _ _ _
  | fetch id => exact discreet.submits (submits_undergo rfl srv)
  | peerSend id data => exact discreet.useTunnel _
  | peerFlush id => exact discreet.useTunnel _

theorem conduct (discreet : Discreet start srv) (affair : Affair) :
    Discreet start (srv.conduct affair) := by
  cases affair with
  | incident incident => exact discreet.undergo incident
  | send id message => exact (discreet.send id message).1
  | sendDatagram id message => exact (discreet.send id message).2

end Discreet

/-! ## Whole servers -/

theorem rewirings_conduct (srv : Server) (affair : Affair) :
    Roster.Rewirings srv.roster (srv.conduct affair).roster := by
  cases affair with
  | incident incident => exact (passes_undergo srv incident).shifts.rewirings
  | send id message => exact .single (.aside (sameWiring_send srv id message))
  | sendDatagram id message => exact .single (.aside (sameWiring_sendDatagram srv id message))

/-- What holds throughout a run whose handlers only answer, whatever else happens in it. -/
structure Insulated (start srv : Server) : Prop extends Discreet start srv where
  wired : ∀ id, srv.roster.Wired id
  keyed : srv.roster.Keyed

theorem Insulated.conduct (insulated : Insulated start srv) (affair : Affair) :
    Insulated start (srv.conduct affair) where
  toDiscreet := insulated.toDiscreet.conduct affair
  wired := Roster.Wired.rewirings insulated.wired (rewirings_conduct srv affair)
  keyed := insulated.keyed.rewirings insulated.wired (rewirings_conduct srv affair)

theorem Insulated.process (insulated : Insulated start srv) (request : Request) :
    Insulated start (srv.process request) :=
  insulated.conduct (.incident (.operation (.process request)))

theorem insulated_blank (plan : ServerPlan) (shardKey : RequestSender → Nat)
    {handlers : HandlerTable} (only : handlers.OnlyAnswers) :
    Insulated (blank plan shardKey handlers) (blank plan shardKey handlers) where
  answers := only
  exact := exact_blank (only.confined _)
  wired := wired_blank plan shardKey handlers
  keyed := ⟨List.nodup_nil, List.nodup_nil⟩

end Server

end SessionNet
