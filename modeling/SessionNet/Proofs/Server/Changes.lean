import SessionNet.Proofs.Session.Roster
import SessionNet.Server.Admission
import SessionNet.Server.Process

/-!
# What single functions of a server change

Each of these functions changes one part of a server and leaves the others as they are. What they
change is said here once, so that whatever does not depend on that part need not look into them.
-/

namespace SessionNet

/-- A packet that is handed over shows in the queue and the counters of its session. -/
theorem Session.exists_enqueue_eq (s : Session) (packet : Packet) :
    ∃ queue counters, (s.enqueue packet).1 = { s with queue, counters } := by
  unfold Session.enqueue
  split
  · exact ⟨_, _, rfl⟩
  · split
    · exact ⟨_, _, rfl⟩
    · exact ⟨_, _, rfl⟩

namespace Server

variable (srv : Server) (id : SessionId) (peer : DatagramPeer)

/-! ## Packets -/

/-- Queueing a packet changes its session, if there is one. -/
theorem enqueue_eq (packet : Packet) :
    (srv.enqueue id packet).1 = srv.update id fun s => (s.enqueue packet).1 := by
  unfold enqueue update
  cases hs : srv.session? id with
  | none => rw [Roster.update_of_fixed fun _ present => nomatch hs.symm.trans present]
  | some s =>
    -- the session that is written back is the one that was read
    exact congrArg (fun roster => { srv with roster })
      (Roster.update_const (f := fun s => (s.enqueue packet).1) hs)

/-- Scheduling marks a session and adds to the run queues, if it does anything. -/
theorem schedule_cases : srv.schedule id = srv ∨ ∃ queues, srv.schedule id =
    { srv.update id fun s => { s with writeScheduled := true } with
      writers := { srv.writers with queues } } := by
  unfold schedule
  split
  · exact .inl rfl
  · split
    · exact .inl rfl
    · exact .inr ⟨_, rfl⟩

/-- A packet is queued, and if it was accepted its session is scheduled. -/
theorem enqueueAndSchedule_fst (packet : Packet) :
    (srv.enqueueAndSchedule id packet).1 = (srv.enqueue id packet).1 ∨
      (srv.enqueueAndSchedule id packet).1 = (srv.enqueue id packet).1.schedule id := by
  unfold enqueueAndSchedule
  rcases srv.enqueue id packet with ⟨queued, _ | _⟩
  · exact .inl rfl
  · exact .inr rfl

/-- A packet that is handed over shows in the sessions and the run queues only. -/
theorem exists_enqueueAndSchedule_eq (packet : Packet) :
    ∃ roster writers, (srv.enqueueAndSchedule id packet).1 = { srv with roster, writers } := by
  rcases srv.enqueueAndSchedule_fst id packet with refused | accepted
  · exact ⟨_, srv.writers, refused.trans (srv.enqueue_eq id packet)⟩
  · rw [accepted, enqueue_eq]
    rcases (srv.update id fun s => (s.enqueue packet).1).schedule_cases id with same | ⟨_, scheduled⟩
    · exact ⟨_, srv.writers, same⟩
    · exact ⟨_, _, scheduled⟩

/-- A message that is sent uses up a packet id besides. -/
theorem exists_send_eq (message : Message) :
    (∃ roster writers nextPacket, (srv.send id message).1 = { srv with roster, writers, nextPacket }) ∧
    ∃ roster writers nextPacket,
      (srv.sendDatagram id message).1 = { srv with roster, writers, nextPacket } := by
  let numbered : Server := { srv with nextPacket := srv.nextPacket + 1 }
  have handed : ∀ packet, ∃ roster writers nextPacket, (numbered.enqueueAndSchedule id packet).1 =
      { srv with roster, writers, nextPacket } := by
    intro packet
    obtain ⟨roster, writers, heq⟩ := numbered.exists_enqueueAndSchedule_eq id packet
    exact ⟨roster, writers, _, heq⟩
  exact ⟨handed _, handed _⟩

/-! ## Connections and messages -/

/-- Whoever is admitted has taken a slot before its session was made. -/
theorem admitSession_eq_ok {srv srv' : Server} {id : SessionId} {remote : SocketAddress}
    {create : Roster → Except NetError (SessionId × Roster)}
    (admitted : srv.admitSession remote create = .ok (id, srv')) :
    ∃ filter roster, srv.roster.filter.reserve remote.ip = .ok filter ∧
      create { srv.roster with filter } = .ok (id, roster) ∧
      srv' = { srv with roster := roster.update id fun s => { s with holdsSlot := true } } := by
  unfold admitSession at admitted
  split at admitted
  · cases admitted
  · rename_i filter reserved
    split at admitted
    · cases admitted
    · rename_i roster made
      cases admitted
      exact ⟨filter, roster, reserved, made, rfl⟩

/-- A message that is read is counted, and goes to the dispatcher or is counted as refused. -/
theorem exists_submit_eq (message : Message) (transport : TransportKind) :
    ∃ (count : Session → Counters) (dispatcher : Dispatcher), (srv.submit id message transport).1 =
      { srv.update id fun s => { s with counters := count s } with dispatcher } := by
  unfold submit
  cases hs : srv.session? id with
  | none =>
    have fixed : srv.roster.update id (fun s => { s with counters := s.counters }) = srv.roster :=
      Roster.update_of_fixed fun _ _ => rfl
    exact ⟨(·.counters), srv.dispatcher, congrArg (fun roster => { srv with roster }) fixed.symm⟩
  | some s =>
    dsimp only
    split
    · exact ⟨_, _, rfl⟩
    · split
      · refine ⟨fun s => s.recordMessage.recordRefused.counters, srv.dispatcher, ?_⟩
        simp only [update, Roster.update, List.modify_modify_eq]
        rfl
      · exact ⟨_, srv.dispatcher, rfl⟩

/-! ## Channels -/

/-- A tunnel is attached, and perhaps polled, or nothing happens. -/
theorem addTunnel_cases (channel : TunnelChannel) : (srv.addTunnel id channel).1 = srv ∨
    ∃ roster readers, srv.roster.addTunnel id channel = .ok roster ∧
      (srv.addTunnel id channel).1 = { srv with roster, readers } := by
  unfold addTunnel
  cases added : srv.roster.addTunnel id channel with
  | error e => exact .inl rfl
  | ok roster =>
    dsimp only
    split
    · exact .inr ⟨roster, srv.readers, rfl, rfl⟩
    · exact .inr ⟨roster, _, rfl, rfl⟩

/-! ## Handshakes -/

/-- A handshake gives a session a path, or moves the counter of conveyance ids at most. -/
theorem grantPath_cases (identity : String) :
    (∃ conveyanceCounter, (srv.grantPath peer identity).2 =
      { srv with roster := { srv.roster with conveyanceCounter } }) ∨
    ∃ id key conveyanceCounter roster,
      srv.roster.nextConveyance? = some (key, { srv.roster with conveyanceCounter }) ∧
      ({ srv.roster with conveyanceCounter } : Roster).addDatagram id ⟨peer, key⟩ = .ok roster ∧
      (srv.grantPath peer identity).2 = { srv with roster } := by
  have unchanged : ∃ conveyanceCounter, srv =
      { srv with roster := { srv.roster with conveyanceCounter } } := ⟨_, rfl⟩
  unfold grantPath
  split
  · exact .inl unchanged
  · split
    · exact .inl unchanged
    · split
      · exact .inl unchanged
      · split
        · exact .inl unchanged
        · split
          · exact .inl unchanged
          · rename_i key roster next
            have counted : ∃ conveyanceCounter, roster = { srv.roster with conveyanceCounter } := by
              obtain ⟨found, -, counted⟩ := Option.map_eq_some_iff.mp next
              exact ⟨_, (congrArg Prod.snd counted).symm⟩
            obtain ⟨conveyanceCounter, rfl⟩ := counted
            split
            · rename_i added
              exact .inr ⟨_, key, conveyanceCounter, _, next, added, rfl⟩
            · exact .inl ⟨conveyanceCounter, rfl⟩

/-- An answer uses up a nonce, and may be sent. -/
theorem exists_replyToHandshake_eq (access : DatagramAccess) (conveyance : UInt32) :
    ∃ supply, (srv.replyToHandshake peer access conveyance).1 = { srv with supply } := by
  unfold replyToHandshake
  dsimp only
  split
  · exact ⟨_, rfl⟩
  · exact ⟨_, rfl⟩

end Server

end SessionNet
