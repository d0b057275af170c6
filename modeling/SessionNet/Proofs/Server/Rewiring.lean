import SessionNet.Proofs.Dispatch.Deeds
import SessionNet.Proofs.Server.Operations
import SessionNet.Proofs.Server.Teardown
import SessionNet.Proofs.Session.Conveyance

/-!
# What a server does to the channels of its sessions

Whatever a request leads to and whatever is done to a server from outside, the wiring of its roster
changes in a few ways only: sessions are opened and closed, a handshake gives one a datagram path
under an id that is not in use, and a tunnel is attached to one.
-/

namespace SessionNet

open Roster

theorem Session.wiring_enqueue (s : Session) (packet : Packet) :
    (s.enqueue packet).1.wiring = s.wiring := by
  obtain ⟨queue, counters, heq⟩ := s.exists_enqueue_eq packet
  rw [heq]
  rfl

namespace Server

variable {srv srv' : Server} {id : SessionId} {remote : SocketAddress}

/-! ## Packets -/

theorem sameWiring_schedule (srv : Server) (id : SessionId) :
    SameWiring srv.roster (srv.schedule id).roster := by
  rcases srv.schedule_cases id with same | ⟨queues, scheduled⟩
  · rw [same]
    exact .refl _
  · rw [scheduled]
    exact sameWiring_update fun _ => rfl

theorem sameWiring_enqueue (srv : Server) (id : SessionId) (packet : Packet) :
    SameWiring srv.roster (srv.enqueue id packet).1.roster := by
  rw [enqueue_eq]
  exact sameWiring_update fun s => s.wiring_enqueue packet

theorem sameWiring_enqueueAndSchedule (srv : Server) (id : SessionId) (packet : Packet) :
    SameWiring srv.roster (srv.enqueueAndSchedule id packet).1.roster := by
  have queued := sameWiring_enqueue srv id packet
  rcases srv.enqueueAndSchedule_fst id packet with refused | accepted
  · rwa [refused]
  · rw [accepted]
    exact queued.trans (sameWiring_schedule _ id)

theorem sameWiring_send (srv : Server) (id : SessionId) (message : Message) :
    SameWiring srv.roster (srv.send id message).1.roster :=
  sameWiring_enqueueAndSchedule (srv.createPacket (message.serialize srv.supply.codec.format)).2 id _

theorem sameWiring_sendDatagram (srv : Server) (id : SessionId) (message : Message) :
    SameWiring srv.roster (srv.sendDatagram id message).1.roster :=
  sameWiring_enqueueAndSchedule (srv.createPacket (message.serialize srv.supply.codec.format)).2 id _

/-! ## Requests -/

theorem rewirings_close (srv : Server) (id : SessionId) (reason : CloseReason) :
    Rewirings srv.roster (srv.close id reason).2.roster := by
  rw [roster_close]
  exact .single (.close srv.roster id reason)

theorem rewirings_grantPath (srv : Server) (peer : DatagramPeer) (identity : String) :
    Rewirings srv.roster (srv.grantPath peer identity).2.roster := by
  rcases srv.grantPath_cases peer identity with
    ⟨counter, same⟩ | ⟨id, key, counter, roster, next, added, granted⟩
  · rw [same]
    exact .single (.aside ⟨fun _ => rfl, rfl, rfl⟩)
  · rw [granted]
    exact .single (.grant next added)

theorem rewirings_deed {spoken : ServerEvent → Prop} {heard : DatagramPeer → Prop}
    (deed : Deed spoken heard srv srv') :
    Rewirings srv.roster srv'.roster := by
  cases deed with
  | event event delivered _ => exact .refl
  | called kind => exact .refl
  | unregister kind => exact .refl
  | send id message => exact .single (.aside (sameWiring_send srv id message))
  | sendDatagram id message => exact .single (.aside (sameWiring_sendDatagram srv id message))
  | transition id source target =>
    exact .single (.aside (sameWiring_transition srv.roster id source target))
  | close id reason => exact rewirings_close srv id reason
  | associate identity id => exact .single (.aside (sameWiring_associate srv.roster identity id))
  | @takeOver identity id old live =>
    have moved : SameWiring srv.roster (srv.moved identity id old).roster :=
      (sameWiring_bind srv.roster identity id).trans (sameWiring_update fun _ => rfl)
    rw [takeOver_eq live]
    exact .head (.aside moved) (rewirings_close _ old .reconnected)
  | grantPath peer identity => exact rewirings_grantPath srv peer identity
  | reply peer access conveyance =>
    obtain ⟨supply, replied⟩ := srv.exists_replyToHandshake_eq peer access conveyance
    rw [replied]

theorem rewirings_process (srv : Server) (request : Request) :
    Rewirings srv.roster (srv.process request).roster :=
  (deeds_process srv request).preserves (P := fun later => Rewirings srv.roster later.roster)
    (fun _ _ deed before => before.trans (rewirings_deed deed)) .refl

/-! ## Operations -/

/-- A new session has no channel, and the place reserved for it shows in no entry. -/
theorem rewirings_admitSession {create : Roster → Except NetError (SessionId × Roster)}
    (creates : ∀ r, (∃ e, create r = .error e) ∨ ∃ transport, create r =
      .ok (r.register { r.freshSession (some remote) srv.now with transport }))
    (admitted : srv.admitSession remote create = .ok (id, srv')) :
    Rewirings srv.roster srv'.roster := by
  obtain ⟨filter, roster, -, made, rfl⟩ := admitSession_eq_ok admitted
  have reserved : SameWiring srv.roster { srv.roster with filter } := ⟨fun _ => rfl, rfl, rfl⟩
  rcases creates { srv.roster with filter } with ⟨e, failed⟩ | ⟨transport, registered⟩
  · cases failed.symm.trans made
  · cases registered.symm.trans made
    exact .head (.aside reserved) (.head (.register _ rfl rfl rfl rfl)
      (.single (.aside (sameWiring_update fun _ => rfl))))

theorem rewirings_createWebSocket {sink : Sink}
    (made : srv.createWebSocket sink remote = .ok (id, srv')) : Rewirings srv.roster srv'.roster :=
  rewirings_admitSession (fun r => .inr ⟨_, createWebSocket_eq r sink remote srv.now⟩) made

theorem rewirings_acceptStream {stream : Stream}
    (accepted : srv.acceptStream stream remote = .ok (id, srv')) :
    Rewirings srv.roster srv'.roster := by
  obtain ⟨after, admitted, ended⟩ := acceptStream_eq_ok accepted
  have opened : Rewirings srv.roster after.roster :=
    rewirings_admitSession (fun r => r.createSocket_cases stream remote srv.now) admitted
  rcases ended with rfl | rfl
  · exact opened.trans (rewirings_close after id .shutdown)
  · exact opened

theorem sameWiring_submit (srv : Server) (id : SessionId) (message : Message)
    (transport : TransportKind) : SameWiring srv.roster (srv.submit id message transport).1.roster := by
  obtain ⟨count, dispatcher, submitted⟩ := srv.exists_submit_eq id message transport
  rw [submitted]
  exact sameWiring_update fun _ => rfl

theorem rewirings_shardStep (srv : Server) (shard : Nat) :
    Rewirings srv.roster (srv.shardStep shard).roster := by
  rcases shardStep_cases srv shard with same | ⟨queued, dispatcher, after, -, rfl, heq⟩
  · rw [same]
  · rw [heq]
    exact rewirings_process { srv with dispatcher } queued.request

theorem rewirings_closeAll (srv : Server) (reason : CloseReason) :
    Rewirings srv.roster (srv.closeAll reason).2.roster :=
  closeAll_preserves (P := fun later => Rewirings srv.roster later.roster)
    (fun later id before => before.trans (rewirings_close later id reason)) .refl

theorem rewirings_step (srv : Server) (operation : Operation) :
    Rewirings srv.roster (srv.step operation).roster := by
  cases operation with
  | openWebSocket sink remote =>
    cases made : srv.createWebSocket sink remote with
    | error e => simpa only [step, made] using .refl
    | ok result => simpa only [step, made] using rewirings_createWebSocket made
  | acceptStream stream remote =>
    cases accepted : srv.acceptStream stream remote with
    | error e => simpa only [step, accepted] using .refl
    | ok result => simpa only [step, accepted] using rewirings_acceptStream accepted
  | submit id message transport => exact .single (.aside (sameWiring_submit srv id message transport))
  | process request => exact rewirings_process srv request
  | shardStep shard => exact rewirings_shardStep srv shard
  | close id reason => exact rewirings_close srv id reason
  | closeAll reason => exact rewirings_closeAll srv reason
  | start => exact .refl
  | stop => exact .refl

theorem rewirings_addTunnel (srv : Server) (id : SessionId) (channel : TunnelChannel) :
    Rewirings srv.roster (srv.addTunnel id channel).1.roster := by
  rcases srv.addTunnel_cases id channel with same | ⟨roster, readers, added, attached⟩
  · rw [same]
  · rw [attached]
    exact .single (.tunnel added)

end Server

end SessionNet
