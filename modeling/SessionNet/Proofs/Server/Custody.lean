import SessionNet.Proofs.Server.Traffic
import SessionNet.Proofs.Session.Tally

/-!
# What becomes of the packets handed over to a session

Packets are handed over to a session, writers take their turns with it, its transports change and
behave in any way, and it is closed. Every packet handed over while the session was active is counted
as written or as dropped, or is still to be written, as long as no pass has failed. The first pass
that fails closes the session, and the packet it failed with is counted nowhere.
-/

namespace SessionNet

/-- What happens to one session as far as its packets are concerned. -/
inductive Errand where
  | handOver (packet : Packet)
  /-- A writer takes its turn with the session. -/
  | pass
  | close (reason : CloseReason)
  /-- From now on the stream behaves like this. -/
  | behave (script : List WriteOutcome)
  /-- The other side of a channel of whole messages and of a tunnel goes away. -/
  | hangUp
  | route (port : DatagramPort)
  | addDatagram (channel : DatagramChannel)
  | addTunnel (channel : TunnelChannel)

namespace Errand

/-- The packet handed over. -/
def packet? : Errand → Option Packet
  | .handOver packet => some packet
  | _ => none

def packets (errands : List Errand) : List Packet := errands.filterMap packet?

end Errand

/-- A server, with what was handed over to one session while it was active and how often a pass over
it failed. -/
structure Custody where
  server : Server
  handed : Nat := 0
  failures : Nat := 0

/-! ## Servers -/

namespace Server

/-- How many packets the next pass over a session loses. -/
def lossOfPass (srv : Server) (id : SessionId) : Nat :=
  match srv.session? id with
  | none => 0
  | some s => if s.isActive then lost (s.writePass srv.writers.budget srv.supply).result else 0

def perform (srv : Server) (id : SessionId) : Errand → Server
  | .handOver packet => (srv.enqueue id packet).1
  | .pass => srv.runPass id
  | .close reason => (srv.close id reason).2
  | .behave script => srv.update id (Outflow.behave · script)
  | .hangUp => srv.update id Session.hangUp
  | .route port => { srv with supply := { srv.supply with port } }
  | .addDatagram channel => srv.addDatagram id channel
  | .addTunnel channel => (srv.addTunnel id channel).1

end Server

/-- A session that has the same packets as another one, and has counted the same. -/
structure Session.SameLoad (s t : Session) : Prop where
  active : t.isActive = s.isActive
  queue : t.queue = s.queue
  pending : t.pending? = s.pending?
  counters : t.counters = s.counters

namespace Session.SameLoad

variable {s t u : Session}

theorem trans (first : s.SameLoad t) (second : t.SameLoad u) : s.SameLoad u where
  active := second.active.trans first.active
  queue := second.queue.trans first.queue
  pending := second.pending.trans first.pending
  counters := second.counters.trans first.counters

theorem unsent (same : s.SameLoad t) : t.unsent = s.unsent := by
  rw [Session.unsent, Session.unsent, same.queue, same.pending]

theorem tally (same : s.SameLoad t) : t.tally = s.tally := by
  rw [Session.tally, Session.tally, same.counters, same.unsent]

end Session.SameLoad

namespace Server

variable {srv : Server} {id : SessionId} {s : Session}

theorem sameLoad_update (hs : srv.session? id = some s) {f : Session → Session}
    (same : ∀ s : Session, s.SameLoad (f s)) :
    ∃ t, (srv.update id f).session? id = some t ∧ s.SameLoad t := by
  refine ⟨f s, ?_, same s⟩
  rw [session?_update_self, hs]
  rfl

theorem sameLoad_schedule (hs : srv.session? id = some s) :
    ∃ t, (srv.schedule id).session? id = some t ∧ s.SameLoad t := by
  rcases srv.schedule_cases id with same | ⟨queues, scheduled⟩
  · rw [same]
    exact ⟨s, hs, rfl, rfl, rfl, rfl⟩
  · rw [scheduled]
    exact sameLoad_update hs fun _ => ⟨rfl, rfl, rfl, rfl⟩

theorem sameLoad_addDatagram (hs : srv.session? id = some s) (channel : DatagramChannel) :
    ∃ t, (srv.addDatagram id channel).session? id = some t ∧ s.SameLoad t := by
  rcases srv.addDatagram_cases id channel with same | ⟨roster, added, attached⟩
  · rw [same]
    exact ⟨s, hs, rfl, rfl, rfl, rfl⟩
  · rcases Roster.addDatagram_eq_ok added with ⟨-, -, -, -, rfl⟩
    rw [attached]
    exact sameLoad_update hs fun _ => ⟨rfl, rfl, rfl, rfl⟩

theorem sameLoad_addTunnel (hs : srv.session? id = some s) (channel : TunnelChannel) :
    ∃ t, (srv.addTunnel id channel).1.session? id = some t ∧ s.SameLoad t := by
  rcases srv.addTunnel_cases id channel with same | ⟨roster, readers, added, attached⟩
  · rw [same]
    exact ⟨s, hs, rfl, rfl, rfl, rfl⟩
  · rcases Roster.addTunnel_eq_ok added with ⟨-, -, -, -, rfl⟩
    rw [attached]
    exact sameLoad_update hs fun _ => ⟨rfl, rfl, rfl, rfl⟩

theorem session?_enqueue (hs : srv.session? id = some s) (packet : Packet) :
    (srv.enqueue id packet).1.session? id = some (s.enqueue packet).1 := by
  rw [enqueue_eq]
  exact (session?_update_self srv id _).trans (congrArg (Option.map _) hs)

/-- What a writer's turn leaves of an active session: every packet is accounted for, or one is lost
and the session is closed. -/
structure Relieved (s : Session) (loss : Nat) (t : Session) : Prop where
  tally : t.tally + loss = s.tally
  queued : ∀ other ∈ t.queue.packets, other ∈ s.queue.packets
  ended : loss = 0 ∧ t.isActive = true ∨ loss = 1 ∧ t.isActive = false ∧ t.unsent = 0

/-- What a pass leaves of a session, as long as nobody closes it. -/
theorem Relieved.of_sameLoad {t : Session} {supply : Supply} {budget : Nat} {ended : WritePass}
    (active : s.isActive = true) (success : (s.writePass budget supply).result = .ok ended)
    (same : (s.writePass budget supply).session.SameLoad t) : Relieved s 0 t where
  tally := by
    have counted := s.tally_writePass budget supply
    rwa [success, lost_ok, ← same.tally] at counted
  queued other member := by
    obtain ⟨count, -, packets, -⟩ := (s.passed_writePass budget supply).taken
    rw [same.queue, packets] at member
    exact List.mem_of_mem_drop member
  ended := by
    have standing := (s.served_writePass budget supply).standing
    exact .inl ⟨rfl, same.active.trans ((congrArg Standing.isActive standing).trans active)⟩

/-- What is left of a session that is closed because the pass failed. -/
theorem Relieved.of_failure {t : Session} {supply : Supply} {budget : Nat} {e : NetError}
    (failure : (s.writePass budget supply).result = .error e)
    (same : (s.writePass budget supply).session.SameLoad t) (reason : CloseReason) :
    Relieved s 1 (t.tearDown reason) where
  tally := by
    have counted := s.tally_writePass budget supply
    rwa [failure, lost_error, ← same.tally, ← t.tally_tearDown reason] at counted
  queued other member := by cases member
  ended := .inr ⟨rfl, rfl, rfl⟩

theorem relieved_runPass (hs : srv.session? id = some s) (active : s.isActive = true) :
    ∃ t, (srv.runPass id).session? id = some t ∧ Relieved s (srv.lossOfPass id) t := by
  have stored := session?_release_self hs (s.writePass srv.writers.budget srv.supply)
  have released : (s.writePass srv.writers.budget srv.supply).session.SameLoad
      { (s.writePass srv.writers.budget srv.supply).session with writeScheduled := false } :=
    ⟨rfl, rfl, rfl, rfl⟩
  have ended := runPass_of_active hs active
  have loss : srv.lossOfPass id = lost (s.writePass srv.writers.budget srv.supply).result := by
    simp [lossOfPass, hs, active]
  rw [loss]
  revert ended
  generalize srv.runPass id = after
  generalize hresult : (s.writePass srv.writers.budget srv.supply).result = result
  intro ended
  cases ended with
  | drained => exact ⟨_, stored, .of_sameLoad active hresult released⟩
  | yielded =>
    obtain ⟨t, present, same⟩ := sameLoad_schedule stored
    exact ⟨t, present, .of_sameLoad active hresult (released.trans same)⟩
  | blocked =>
    have waiting := session?_update_self (srv.release id (s.writePass srv.writers.budget srv.supply))
      id fun t => { t with awaitsWritable := true }
    rw [stored] at waiting
    exact ⟨_, waiting, .of_sameLoad active hresult (released.trans ⟨rfl, rfl, rfl, rfl⟩)⟩
  | failed e =>
    have stillActive : (s.writePass srv.writers.budget srv.supply).session.isActive = true :=
      (congrArg Standing.isActive (s.served_writePass _ _).standing).trans active
    refine ⟨_, ?_, .of_failure hresult released .writeError⟩
    rw [session?_close_self, stored]
    exact congrArg some (if_pos stillActive)

end Server

/-! ## Runs -/

namespace Custody

def step (id : SessionId) (c : Custody) (errand : Errand) : Custody where
  server := c.server.perform id errand
  handed :=
    match errand with
    | .handOver _ => c.handed + (c.server.roster.isActive id).toNat
    | _ => c.handed
  failures :=
    match errand with
    | .pass => c.failures + c.server.lossOfPass id
    | _ => c.failures

def run (id : SessionId) (c : Custody) (errands : List Errand) : Custody :=
  errands.foldl (step id) c

variable {c : Custody} {id : SessionId} {start : Nat} {s : Session}

/-- The books of a session that had accounted for `start` packets when the run began. -/
structure Balanced (id : SessionId) (start : Nat) (c : Custody) (s : Session) : Prop where
  present : c.server.session? id = some s
  balance : s.tally + c.failures = start + c.handed
  /-- A closed session has nothing left to write. -/
  settled : s.isActive = false → s.unsent = 0
  /-- Only the last pass over an active session fails. -/
  failed : c.failures = 0 ∨ c.failures = 1 ∧ s.isActive = false

/-- What one errand does to the books: they stay balanced, and what is queued was queued before or
was handed over. -/
structure Kept (id : SessionId) (start : Nat) (s : Session) (packet? : Option Packet) (c : Custody)
    (t : Session) : Prop where
  balanced : c.Balanced id start t
  queued : ∀ other ∈ t.queue.packets, other ∈ s.queue.packets ∨ packet? = some other

/-- A change that does not concern the packets. -/
theorem Balanced.aside (balanced : c.Balanced id start s) {server : Server} {packet? : Option Packet}
    (same : ∃ t, server.session? id = some t ∧ s.SameLoad t) :
    ∃ t, Kept id start s packet? { c with server } t := by
  obtain ⟨t, present, same⟩ := same
  refine ⟨t, ⟨present, ?_, ?_, ?_⟩, fun other member => .inl ?_⟩
  · exact same.tally ▸ balanced.balance
  · exact fun inactive => same.unsent ▸ balanced.settled (same.active ▸ inactive)
  · exact balanced.failed.imp_right (And.imp_right same.active.trans)
  · rwa [same.queue] at member

theorem Balanced.handOver (balanced : c.Balanced id start s) {packet : Packet}
    (fresh : ∀ other ∈ s.queue.packets, other.id ≠ packet.id) :
    ∃ t, Kept id start s (some packet) (c.step id (.handOver packet)) t := by
  have present := Server.session?_enqueue balanced.present packet
  have isActive : c.server.roster.isActive id = s.isActive := by
    have found : c.server.roster.session? id = some s := balanced.present
    simp [Roster.isActive, found]
  have same : (s.enqueue packet).1.isActive = s.isActive :=
    congrArg Standing.isActive (Server.standing_enqueue s packet)
  refine ⟨_, ⟨present, ?_, ?_, ?_⟩, fun other member => ?_⟩
  · change (s.enqueue packet).1.tally + c.failures =
      start + (c.handed + (c.server.roster.isActive id).toNat)
    have balance := balanced.balance
    rw [isActive]
    cases active : s.isActive with
    | false => rwa [Session.enqueue_of_inactive packet active]
    | true =>
      rw [Session.tally_enqueue active fresh, Bool.toNat_true]
      omega
  · intro inactive
    rw [same] at inactive
    rw [Session.enqueue_of_inactive packet inactive]
    exact balanced.settled inactive
  · exact balanced.failed.imp_right (And.imp_right same.trans)
  · rcases s.enqueue_cases packet with ⟨e, t, refused, altered⟩ | ⟨queue, queued, members⟩
    · rw [refused, altered.queue] at member
      exact .inl member
    · rw [queued] at member
      exact (members other member).symm.imp_right fun new => congrArg some new.symm

/-- A pass moves packets on; if it fails, the session is closed and one packet is lost. -/
theorem Balanced.pass (balanced : c.Balanced id start s) :
    ∃ t, Kept id start s none (c.step id .pass) t := by
  cases active : s.isActive with
  | false =>
    have nothing : c.server.lossOfPass id = 0 := by
      simp [Server.lossOfPass, balanced.present, active]
    have same : ∃ t, (c.server.perform id .pass).session? id = some t ∧ s.SameLoad t := by
      unfold Server.perform
      rw [Server.runPass_of_closed balanced.present active]
      exact Server.sameLoad_update balanced.present fun _ => ⟨rfl, rfl, rfl, rfl⟩
    have kept : ∃ t, Kept id start s none { c with server := c.server.perform id .pass } t :=
      balanced.aside same
    simpa [step, nothing] using kept
  | true =>
    have none : c.failures = 0 := by
      simpa [active] using balanced.failed
    have balance := balanced.balance
    obtain ⟨t, present, relieved⟩ := Server.relieved_runPass balanced.present active
    have counted := relieved.tally
    refine ⟨t, ⟨present, ?_, ?_, ?_⟩, fun other member => .inl (relieved.queued other member)⟩
    · change t.tally + (c.failures + c.server.lossOfPass id) = start + c.handed
      omega
    · intro inactive
      rcases relieved.ended with ⟨-, stillActive⟩ | ⟨-, -, settled⟩
      · rw [inactive] at stillActive
        cases stillActive
      · exact settled
    · change c.failures + c.server.lossOfPass id = 0 ∨
        c.failures + c.server.lossOfPass id = 1 ∧ t.isActive = false
      rcases relieved.ended with ⟨nothing, -⟩ | ⟨one, inactive, -⟩
      · exact .inl (by omega)
      · exact .inr ⟨by omega, inactive⟩

theorem Balanced.close (balanced : c.Balanced id start s) (reason : CloseReason) :
    ∃ t, Kept id start s none (c.step id (.close reason)) t := by
  have present := c.server.session?_close_self id reason
  rw [balanced.present, Option.map_some] at present
  cases active : s.isActive with
  | false =>
    simp only [active, Bool.false_eq_true, if_false] at present
    exact ⟨s, ⟨present, balanced.balance, balanced.settled, balanced.failed⟩, fun _ => .inl⟩
  | true =>
    simp only [active, if_true] at present
    have nothing : c.failures = 0 := by
      simpa [active] using balanced.failed
    refine ⟨_, ⟨present, ?_, fun _ => rfl, .inl nothing⟩, fun other member => ?_⟩
    · exact (s.tally_tearDown reason).symm ▸ balanced.balance
    · cases member

/-- Every errand leaves the books balanced; a packet must not have the id of a queued one. -/
theorem Balanced.step (balanced : c.Balanced id start s) (errand : Errand)
    (fresh : ∀ packet, errand.packet? = some packet →
      ∀ other ∈ s.queue.packets, other.id ≠ packet.id) :
    ∃ t, Kept id start s errand.packet? (c.step id errand) t := by
  cases errand with
  | handOver packet => exact balanced.handOver (fresh packet rfl)
  | pass => exact balanced.pass
  | close reason => exact balanced.close reason
  | behave script =>
    refine balanced.aside (Server.sameLoad_update balanced.present fun s => ?_)
    unfold Outflow.behave
    cases s.transport <;> exact ⟨rfl, rfl, rfl, rfl⟩
  | hangUp =>
    exact balanced.aside (Server.sameLoad_update balanced.present fun _ => ⟨rfl, rfl, rfl, rfl⟩)
  | route port => exact balanced.aside ⟨s, balanced.present, rfl, rfl, rfl, rfl⟩
  | addDatagram channel => exact balanced.aside (Server.sameLoad_addDatagram balanced.present channel)
  | addTunnel channel => exact balanced.aside (Server.sameLoad_addTunnel balanced.present channel)

/-- The books stay balanced as long as no packet has the id of another one. -/
theorem Balanced.run {errands : List Errand} (balanced : c.Balanced id start s)
    (distinct : ((Errand.packets errands).map (·.id)).Nodup)
    (fresh : ∀ packet ∈ Errand.packets errands, ∀ other ∈ s.queue.packets, other.id ≠ packet.id) :
    ∃ t, (c.run id errands).Balanced id start t := by
  induction errands generalizing c s with
  | nil => exact ⟨s, balanced⟩
  | cons errand rest ih =>
    obtain ⟨t, kept⟩ := balanced.step errand fun packet offered =>
      fresh packet (List.mem_filterMap.mpr ⟨errand, List.mem_cons_self, offered⟩)
    have others : ∀ packet ∈ Errand.packets rest, packet ∈ Errand.packets (errand :: rest) := by
      intro packet member
      obtain ⟨later, member, offered⟩ := List.mem_filterMap.mp member
      exact List.mem_filterMap.mpr ⟨later, List.mem_cons_of_mem errand member, offered⟩
    refine ih kept.balanced ?_ fun packet member other queued same => ?_
    · have fewer : (Errand.packets rest).Sublist (Errand.packets (errand :: rest)) :=
        (List.sublist_cons_self errand rest).filterMap _
      exact distinct.sublist (fewer.map _)
    · rcases kept.queued other queued with old | new
      · exact fresh packet (others packet member) other old same
      · -- the packet of this errand has an id that no later one has
        rw [Errand.packets, List.filterMap_cons_some new, List.map_cons] at distinct
        exact (List.nodup_cons.mp distinct).1 (List.mem_map.mpr ⟨packet, member, same.symm⟩)

/-- What becomes of the packets handed over to a session that has none, in every run: those handed
over while it was active are counted as written, counted as dropped, queued or pending, or were lost
by the pass that failed. That is the case for one at most, and then the session is closed. -/
theorem run_accounted {srv : Server} (found : srv.session? id = some s) (unused : s.tally = 0)
    {errands : List Errand} (distinct : ((Errand.packets errands).map (·.id)).Nodup) :
    let c := ({ server := srv } : Custody).run id errands
    ∃ t, c.server.session? id = some t ∧
      c.handed = t.counters.packetsWritten + t.counters.packetsDropped + t.queue.length +
        t.pending?.toList.length + c.failures ∧
      (c.failures = 0 ∨ c.failures = 1 ∧ t.isActive = false) ∧
      (t.isActive = false →
        c.handed = t.counters.packetsWritten + t.counters.packetsDropped + c.failures) := by
  intro c
  have nothing : s.queue.packets = [] ∧ s.unsent = 0 := by
    have empty : s.queue.packets.length = 0 ∧ s.unsent = 0 := by
      have parts := s.tally_eq
      rw [unused] at parts
      unfold Session.tally at unused
      omega
    exact ⟨List.length_eq_zero_iff.mp empty.1, empty.2⟩
  have balanced : ({ server := srv } : Custody).Balanced id 0 s :=
    ⟨found, unused, fun _ => nothing.2, .inl rfl⟩
  obtain ⟨t, balanced⟩ := balanced.run distinct fun _ _ other member => by
    rw [nothing.1] at member
    cases member
  have balance : t.tally + c.failures = 0 + c.handed := balanced.balance
  refine ⟨t, balanced.present, ?_, balanced.failed, fun inactive => ?_⟩
  · rw [Session.tally_eq] at balance
    unfold PacketQueue.length
    omega
  · have settled := balanced.settled inactive
    unfold Session.tally at balance
    omega

/-- A server with one session, for a channel of whole messages. -/
def single (sink : Sink) : Server :=
  (Server.blank {} RequestSender.number {}).step (.openWebSocket sink .loopback)

/-- Three packets, the last two after the other side has gone away. -/
def deserted : List Errand :=
  [.handOver ⟨1, [7], .normal, .tcp, false, none⟩, .pass, .hangUp,
    .handOver ⟨2, [8], .normal, .tcp, false, none⟩,
    .handOver ⟨3, [9], .normal, .tcp, false, none⟩, .pass]

/-- The first is written, the second is lost by the pass that fails, and the third is dropped. -/
theorem run_accounted_deserted :
    let c := ({ server := single {} } : Custody).run 0 deserted
    c.handed = 3 ∧ c.failures = 1 ∧ ∃ t, c.server.session? 0 = some t ∧
      t.counters.packetsWritten = 1 ∧ t.counters.packetsDropped = 1 ∧
      c.handed = t.counters.packetsWritten + t.counters.packetsDropped + t.queue.length +
        t.pending?.toList.length + c.failures := by
  intro c
  have found : ∃ s, (single {}).session? 0 = some s ∧ s.tally = 0 := ⟨_, rfl, rfl⟩
  have distinct : ((Errand.packets deserted).map (·.id)).Nodup := by decide
  have counts : (c.server.session? 0).map (fun t =>
      (t.counters.packetsWritten, t.counters.packetsDropped)) = some (1, 1) := rfl
  obtain ⟨s, found, unused⟩ := found
  obtain ⟨t, present, accounted, -, -⟩ := run_accounted found unused distinct
  rw [present, Option.map_some, Option.some.injEq, Prod.mk.injEq] at counts
  exact ⟨rfl, rfl, t, present, counts.1, counts.2, accounted⟩

/-- A packet handed over to a session whose sink is closed: after the pass it is neither counted nor
queued nor pending, and the session is closed. -/
theorem failed_pass_loses_packet :
    let c := ({ server := single ({} : Sink).close } : Custody).run 0
      [.handOver ⟨0, [7], .normal, .tcp, false, none⟩, .pass]
    c.handed = 1 ∧ (c.server.session? 0).map (fun t => (t.isActive, t.counters.packetsWritten,
      t.counters.packetsDropped, t.queue.length, t.pending?)) = some (false, 0, 0, 0, none) :=
  ⟨rfl, rfl⟩

end Custody

end SessionNet
