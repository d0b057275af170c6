import SessionNet.Proofs.Session.Standing

/-!
# What a closed session gives up

A managed session that is closed gives back its slot, loses what it had left to write, shuts its
transports and leaves the indexes. Every other session stays, its entries included.
-/

namespace SessionNet

/-! ## Slots -/

namespace ConnectionFilter

variable {f : ConnectionFilter} {ip other : IpAddress} {count : Nat}

theorem connectionsFrom_setCount :
    (f.setCount ip count).connectionsFrom other =
      if other = ip then count else f.connectionsFrom other := by
  by_cases same : other = ip
  · subst same
    by_cases spent : count = 0
    · have dropped : (f.active.filter (·.1 != other)).lookup other = none := by
        rw [List.lookup_eq_none_iff]
        intro entry hentry
        simpa [bne_comm] using (List.mem_filter.mp hentry).2
      simp [setCount, connectionsFrom, spent, dropped]
    · simp [setCount, connectionsFrom, spent]
  · have kept : (f.active.filter (·.1 != ip)).lookup other = f.active.lookup other :=
      lookup_filter_of_key fun _ => by simpa using same
    have differs : (other == ip) = false := beq_false_of_ne same
    by_cases spent : count = 0
    · simp [setCount, connectionsFrom, spent, kept, same]
    · simp [setCount, connectionsFrom, spent, List.lookup_cons, differs, kept, same]

theorem connectionsFrom_reserve {f' : ConnectionFilter} (reserved : f.reserve ip = .ok f') :
    f'.connectionsFrom other = f.connectionsFrom other + if other = ip then 1 else 0 := by
  unfold reserve at reserved
  dsimp only at reserved
  split at reserved
  · cases reserved
  · cases reserved
    rw [connectionsFrom_setCount]
    by_cases same : other = ip
    · simp [same]
    · simp [same]

theorem connectionsFrom_release :
    (f.release ip).connectionsFrom other =
      f.connectionsFrom other - if other = ip then 1 else 0 := by
  unfold release
  rw [connectionsFrom_setCount]
  by_cases same : other = ip
  · simp [same]
  · simp [same]

end ConnectionFilter

namespace Session

/-- The address of which the session holds a slot. -/
def slot? (s : Session) : Option IpAddress := if s.holdsSlot then s.remote?.map (·.ip) else none

/-- What becomes of a session that is closed for a reason. -/
structure TornDown (s t : Session) (reason : CloseReason) : Prop where
  inactive : t.isActive = false
  closeReason : t.closeReason? = some reason
  slot : t.slot? = none
  queue : t.queue.packets = []
  pending : t.pending? = none
  /-- Every packet queued and the one partly written are counted as dropped. -/
  counters : t.counters = { s.counters with
    packetsDropped := s.counters.packetsDropped + (s.queue.packets.length + s.pending?.toList.length) }
  /-- A stream is shut down, and what was written to it stays written. -/
  stream : ∀ stream, s.transport = .socket stream →
    t.transport = .socket { stream with shut := true }
  /-- A sink takes no more messages, and those it took can still be received. -/
  sink : ∀ sink, s.transport = .webSocket sink →
    t.transport = .webSocket { sink with closed := true }
  detached : s.transport = .detached → t.transport = .detached
  /-- Both ends of the tunnel are closed, and what arrived at them can still be received. -/
  tunnel : ∀ channel, s.tunnel? = some channel →
    t.tunnel? = some { channel with tunnel := { channel.tunnel with closed := true } }
  untunneled : s.tunnel? = none → t.tunnel? = none

theorem tornDown_tearDown {s : Session} (unclosed : s.closeReason? = none) (reason : CloseReason) :
    s.TornDown (s.tearDown reason) reason where
  inactive := rfl
  closeReason := by simp [tearDown, unclosed]
  slot := rfl
  queue := rfl
  pending := rfl
  counters := rfl
  stream stream own := by simp [tearDown, own, Transport.close]
  sink sink own := by simp [tearDown, own, Transport.close, Sink.close]
  detached own := by simp [tearDown, own, Transport.close]
  tunnel channel own := by simp [tearDown, own, Tunnel.close]
  untunneled own := by simp [tearDown, own]

end Session

/-! ## Entries -/

/-- A look-up that no longer leads to a session by its own key, and to every other one as before. -/
structure Abandoned {κ : Type} (id : SessionId) (own? : Option κ) (find find' : κ → Option SessionId) :
    Prop where
  own : ∀ key, own? = some key → find' key ≠ some id
  others : ∀ key holder, find key = some holder → holder ≠ id → find' key = some holder

theorem abandoned_removeEntry {κ : Type} [BEq κ] [LawfulBEq κ] (index : List (κ × SessionId))
    (id : SessionId) (own? : Option κ) :
    Abandoned id own? (index.lookup ·)
      ((own?.elim index fun key => removeEntry index key id).lookup ·) := by
  constructor
  · rintro key rfl found
    have member : (key, id) ∈ removeEntry index key id := mem_of_lookup found
    simp [removeEntry] at member
  · intro key holder found differs
    cases own? with
    | none => exact found
    | some own => exact lookup_removeEntry_of_some found differs

namespace Roster

variable {r : Roster} {id : SessionId} {s : Session}

/-- What is different in a roster once a session has been closed. -/
structure Departed (id : SessionId) (s : Session) (r r' : Roster) : Prop where
  /-- The slot that the session held is free, and no other. -/
  slots : ∀ ip, r'.filter.connectionsFrom ip =
    r.filter.connectionsFrom ip - if s.slot? = some ip then 1 else 0
  number : Abandoned id (some id) r.find? r'.find?
  conveyance : Abandoned id (s.datagram?.map (·.conveyance)) r.findConveyance? r'.findConveyance?
  tunnel : Abandoned id (s.tunnel?.map (·.id)) r.findTunnel? r'.findTunnel?
  identity : Abandoned id s.identity? r.findIdentity? r'.findIdentity?
  sessions : ∀ other, other ≠ id → r'.session? other = r.session? other

theorem connectionsFrom_releaseSlot (r : Roster) (s : Session) (ip : IpAddress) :
    (r.releaseSlot s).filter.connectionsFrom ip =
      r.filter.connectionsFrom ip - if s.slot? = some ip then 1 else 0 := by
  cases hslot : s.holdsSlot with
  | false => simp [releaseSlot, Session.slot?, hslot]
  | true =>
    cases hremote : s.remote? with
    | none => simp [releaseSlot, Session.slot?, hslot, hremote]
    | some remote =>
      simp only [releaseSlot, Session.slot?, hslot, hremote, if_true, Option.map_some,
        ConnectionFilter.connectionsFrom_release, Option.some.injEq, eq_comm]

theorem releaseSlot_eq (r : Roster) (s : Session) : ∃ filter, r.releaseSlot s = { r with filter } := by
  unfold releaseSlot
  split <;> exact ⟨_, rfl⟩

/-- Removing an identity changes nothing but the entries and their number. -/
theorem removeIdentity_eq (r : Roster) (id : SessionId) (identity : String) :
    ∃ byIdentity boundIdentities,
      r.removeIdentity id identity = { r with byIdentity, boundIdentities } := by
  unfold removeIdentity
  split <;> exact ⟨_, _, rfl⟩

theorem abandoned_removeIdentity (r : Roster) (id : SessionId) (identity? : Option String) :
    Abandoned id identity? r.findIdentity?
      (identity?.elim r (r.removeIdentity id)).findIdentity? := by
  cases identity? with
  | none => exact ⟨nofun, fun _ _ found _ => found⟩
  | some identity =>
    simp only [Option.elim_some]
    by_cases held : r.findIdentity? identity = some id
    · simp only [removeIdentity, held, if_true]
      exact abandoned_removeEntry r.byIdentity id (some identity)
    · -- the entry is another session's by now and stays
      simp only [removeIdentity, held, if_false]
      refine ⟨?_, fun _ _ found _ => found⟩
      rintro key ⟨⟩
      exact held

/-- What a removal does to the rest: an entry is only given up under the session's own ids. -/
theorem remove_transports (hs : r.session? id = some s) :
    (r.remove id).2.filter = r.filter ∧
      (r.remove id).2.byConveyance = (s.datagram?.map (·.conveyance)).elim r.byConveyance
        (removeEntry r.byConveyance · id) ∧
      (r.remove id).2.byTunnel =
        (s.tunnel?.map (·.id)).elim r.byTunnel (removeEntry r.byTunnel · id) := by
  have unlinked : (r.unlink id s).byConveyance = (s.datagram?.map (·.conveyance)).elim r.byConveyance
        (removeEntry r.byConveyance · id) ∧
      (r.unlink id s).byTunnel =
        (s.tunnel?.map (·.id)).elim r.byTunnel (removeEntry r.byTunnel · id) := by
    constructor
    · cases hdatagram : s.datagram? <;> simp [unlink, hdatagram]
    · cases htunnel : s.tunnel? <;> simp [unlink, htunnel]
  rw [remove_eq hs]
  cases s.identity? with
  | none => exact ⟨rfl, unlinked⟩
  | some identity =>
    rcases removeIdentity_eq (r.unlink id s) id identity with ⟨_, _, removed⟩
    rw [Option.elim_some, removed]
    exact ⟨rfl, unlinked⟩

theorem close_transports (reason : CloseReason) (hs : r.session? id = some s)
    (active : s.isActive = true) (managed : s.isManaged = true) :
    (r.close id reason).2.filter = (r.releaseSlot s).filter ∧
      (r.close id reason).2.byConveyance = (s.datagram?.map (·.conveyance)).elim r.byConveyance
        (removeEntry r.byConveyance · id) ∧
      (r.close id reason).2.byTunnel =
        (s.tunnel?.map (·.id)).elim r.byTunnel (removeEntry r.byTunnel · id) := by
  rcases releaseSlot_eq r s with ⟨filter, released⟩
  have torn : ((r.releaseSlot s).update id fun s => s.tearDown reason).session? id =
      some (s.tearDown reason) := by
    have kept : (r.releaseSlot s).session? id = some s := by rwa [released]
    simp [session?_update_self, kept]
  rcases remove_transports torn with ⟨hfilter, hconveyance, htunnel⟩
  -- a tunnel that was shut keeps its id
  have named : (s.tearDown reason).tunnel?.map (·.id) = s.tunnel?.map (·.id) := by
    simp [Session.tearDown, Function.comp_def]
  rw [close_of_active hs active, if_pos managed, hfilter, hconveyance, htunnel, named, released]
  exact ⟨rfl, rfl, rfl⟩

/-- Closing an active managed session frees its slot and its entries, and leaves all others. -/
theorem departed_close (reason : CloseReason) (hs : r.session? id = some s)
    (active : s.isActive = true) (managed : s.isManaged = true) :
    Departed id s r (r.close id reason).2 := by
  rcases close_transports reason hs active managed with ⟨hfilter, hconveyance, htunnel⟩
  rcases close_of_managed reason hs active managed with ⟨hregistered, hidentity, -⟩
  refine ⟨?_, ?_, ?_, ?_, ?_, ?_⟩
  · intro ip
    rw [hfilter]
    exact connectionsFrom_releaseSlot r s ip
  · constructor
    · rintro key ⟨⟩
      simp [find?, hregistered]
    · intro key holder found differs
      simp only [find?, hregistered] at found ⊢
      grind
  · change Abandoned id _ (r.byConveyance.lookup ·) ((r.close id reason).2.byConveyance.lookup ·)
    rw [hconveyance]
    exact abandoned_removeEntry r.byConveyance id _
  · change Abandoned id _ (r.byTunnel.lookup ·) ((r.close id reason).2.byTunnel.lookup ·)
    rw [htunnel]
    exact abandoned_removeEntry r.byTunnel id _
  · change Abandoned id _ r.findIdentity? ((r.close id reason).2.byIdentity.lookup ·)
    rw [hidentity]
    exact abandoned_removeIdentity r id s.identity?
  · intro other differs
    exact session?_close_of_ne differs

end Roster

end SessionNet
