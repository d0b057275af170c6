import SessionNet.Server.Basic

/-!
# Operations on the roster

What the operations of `Roster` do to the sessions and to the index of identities, and the runs
made of them. A run starts from a roster without sessions and takes operations in any order, those
that fail included; it does not contain `Roster.remove`, which takes a session out of the indexes
without closing it.
-/

namespace SessionNet

/-- A client on the same machine. -/
def SocketAddress.loopback : SocketAddress := ⟨.v4 (Vector.replicate 4 127), 5000, 0⟩

/-! ## Indexes -/

section Index

variable {κ : Type} [BEq κ] [LawfulBEq κ]
variable {index : List (κ × SessionId)} {key other : κ} {id holder : SessionId}

/-- The entry that a look-up finds is found again if a filter keeps it. -/
theorem lookup_filter_of_some {β : Type} {index : List (κ × β)} {holder : β} {p : κ × β → Bool}
    (found : index.lookup key = some holder) (kept : p (key, holder) = true) :
    (index.filter p).lookup key = some holder := by
  induction index with
  | nil => simp at found
  | cons entry rest ih =>
    rcases entry with ⟨k, v⟩
    by_cases same : key = k
    · subst same
      have hv : v = holder := by simpa using found
      subst hv
      simp [kept]
    · have differs : (key == k) = false := beq_false_of_ne same
      have tail : rest.lookup key = some holder := by
        simpa [List.lookup_cons, differs] using found
      -- whether the head stays or goes, the look-up passes over it
      by_cases stays : p (k, v) = true
      · simpa [List.filter_cons, stays, List.lookup_cons, differs] using ih tail
      · simpa [List.filter_cons, stays] using ih tail

/-- A filter that keeps every entry of a key changes nothing for that key. -/
theorem lookup_filter_of_key {β : Type} {index : List (κ × β)} {p : κ × β → Bool}
    (kept : ∀ holder, p (key, holder) = true) :
    (index.filter p).lookup key = index.lookup key := by
  cases found : index.lookup key with
  | some holder => exact lookup_filter_of_some found (kept holder)
  | none =>
    rw [List.lookup_eq_none_iff] at found ⊢
    intro entry hentry
    exact found entry (List.mem_filter.mp hentry).1

/-- What a look-up finds is an entry. -/
theorem mem_of_lookup (found : index.lookup key = some holder) : (key, holder) ∈ index := by
  rcases List.lookup_eq_some_iff.mp found with ⟨before, after, split, -⟩
  rw [split]
  exact List.mem_append_right _ List.mem_cons_self

theorem lookup_setEntry_self : (setEntry index key id).lookup key = some id := by
  simp [setEntry]

theorem lookup_setEntry_of_ne (differs : other ≠ key) :
    (setEntry index key id).lookup other = index.lookup other := by
  have hbeq : (other == key) = false := beq_false_of_ne differs
  simp only [setEntry, List.lookup_cons, hbeq]
  exact lookup_filter_of_key fun holder => by simp [hbeq]

/-- Removing the entry of one session leaves the entries of all others. -/
theorem lookup_removeEntry_of_some (found : index.lookup other = some holder)
    (differs : holder ≠ id) : (removeEntry index key id).lookup other = some holder := by
  refine lookup_filter_of_some found ?_
  simp [differs]

end Index

namespace Roster

/-! ## Sessions by number -/

section Update

variable {r : Roster} {id other : SessionId} {f g : Session → Session}

theorem session?_update_self : (r.update id f).session? id = (r.session? id).map f := by
  simp [session?, update]

theorem session?_update_of_ne (differs : other ≠ id) :
    (r.update id f).session? other = r.session? other := by
  simp [session?, update, Ne.symm differs]

theorem update_congr (same : ∀ s, r.session? id = some s → f s = g s) :
    r.update id f = r.update id g := by
  have hsessions : r.sessions.modify id f = r.sessions.modify id g := by
    apply List.ext_getElem?
    intro i
    rw [List.getElem?_modify, List.getElem?_modify]
    by_cases hi : id = i
    · subst hi
      cases hs : r.sessions[id]? with
      | none => rfl
      | some s => simp [same s hs]
    · simp [hi]
  simp only [update, hsessions]

theorem update_of_fixed (fixed : ∀ s, r.session? id = some s → f s = s) : r.update id f = r := by
  have same : r.update id f = r.update id fun s => s := update_congr fixed
  rw [same]
  exact congrArg (fun sessions => { r with sessions }) (List.modify_id id r.sessions)

/-- Storing a session that was computed from the one read is changing that one. -/
theorem update_const {s : Session} (hs : r.session? id = some s) :
    (r.update id fun _ => f s) = r.update id f := by
  refine update_congr ?_
  intro t ht
  have hst : s = t := Option.some.inj (hs.symm.trans ht)
  rw [hst]

/-- A transition changes the one session, and only its association state. -/
theorem transition_eq_update (source target : AssociationState) :
    (r.transition id source target).2 = r.update id fun s => (s.transition source target).2 := by
  unfold transition
  cases hs : r.session? id with
  | none =>
    exact (update_of_fixed fun s present => nomatch hs.symm.trans present).symm
  | some s =>
    exact update_const (f := fun s => (s.transition source target).2) hs

theorem isActive_eq_true_iff :
    r.isActive id = true ↔ ∃ s, r.session? id = some s ∧ s.isActive = true := by
  simp [isActive, Option.any_eq_true]

end Update

/-! ## Binding an identity -/

section Bind

variable {r : Roster} {id other : SessionId} {identity name : String}

theorem bind_eq (r : Roster) (identity : String) (id : SessionId) :
    r.bind identity id =
      (({ r with byIdentity := setEntry r.byIdentity identity id } : Roster).update id fun s =>
        { s with identity? := some identity }).update id fun s =>
          (s.transition .doing .done).2 := by
  unfold bind
  exact transition_eq_update _ _

theorem session?_bind_self :
    (r.bind identity id).session? id = (r.session? id).map fun s =>
      (({ s with identity? := some identity } : Session).transition .doing .done).2 := by
  rw [bind_eq, session?_update_self, session?_update_self, Option.map_map]
  rfl

theorem session?_bind_of_ne (differs : other ≠ id) :
    (r.bind identity id).session? other = r.session? other := by
  rw [bind_eq, session?_update_of_ne differs, session?_update_of_ne differs]
  rfl

theorem findIdentity?_bind_self : (r.bind identity id).findIdentity? identity = some id := by
  rw [bind_eq]
  exact lookup_setEntry_self

theorem findIdentity?_bind_of_ne (differs : name ≠ identity) :
    (r.bind identity id).findIdentity? name = r.findIdentity? name := by
  rw [bind_eq]
  exact lookup_setEntry_of_ne differs

/-- A takeover from another session: that one loses the identity after the binding. -/
theorem rebind_of_other {old : SessionId} (found : r.findIdentity? identity = some old)
    (differs : old ≠ id) :
    (r.rebind identity id).2 =
      (r.bind identity id).update old fun s => { s with identity? := none } := by
  simp [rebind, found, Option.filter, differs]

theorem rebind_of_self (found : r.findIdentity? identity = some id) :
    (r.rebind identity id).2 = r.bind identity id := by
  simp [rebind, found, Option.filter]

/-- A takeover of an identity that nobody has is counted as one more. -/
theorem rebind_of_none (absent : r.findIdentity? identity = none) :
    (r.rebind identity id).2 =
      ({ r with boundIdentities := r.boundIdentities + 1 } : Roster).bind identity id := by
  simp [rebind, absent]

end Bind

/-! ## Leaving the indexes -/

section Remove

variable {r : Roster} {id holder : SessionId} {identity : String}

theorem sessions_removeIdentity (r : Roster) (id : SessionId) (identity : String) :
    (r.removeIdentity id identity).sessions = r.sessions := by
  unfold removeIdentity
  split <;> rfl

theorem findIdentity?_removeIdentity_of_some {name : String}
    (found : r.findIdentity? identity = some holder) (differs : holder ≠ id) :
    (r.removeIdentity id name).findIdentity? identity = some holder := by
  unfold removeIdentity
  split
  · exact lookup_removeEntry_of_some found differs
  · exact found

/-- A roster whose other indexes no longer point to a session. -/
def unlink (r : Roster) (id : SessionId) (s : Session) : Roster :=
  { r with
    registered := r.registered.filter (· != id)
    byConveyance := s.datagram?.elim r.byConveyance fun channel =>
      removeEntry r.byConveyance channel.conveyance id
    byTunnel := s.tunnel?.elim r.byTunnel fun channel => removeEntry r.byTunnel channel.id id }

/-- Removal in two parts: the indexes by number and transport, then the index of identities. -/
theorem remove_eq {s : Session} (hs : r.session? id = some s) :
    (r.remove id).2 =
      s.identity?.elim (r.unlink id s) fun identity => (r.unlink id s).removeIdentity id identity := by
  unfold remove unlink
  simp only [hs]
  cases s.datagram? <;> cases s.tunnel? <;> cases s.identity? <;> rfl

theorem remove_of_none (hs : r.session? id = none) : (r.remove id).2 = r := by
  unfold remove
  simp only [hs]

/-- Removal does not touch the sessions themselves. -/
theorem sessions_remove (r : Roster) (id : SessionId) : (r.remove id).2.sessions = r.sessions := by
  cases hs : r.session? id with
  | none => rw [remove_of_none hs]
  | some s =>
    rw [remove_eq hs]
    cases s.identity? with
    | none => rfl
    | some identity => exact sessions_removeIdentity _ id identity

/-- Removing a session leaves every identity that points to another one. -/
theorem findIdentity?_remove_of_some (found : r.findIdentity? identity = some holder)
    (differs : holder ≠ id) : (r.remove id).2.findIdentity? identity = some holder := by
  cases hs : r.session? id with
  | none => rwa [remove_of_none hs]
  | some s =>
    rw [remove_eq hs]
    -- only the part about identities can touch the entry
    cases s.identity? with
    | none => exact found
    | some name => exact findIdentity?_removeIdentity_of_some found differs

end Remove

/-! ## Closing -/

section Close

variable {r : Roster} {id other holder : SessionId} {reason : CloseReason} {identity : String}

theorem sessions_releaseSlot (r : Roster) (s : Session) :
    (r.releaseSlot s).sessions = r.sessions := by
  unfold releaseSlot
  split <;> rfl

theorem byIdentity_releaseSlot (r : Roster) (s : Session) :
    (r.releaseSlot s).byIdentity = r.byIdentity := by
  unfold releaseSlot
  split <;> rfl

/-- Closing what is not active, or does not exist, changes nothing. -/
theorem close_of_not_active (inactive : r.isActive id = false) : (r.close id reason).2 = r := by
  unfold close
  cases hs : r.session? id with
  | none => rfl
  | some s =>
    have hactive : s.isActive = false := by simpa [isActive, hs] using inactive
    simp [hactive]

theorem close_of_active {s : Session} (hs : r.session? id = some s) (active : s.isActive = true) :
    (r.close id reason).2 =
      if s.isManaged then
        (((r.releaseSlot s).update id fun s => s.tearDown reason).remove id).2
      else (r.releaseSlot s).update id fun s => s.tearDown reason := by
  unfold close
  simp only [hs, active]
  cases s.isManaged <;> rfl

theorem sessions_close {s : Session} (hs : r.session? id = some s) (active : s.isActive = true) :
    (r.close id reason).2.sessions = r.sessions.modify id fun s => s.tearDown reason := by
  rw [close_of_active hs active]
  split
  · rw [sessions_remove]
    simp only [update, sessions_releaseSlot]
  · simp only [update, sessions_releaseSlot]

/-- A closed session is torn down, unless it was not active before. -/
theorem session?_close_self :
    (r.close id reason).2.session? id =
      (r.session? id).map fun s => if s.isActive then s.tearDown reason else s := by
  cases hs : r.session? id with
  | none =>
    rw [close_of_not_active (by simp [isActive, hs]), hs]
    rfl
  | some s =>
    cases hactive : s.isActive with
    | false =>
      rw [close_of_not_active (by simp [isActive, hs, hactive]), hs]
      simp [hactive]
    | true =>
      have hmember : r.sessions[id]? = some s := hs
      simp [session?, sessions_close hs hactive, hmember, hactive]

theorem session?_close_of_ne (differs : other ≠ id) :
    (r.close id reason).2.session? other = r.session? other := by
  cases hactive : r.isActive id with
  | false => rw [close_of_not_active hactive]
  | true =>
    rcases isActive_eq_true_iff.mp hactive with ⟨s, hs, active⟩
    simp [session?, sessions_close hs active, Ne.symm differs]

/-- Closing a session leaves every identity that points to another one. -/
theorem findIdentity?_close_of_some (found : r.findIdentity? identity = some holder)
    (differs : holder ≠ id) : (r.close id reason).2.findIdentity? identity = some holder := by
  cases hactive : r.isActive id with
  | false => rwa [close_of_not_active hactive]
  | true =>
    rcases isActive_eq_true_iff.mp hactive with ⟨s, hs, active⟩
    have kept : ((r.releaseSlot s).update id fun s => s.tearDown reason).findIdentity? identity =
        some holder := by
      simpa [findIdentity?, update, byIdentity_releaseSlot] using found
    rw [close_of_active hs active]
    split
    · exact findIdentity?_remove_of_some kept differs
    · exact kept

/-- Close sessions one after the other. -/
def closeEach (r : Roster) (reason : CloseReason) (ids : List SessionId) : Roster :=
  ids.foldl (fun r id => (r.close id reason).2) r

end Close

/-! ## Creation -/

section Creation

variable {r r' : Roster} {other : SessionId} {s : Session}

/-- A session that is added is at the end. -/
theorem session?_of_append (sessions : r'.sessions = r.sessions ++ [s]) (other : SessionId) :
    r'.session? other = if other = r.sessions.length then some s else r.session? other := by
  unfold session?
  rw [sessions, List.getElem?_append]
  split
  · rename_i before
    simp only [Nat.ne_of_lt before, if_false]
  · rename_i behind
    split
    · rename_i last
      simp [last]
    · -- beyond the new session there was none before either
      rename_i differs
      have beyond : r.sessions.length < other :=
        Nat.lt_of_le_of_ne (Nat.not_lt.mp behind) (Ne.symm differs)
      rw [List.getElem?_eq_none (Nat.le_of_lt beyond)]
      exact List.getElem?_eq_none (Nat.sub_pos_of_lt beyond)

theorem session?_register_self (r : Roster) (s : Session) :
    (r.register s).2.session? r.sessions.length = some s.activate :=
  (session?_of_append rfl _).trans (if_pos rfl)

theorem session?_register_of_ne (differs : other ≠ r.sessions.length) :
    (r.register s).2.session? other = r.session? other :=
  (session?_of_append rfl other).trans (if_neg differs)

/-- A stream session is a fresh session on that stream; the stream must have a peer. -/
theorem createSocket_eq (r : Roster) (stream : Stream) (remote : SocketAddress) (now : Instant) :
    r.createSocket stream remote now =
      if stream.connected then
        .ok (r.register { r.freshSession (some remote) now with transport := .socket stream })
      else .error (.invalidArgument .detachedSocket) := by
  unfold createSocket Session.attachSocket
  cases stream.connected <;> rfl

theorem createSocket_cases (r : Roster) (stream : Stream) (remote : SocketAddress) (now : Instant) :
    (∃ e, r.createSocket stream remote now = .error e) ∨ ∃ transport,
      r.createSocket stream remote now =
        .ok (r.register { r.freshSession (some remote) now with transport }) := by
  rw [createSocket_eq]
  split
  · exact .inr ⟨_, rfl⟩
  · exact .inl ⟨_, rfl⟩

/-- A channel of whole messages is always taken, because a fresh session has no transport. -/
theorem createWebSocket_eq (r : Roster) (sink : Sink) (remote : SocketAddress) (now : Instant) :
    r.createWebSocket sink remote now =
      .ok (r.register { r.freshSession (some remote) now with transport := .webSocket sink }) := by
  rfl

end Creation

/-! ## Secondary transports -/

section Secondary

variable {r r' : Roster} {id : SessionId} {s t : Session}

theorem attachDatagram_eq_ok {channel : DatagramChannel}
    (attached : s.attachDatagram channel = .ok t) :
    s.datagram? = none ∧ t = { s with datagram? := some channel } := by
  unfold Session.attachDatagram at attached
  cases hfree : s.datagram? with
  | none => grind
  | some present => grind

theorem attachTunnel_eq_ok {channel : TunnelChannel} (attached : s.attachTunnel channel = .ok t) :
    s.tunnel? = none ∧ t = { s with tunnel? := some channel } := by
  unfold Session.attachTunnel at attached
  cases hfree : s.tunnel? with
  | none => grind
  | some present => grind

/-- A datagram path goes to an active session without one, and its id points to that session. -/
theorem addDatagram_eq_ok {channel : DatagramChannel} (added : r.addDatagram id channel = .ok r') :
    ∃ s, r.session? id = some s ∧ s.isActive = true ∧ s.datagram? = none ∧
      r' = { r.update id fun s => { s with datagram? := some channel } with
        byConveyance := setEntry r.byConveyance channel.conveyance id } := by
  unfold addDatagram at added
  cases hs : r.session? id with
  | none => simp [hs] at added
  | some s =>
    simp only [hs] at added
    cases hactive : s.isActive with
    | false => simp [hactive] at added
    | true =>
      cases hattach : s.attachDatagram channel with
      | error fault => simp [hactive, hattach] at added
      | ok t =>
        rcases attachDatagram_eq_ok hattach with ⟨free, rfl⟩
        refine ⟨s, rfl, hactive, free, ?_⟩
        rw [← update_const hs]
        simpa [hactive, hattach] using added.symm

/-- A tunnel goes to an active session without one, and its id points to that session. -/
theorem addTunnel_eq_ok {channel : TunnelChannel} (added : r.addTunnel id channel = .ok r') :
    ∃ s, r.session? id = some s ∧ s.isActive = true ∧ s.tunnel? = none ∧
      r' = { r.update id fun s => { s with tunnel? := some channel } with
        byTunnel := setEntry r.byTunnel channel.id id } := by
  unfold addTunnel at added
  cases henabled : r.settings.tunnelEnabled with
  | false => simp [henabled] at added
  | true =>
    cases hs : r.session? id with
    | none => simp [henabled, hs] at added
    | some s =>
      simp only [henabled, hs] at added
      cases hactive : s.isActive with
      | false => simp [hactive] at added
      | true =>
        cases hattach : s.attachTunnel channel with
        | error fault => simp [hactive, hattach] at added
        | ok t =>
          rcases attachTunnel_eq_ok hattach with ⟨free, rfl⟩
          refine ⟨s, rfl, hactive, free, ?_⟩
          rw [← update_const hs]
          simpa [hactive, hattach] using added.symm

end Secondary

/-! ## Runs -/

/-- An operation on the roster, with what its caller chooses. -/
inductive Action where
  | createSocket (stream : Stream) (remote : SocketAddress) (now : Instant)
  | createWebSocket (sink : Sink) (remote : SocketAddress) (now : Instant)
  | transition (id : SessionId) (source target : AssociationState)
  | associate (identity : String) (id : SessionId)
  | rebind (identity : String) (id : SessionId)
  | addDatagram (id : SessionId) (channel : DatagramChannel)
  | addTunnel (id : SessionId) (channel : TunnelChannel)
  | close (id : SessionId) (reason : CloseReason)
  | closeAll (reason : CloseReason)

/-- The roster after an operation; one that fails leaves it as it was. -/
def step (r : Roster) : Action → Roster
  | .createSocket stream remote now =>
    match r.createSocket stream remote now with
    | .ok (_, r) => r
    | .error _ => r
  | .createWebSocket sink remote now =>
    match r.createWebSocket sink remote now with
    | .ok (_, r) => r
    | .error _ => r
  | .transition id source target => (r.transition id source target).2
  | .associate identity id => (r.associate identity id).2
  | .rebind identity id => (r.rebind identity id).2
  | .addDatagram id channel =>
    match r.addDatagram id channel with
    | .ok r => r
    | .error _ => r
  | .addTunnel id channel =>
    match r.addTunnel id channel with
    | .ok r => r
    | .error _ => r
  | .close id reason => (r.close id reason).2
  | .closeAll reason => r.closeEach reason (r.registeredWhere fun _ => true)

/-- The roster after operations in order. -/
def run (r : Roster) (actions : List Action) : Roster := actions.foldl step r

/-- What every step preserves, every run preserves. -/
theorem run_preserves {P : Roster → Prop} (hstep : ∀ r action, P r → P (step r action))
    (actions : List Action) : ∀ r, P r → P (r.run actions) := by
  induction actions with
  | nil =>
    intro r h
    exact h
  | cons action rest ih =>
    intro r h
    exact ih (r.step action) (hstep r action h)

end Roster

/-! ## Closing through a server -/

namespace Server

variable {srv : Server} {id : SessionId} {reason : CloseReason}

theorem roster_notify (srv : Server) (request : Request) : (srv.notify request).roster = srv.roster := by
  unfold notify
  split <;> rfl

theorem roster_reportClosed (srv : Server) (id : SessionId) (transport : TransportKind)
    (reason : CloseReason) : (srv.reportClosed id transport reason).roster = srv.roster := by
  unfold reportClosed
  dsimp only
  split
  · exact roster_notify _ _
  · rfl

theorem roster_close : (srv.close id reason).2.roster = (srv.roster.close id reason).2 := by
  unfold close
  cases hs : srv.session? id with
  | none =>
    have absent : srv.roster.session? id = none := hs
    simp [Roster.close, absent]
  | some s =>
    dsimp only
    split
    · exact roster_reportClosed _ _ _ _
    · rfl

end Server

end SessionNet
