import SessionNet.Proofs.Session.Departure

/-!
# Where the entries of channels lead

A roster finds a session by the id of its datagram path and by the id of its tunnel. Such an entry
leads to a session that is active and has this very channel, whatever the roster has been through: a
channel is entered when its session gets it, and both are kept until the session is closed. So
nothing leads to a closed session.
-/

namespace SessionNet

/-- The part of a session that its entries under channel ids depend on. -/
structure Wiring where
  isActive : Bool
  closeReason? : Option CloseReason
  isManaged : Bool
  conveyance? : Option UInt32
  tunnel? : Option UInt32
  deriving DecidableEq, Repr

def Session.wiring (s : Session) : Wiring :=
  ⟨s.isActive, s.closeReason?, s.isManaged, s.datagram?.map (·.conveyance), s.tunnel?.map (·.id)⟩

namespace Roster

def wiring? (r : Roster) (id : SessionId) : Option Wiring := (r.session? id).map Session.wiring

/-- A session is in order, and whatever entry leads to it is that of a channel it has. -/
structure Wired (r : Roster) (id : SessionId) : Prop where
  managed : ∀ w, r.wiring? id = some w → w.isManaged = true
  /-- Who is active was never closed. -/
  unclosed : ∀ w, r.wiring? id = some w → w.isActive = true → w.closeReason? = none
  conveyance : ∀ key, (key, id) ∈ r.byConveyance →
    ∃ w, r.wiring? id = some w ∧ w.isActive = true ∧ w.conveyance? = some key
  tunnel : ∀ key, (key, id) ∈ r.byTunnel →
    ∃ w, r.wiring? id = some w ∧ w.isActive = true ∧ w.tunnel? = some key

/-- No entry of any index leads to a session. -/
structure Forgets (r : Roster) (id : SessionId) : Prop where
  number : id ∉ r.registered
  conveyance : ∀ key, (key, id) ∉ r.byConveyance
  tunnel : ∀ key, (key, id) ∉ r.byTunnel
  identity : ∀ identity, (identity, id) ∉ r.byIdentity

variable {r r' : Roster} {id other : SessionId} {f : Session → Session} {w : Wiring}

theorem Wired.conveyance_eq (wired : r.Wired id) (shown : r.wiring? id = some w) {key : UInt32}
    (member : (key, id) ∈ r.byConveyance) : w.conveyance? = some key := by
  obtain ⟨w', shown', -, own⟩ := wired.conveyance key member
  rwa [Option.some.inj (shown.symm.trans shown')]

theorem Wired.tunnel_eq (wired : r.Wired id) (shown : r.wiring? id = some w) {key : UInt32}
    (member : (key, id) ∈ r.byTunnel) : w.tunnel? = some key := by
  obtain ⟨w', shown', -, own⟩ := wired.tunnel key member
  rwa [Option.some.inj (shown.symm.trans shown')]

theorem Wired.of_active (shown : r.wiring? id = some w) (active : w.isActive = true)
    (managed : w.isManaged = true) (unclosed : w.closeReason? = none)
    (conveyance : ∀ key, (key, id) ∈ r.byConveyance → w.conveyance? = some key)
    (tunnel : ∀ key, (key, id) ∈ r.byTunnel → w.tunnel? = some key) : r.Wired id := by
  refine ⟨?_, ?_, fun key member => ⟨w, shown, active, conveyance key member⟩,
    fun key member => ⟨w, shown, active, tunnel key member⟩⟩
  · rw [shown]
    rintro _ ⟨⟩
    exact managed
  · rw [shown]
    rintro _ ⟨⟩ -
    exact unclosed

/-! ## Changes that leave the wiring alone -/

theorem wiring?_update_of_ne (differs : other ≠ id) :
    (r.update id f).wiring? other = r.wiring? other := by
  rw [wiring?, session?_update_of_ne differs, wiring?]

theorem wiring?_update_self : (r.update id f).wiring? id = (r.session? id).map fun s =>
    (f s).wiring := by
  rw [wiring?, session?_update_self, Option.map_map]
  rfl

theorem wiring?_update_keeping (keeps : ∀ s, (f s).wiring = s.wiring) (other : SessionId) :
    (r.update id f).wiring? other = r.wiring? other := by
  by_cases same : other = id
  · subst same
    simp only [wiring?_update_self, keeps]
    rfl
  · exact wiring?_update_of_ne same

/-- A session whose wiring stays, and who gets no entry. -/
theorem Wired.congr (wired : r.Wired id) (wiring : r'.wiring? id = r.wiring? id)
    (conveyance : ∀ key, (key, id) ∈ r'.byConveyance → (key, id) ∈ r.byConveyance)
    (tunnel : ∀ key, (key, id) ∈ r'.byTunnel → (key, id) ∈ r.byTunnel) : r'.Wired id where
  managed := wiring ▸ wired.managed
  unclosed := wiring ▸ wired.unclosed
  conveyance key member := wiring ▸ wired.conveyance key (conveyance key member)
  tunnel key member := wiring ▸ wired.tunnel key (tunnel key member)

/-- The channels of all sessions and the entries that lead to them are as they were. -/
structure SameWiring (r r' : Roster) : Prop where
  wiring : ∀ id, r'.wiring? id = r.wiring? id
  conveyance : r'.byConveyance = r.byConveyance
  tunnel : r'.byTunnel = r.byTunnel

namespace SameWiring

theorem refl (r : Roster) : SameWiring r r := ⟨fun _ => rfl, rfl, rfl⟩

theorem trans {r r' r'' : Roster} (first : SameWiring r r') (second : SameWiring r' r'') :
    SameWiring r r'' where
  wiring id := (second.wiring id).trans (first.wiring id)
  conveyance := second.conveyance.trans first.conveyance
  tunnel := second.tunnel.trans first.tunnel

theorem wired (same : SameWiring r r') (wired : r.Wired id) : r'.Wired id :=
  wired.congr (same.wiring id) (fun _ member => same.conveyance ▸ member)
    fun _ member => same.tunnel ▸ member

end SameWiring

/-- A change to one session that keeps its wiring. -/
theorem sameWiring_update (keeps : ∀ s, (f s).wiring = s.wiring) : SameWiring r (r.update id f) :=
  ⟨wiring?_update_keeping keeps, rfl, rfl⟩

theorem wiring_transition (s : Session) (source target : AssociationState) :
    (s.transition source target).2.wiring = s.wiring := by
  unfold Session.transition
  split <;> rfl

theorem sameWiring_transition (r : Roster) (id : SessionId) (source target : AssociationState) :
    SameWiring r (r.transition id source target).2 := by
  rw [transition_eq_update]
  exact sameWiring_update fun s => wiring_transition s source target

theorem sameWiring_bind (r : Roster) (identity : String) (id : SessionId) :
    SameWiring r (r.bind identity id) := by
  have entered : SameWiring r { r with byIdentity := setEntry r.byIdentity identity id } :=
    ⟨fun _ => rfl, rfl, rfl⟩
  rw [bind_eq]
  exact entered.trans ((sameWiring_update (f := fun s => { s with identity? := some identity })
    fun _ => rfl).trans (sameWiring_update fun s => wiring_transition s .doing .done))

theorem sameWiring_associate (r : Roster) (identity : String) (id : SessionId) :
    SameWiring r (r.associate identity id).2 :=
  associate_preserves (P := SameWiring r) (.refl r)
    (fun r' before => before.trans (sameWiring_bind r' identity id))
    (fun r' before => before.trans (sameWiring_transition r' id .doing .none))
    fun _ _ before => before.trans ⟨fun _ => rfl, rfl, rfl⟩

theorem sameWiring_rebind (r : Roster) (identity : String) (id : SessionId) :
    SameWiring r (r.rebind identity id).2 := by
  cases found : r.findIdentity? identity with
  | none =>
    rw [rebind_of_none found]
    have counted : SameWiring r { r with boundIdentities := r.boundIdentities + 1 } :=
      ⟨fun _ => rfl, rfl, rfl⟩
    exact counted.trans (sameWiring_bind _ identity id)
  | some holder =>
    by_cases own : holder = id
    · subst own
      rw [rebind_of_self found]
      exact sameWiring_bind r identity holder
    · rw [rebind_of_other found own]
      exact (sameWiring_bind r identity id).trans (sameWiring_update fun _ => rfl)

/-! ## Closing -/

theorem mem_of_mem_removeEntry {κ : Type} [BEq κ] {index : List (κ × SessionId)} {key? : Option κ}
    {entry : κ × SessionId} (member : entry ∈ key?.elim index (removeEntry index · id)) :
    entry ∈ index := by
  cases key? with
  | none => exact member
  | some key => exact (List.mem_filter.1 member).1

/-- The closed session loses its entries: each of them was that of a channel it had. -/
theorem Wired.close_self (wired : r.Wired id) (reason : CloseReason) :
    (r.close id reason).2.Wired id := by
  cases hactive : r.isActive id with
  | false => rwa [close_of_not_active hactive]
  | true =>
    obtain ⟨s, hs, active⟩ := isActive_eq_true_iff.1 hactive
    have shown : r.wiring? id = some s.wiring := congrArg (Option.map _) hs
    have managed : s.isManaged = true := wired.managed _ shown
    obtain ⟨-, conveyances, tunnels⟩ := close_transports reason hs active managed
    have closed : (r.close id reason).2.wiring? id = some (s.tearDown reason).wiring := by
      rw [wiring?, session?_close_self, hs]
      simp [active]
    refine ⟨?_, ?_, ?_, ?_⟩
    · rw [closed]
      rintro _ ⟨⟩
      exact managed
    · rw [closed]
      rintro _ ⟨⟩ ⟨⟩
    · intro key member
      -- an entry that is left would be that of the channel whose entry has been removed
      rw [conveyances] at member
      have own := wired.conveyance_eq shown (mem_of_mem_removeEntry member)
      rw [show s.datagram?.map (·.conveyance) = some key from own] at member
      simp [removeEntry] at member
    · intro key member
      rw [tunnels] at member
      have own := wired.tunnel_eq shown (mem_of_mem_removeEntry member)
      rw [show s.tunnel?.map (·.id) = some key from own] at member
      simp [removeEntry] at member

theorem Wired.close (wired : ∀ id, r.Wired id) (id : SessionId) (reason : CloseReason)
    (other : SessionId) : (r.close id reason).2.Wired other := by
  cases hactive : r.isActive id with
  | false =>
    rw [close_of_not_active hactive]
    exact wired other
  | true =>
    by_cases same : other = id
    · subst same
      exact (wired other).close_self reason
    · -- the others keep all that leads to them, and get nothing
      obtain ⟨s, hs, active⟩ := isActive_eq_true_iff.1 hactive
      have managed : s.isManaged = true := (wired id).managed _ (congrArg (Option.map _) hs)
      obtain ⟨-, conveyances, tunnels⟩ := close_transports reason hs active managed
      refine (wired other).congr ?_ ?_ ?_
      · rw [wiring?, session?_close_of_ne same, wiring?]
      · intro key member
        rw [conveyances] at member
        exact mem_of_mem_removeEntry member
      · intro key member
        rw [tunnels] at member
        exact mem_of_mem_removeEntry member

/-! ## New sessions and channels -/

/-- No entry leads to a session that is not there. -/
theorem Wired.register (wired : ∀ id, r.Wired id) {s : Session} (fresh : s.closeReason? = none)
    (managed : s.isManaged = true) (other : SessionId) : (r.register s).2.Wired other := by
  by_cases new : other = r.sessions.length
  · subst new
    have absent : r.wiring? r.sessions.length = none := by simp [wiring?, session?]
    have active : s.activate = { s with isActive := true } := by simp [Session.activate, fresh]
    have made : (r.register s).2.wiring? r.sessions.length = some s.activate.wiring := by
      rw [wiring?, session?_register_self]
      rfl
    rw [active] at made
    refine .of_active made rfl managed fresh ?_ ?_
    · intro key member
      obtain ⟨w, hw, -⟩ := (wired r.sessions.length).conveyance key member
      exact absurd (hw.symm.trans absent) (Option.some_ne_none w)
    · intro key member
      obtain ⟨w, hw, -⟩ := (wired r.sessions.length).tunnel key member
      exact absurd (hw.symm.trans absent) (Option.some_ne_none w)
  · refine (wired other).congr ?_ (fun _ member => member) fun _ member => member
    rw [wiring?, session?_register_of_ne new, wiring?]

/-- An entry of another session than the one that an index was set to. -/
theorem mem_of_mem_setEntry_of_ne {κ : Type} [BEq κ] {index : List (κ × SessionId)} {key name : κ}
    (differs : other ≠ id) (member : (name, other) ∈ setEntry index key id) :
    (name, other) ∈ index := by
  rcases List.mem_cons.1 member with new | old
  · exact absurd (congrArg Prod.snd new) differs
  · exact (List.mem_filter.1 old).1

/-- A session has no entry of a kind of which it has no channel, so the new one is its only one. -/
theorem eq_of_mem_setEntry {κ : Type} [BEq κ] {index : List (κ × SessionId)} {key name : κ}
    (none : ∀ key, (key, id) ∉ index) (member : (name, id) ∈ setEntry index key id) :
    some key = some name := by
  rcases List.mem_cons.1 member with new | old
  · exact congrArg some (congrArg Prod.fst new).symm
  · exact absurd (List.mem_filter.1 old).1 (none name)

theorem Wired.addDatagram (wired : ∀ id, r.Wired id) {channel : DatagramChannel}
    (added : r.addDatagram id channel = .ok r') (other : SessionId) : r'.Wired other := by
  obtain ⟨s, hs, active, free, rfl⟩ := addDatagram_eq_ok added
  by_cases same : other = id
  · subst same
    have shown : r.wiring? other = some s.wiring := congrArg (Option.map _) hs
    have managed : s.isManaged = true := (wired other).managed _ shown
    have unclosed : s.closeReason? = none := (wired other).unclosed _ shown active
    have unlisted : ∀ key, (key, other) ∉ r.byConveyance := by
      intro key member
      have own := (wired other).conveyance_eq shown member
      simp [Session.wiring, free] at own
    have after : (r.update other fun s => { s with datagram? := some channel }).wiring? other =
        some ({ s with datagram? := some channel } : Session).wiring := by
      rw [wiring?_update_self, hs]
      rfl
    exact .of_active after active managed unclosed
      (fun _ member => eq_of_mem_setEntry unlisted member)
      fun _ member => (wired other).tunnel_eq shown member
  · exact (wired other).congr (wiring?_update_of_ne same)
      (fun _ member => mem_of_mem_setEntry_of_ne same member) fun _ member => member

theorem Wired.addTunnel (wired : ∀ id, r.Wired id) {channel : TunnelChannel}
    (added : r.addTunnel id channel = .ok r') (other : SessionId) : r'.Wired other := by
  obtain ⟨s, hs, active, free, rfl⟩ := addTunnel_eq_ok added
  by_cases same : other = id
  · subst same
    have shown : r.wiring? other = some s.wiring := congrArg (Option.map _) hs
    have managed : s.isManaged = true := (wired other).managed _ shown
    have unclosed : s.closeReason? = none := (wired other).unclosed _ shown active
    have unlisted : ∀ key, (key, other) ∉ r.byTunnel := by
      intro key member
      have own := (wired other).tunnel_eq shown member
      simp [Session.wiring, free] at own
    have after : (r.update other fun s => { s with tunnel? := some channel }).wiring? other =
        some ({ s with tunnel? := some channel } : Session).wiring := by
      rw [wiring?_update_self, hs]
      rfl
    exact .of_active after active managed unclosed
      (fun _ member => (wired other).conveyance_eq shown member)
      fun _ member => eq_of_mem_setEntry unlisted member
  · exact (wired other).congr (wiring?_update_of_ne same) (fun _ member => member)
      fun _ member => mem_of_mem_setEntry_of_ne same member

end Roster

end SessionNet
