import SessionNet.Proofs.Session.Standing

/-!
# What comes in on a session

Of everything that a session keeps, this is what reading from it depends on and changes: whether it
is open, the datagram path and the tunnel that messages come through, and the counters of what was
read. Most of what is done with a session leaves all of this alone.
-/

namespace SessionNet

/-- A tunnel, as far as messages come in through it. -/
structure Inlet where
  id : UInt32
  /-- The messages that can be received. -/
  arrived : List Bytes
  /-- The messages that the far end has sent and not flushed. -/
  held : List Bytes
  closed : Bool
  deriving DecidableEq, Repr

def TunnelChannel.inlet (channel : TunnelChannel) : Inlet :=
  ⟨channel.id, channel.tunnel.near.inbox, channel.tunnel.far.outbox, channel.tunnel.closed⟩

/-- The part of a session that reading from it is about. -/
structure Intake where
  isActive : Bool
  closeReason? : Option CloseReason
  isManaged : Bool
  path? : Option DatagramChannel
  inlet? : Option Inlet
  bytesRead : Nat
  messagesRead : Nat
  requestsDropped : Nat
  deriving DecidableEq, Repr

namespace Session

def intake (s : Session) : Intake where
  isActive := s.isActive
  closeReason? := s.closeReason?
  isManaged := s.isManaged
  path? := s.datagram?
  inlet? := s.tunnel?.map (·.inlet)
  bytesRead := s.counters.bytesRead
  messagesRead := s.counters.messagesRead
  requestsDropped := s.counters.requestsDropped

theorem intake_transition (s : Session) (source target : AssociationState) :
    (s.transition source target).2.intake = s.intake := by
  unfold transition
  split <;> rfl

theorem intake_enqueue (s : Session) (packet : Packet) :
    (s.enqueue packet).1.intake = s.intake := by
  unfold enqueue
  split
  · rfl
  · split <;> rfl

/-- Closing a session closes its tunnel; what has arrived there is still there. -/
theorem intake_tearDown (s : Session) (reason : CloseReason) :
    (s.tearDown reason).intake =
      { s.intake with
        isActive := false
        closeReason? := s.closeReason? <|> some reason
        inlet? := s.intake.inlet?.map fun inlet => { inlet with closed := true } } := by
  unfold intake tearDown
  cases s.tunnel? <;> rfl

theorem intake_leaveInTunnel (s : Session) (inbox : List Bytes) :
    (s.leaveInTunnel inbox).intake =
      { s.intake with
        inlet? := s.intake.inlet?.map fun inlet => { inlet with arrived := inbox } } := by
  unfold intake leaveInTunnel
  cases s.tunnel? <;> rfl

end Session

namespace Intake

/-- Whoever is open was open before, and whoever was closed is closed for the same reason. -/
structure Lasts (a b : Intake) : Prop where
  active : b.isActive = true → a.isActive = true
  reason : b.isActive = a.isActive → b.closeReason? = a.closeReason?

namespace Lasts

variable {a b c : Intake}

theorem refl (a : Intake) : a.Lasts a := ⟨id, fun _ => rfl⟩

theorem trans (first : a.Lasts b) (second : b.Lasts c) : a.Lasts c := by
  refine ⟨first.active ∘ second.active, fun same => ?_⟩
  -- whoever is open in the end was so all the time, and whoever was closed stayed so
  have between : b.isActive = a.isActive := by
    cases closed : a.isActive with
    | true => exact second.active (same.trans closed)
    | false => exact Bool.eq_false_iff.mpr fun reopened =>
        Bool.eq_false_iff.mp closed (first.active reopened)
  exact (second.reason (same.trans between.symm)).trans (first.reason between)

end Lasts

/-- Nothing was read from a session, and as long as it is open, what could be read can be read. -/
structure Rests (a b : Intake) : Prop where
  lasts : a.Lasts b
  bytesRead : b.bytesRead = a.bytesRead
  messagesRead : b.messagesRead = a.messagesRead
  requestsDropped : b.requestsDropped = a.requestsDropped
  inlet : b.isActive = true → ∀ inlet, a.inlet? = some inlet → b.inlet? = some inlet

namespace Rests

variable {a b c : Intake}

theorem refl (a : Intake) : a.Rests a := ⟨.refl a, rfl, rfl, rfl, fun _ _ found => found⟩

theorem trans (first : a.Rests b) (second : b.Rests c) : a.Rests c where
  lasts := first.lasts.trans second.lasts
  bytesRead := second.bytesRead.trans first.bytesRead
  messagesRead := second.messagesRead.trans first.messagesRead
  requestsDropped := second.requestsDropped.trans first.requestsDropped
  inlet active inlet found :=
    second.inlet active inlet (first.inlet (second.lasts.active active) inlet found)

end Rests

end Intake

theorem Session.rests_tearDown {s : Session} (active : s.isActive = true) (reason : CloseReason) :
    s.intake.Rests (s.tearDown reason).intake := by
  have open_ : s.intake.isActive = true := active
  rw [intake_tearDown]
  refine ⟨⟨nofun, fun same => ?_⟩, rfl, rfl, rfl, nofun⟩
  cases same.trans open_

/-! ## Rosters -/

namespace Roster

def intake? (r : Roster) (id : SessionId) : Option Intake := (r.session? id).map Session.intake

/-- The datagram path of a session. -/
def path? (r : Roster) (id : SessionId) : Option DatagramChannel :=
  (r.session? id).bind (·.datagram?)

variable {r r' r'' : Roster} {id other : SessionId} {f : Session → Session} {a b : Intake}

theorem path?_eq (r : Roster) (id : SessionId) : r.path? id = (r.intake? id).bind (·.path?) := by
  unfold path? intake?
  cases r.session? id <;> rfl

theorem isActive_eq_intake (r : Roster) (id : SessionId) :
    r.isActive id = (r.intake? id).any (·.isActive) := by
  unfold isActive intake?
  cases r.session? id <;> rfl

theorem isActive_of_intake (shown : r.intake? id = some a) : r.isActive id = a.isActive := by
  rw [isActive_eq_intake, shown]
  rfl

theorem intake?_eq_none_iff : r.intake? id = none ↔ r.session? id = none := Option.map_eq_none_iff

theorem intake?_update_self :
    (r.update id f).intake? id = (r.session? id).map fun s => (f s).intake := by
  rw [intake?, session?_update_self, Option.map_map]
  rfl

theorem intake?_update_of_shown (shown : r.intake? id = some a)
    (becomes : ∀ s, s.intake = a → (f s).intake = b) : (r.update id f).intake? id = some b := by
  obtain ⟨s, present, shows⟩ := Option.map_eq_some_iff.mp shown
  rw [intake?_update_self, present, Option.map_some, becomes s shows]

theorem intake?_update_of_ne (differs : other ≠ id) :
    (r.update id f).intake? other = r.intake? other := by
  rw [intake?, session?_update_of_ne differs, intake?]

theorem intake?_close_of_ne {reason : CloseReason} (differs : other ≠ id) :
    (r.close id reason).2.intake? other = r.intake? other := by
  rw [intake?, session?_close_of_ne differs, intake?]

/-- Closing an open session gives it a reason, if it has none. -/
theorem intake?_close_of_active {reason : CloseReason} (shown : r.intake? id = some a)
    (active : a.isActive = true) :
    ∃ b, (r.close id reason).2.intake? id = some b ∧ b.isActive = false ∧
      b.closeReason? = (a.closeReason? <|> some reason) := by
  obtain ⟨s, present, rfl⟩ := Option.map_eq_some_iff.mp shown
  have open_ : s.isActive = true := active
  refine ⟨(s.tearDown reason).intake, ?_, rfl, rfl⟩
  rw [intake?, session?_close_self, present]
  simp only [Option.map_some, open_, if_true]

/-- What comes in on all sessions, and the entries that lead to their channels, are as they were. -/
structure SameIntake (r r' : Roster) : Prop where
  intake : ∀ id, r'.intake? id = r.intake? id
  conveyance : r'.byConveyance = r.byConveyance
  tunnel : r'.byTunnel = r.byTunnel

namespace SameIntake

theorem refl (r : Roster) : SameIntake r r := ⟨fun _ => rfl, rfl, rfl⟩

theorem trans (first : SameIntake r r') (second : SameIntake r' r'') : SameIntake r r'' where
  intake id := (second.intake id).trans (first.intake id)
  conveyance := second.conveyance.trans first.conveyance
  tunnel := second.tunnel.trans first.tunnel

end SameIntake

/-- A change to one session that has nothing to do with what comes in on it. -/
theorem sameIntake_update (keeps : ∀ s, (f s).intake = s.intake) :
    SameIntake r (r.update id f) := by
  refine ⟨fun other => ?_, rfl, rfl⟩
  by_cases same : other = id
  · subst same
    simp only [intake?_update_self, keeps]
    rfl
  · exact intake?_update_of_ne same

theorem sameIntake_transition (r : Roster) (id : SessionId) (source target : AssociationState) :
    SameIntake r (r.transition id source target).2 := by
  rw [transition_eq_update]
  exact sameIntake_update fun s => s.intake_transition source target

theorem sameIntake_bind (r : Roster) (identity : String) (id : SessionId) :
    SameIntake r (r.bind identity id) := by
  have entered : SameIntake r { r with byIdentity := setEntry r.byIdentity identity id } :=
    ⟨fun _ => rfl, rfl, rfl⟩
  rw [bind_eq]
  exact entered.trans ((sameIntake_update (f := fun s => { s with identity? := some identity })
    fun _ => rfl).trans (sameIntake_update fun s => s.intake_transition .doing .done))

theorem sameIntake_associate (r : Roster) (identity : String) (id : SessionId) :
    SameIntake r (r.associate identity id).2 :=
  associate_preserves (P := SameIntake r) (.refl r)
    (fun r' before => before.trans (sameIntake_bind r' identity id))
    (fun r' before => before.trans (sameIntake_transition r' id .doing .none))
    fun _ _ before => before.trans ⟨fun _ => rfl, rfl, rfl⟩

end Roster

end SessionNet
