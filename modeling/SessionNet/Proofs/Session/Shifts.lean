import SessionNet.Proofs.Session.Conveyance
import SessionNet.Proofs.Session.Intake

/-!
# Who is read from, and who gets a datagram path

Whatever happens to the sessions of a roster while only some of them are read from and only some
clients are heard, it consists of a few changes (`Shift`). A session that is not among those read has
read nothing (`Shifts.rests`), and nobody gets a datagram path that leads to a client who is not
heard, or another one than the first (`Shifts.path`). All of these changes are among those that keep
entries and channels fitting together (`Shift.rewiring`).
-/

namespace SessionNet

def Intake.wiring (a : Intake) : Wiring :=
  ⟨a.isActive, a.closeReason?, a.isManaged, a.path?.map (·.conveyance), a.inlet?.map (·.id)⟩

/-- What comes in on a session tells how it is wired. -/
theorem Session.wiring_intake (s : Session) : s.intake.wiring = s.wiring := by
  simp [Intake.wiring, intake, wiring, Option.map_map, Function.comp_def, TunnelChannel.inlet]

namespace Roster

variable {heard : DatagramPeer → Prop} {read : SessionId → Prop}
variable {r r' r'' : Roster} {id other : SessionId} {a : Intake}

/-- A change to the sessions while only some clients are heard and only some sessions read. -/
inductive Shift (heard : DatagramPeer → Prop) (read : SessionId → Prop) : Roster → Roster → Prop
  | aside {r r' : Roster} (same : SameIntake r r') : Shift heard read r r'
  | register (r : Roster) {s : Session} (unclosed : s.closeReason? = none)
      (managed : s.isManaged = true) (pathless : s.datagram? = none) (tunnelless : s.tunnel? = none) :
      Shift heard read r (r.register s).2
  | close (r : Roster) (id : SessionId) (reason : CloseReason) :
      Shift heard read r (r.close id reason).2
  | grant {r r' r'' : Roster} {id : SessionId} {peer : DatagramPeer} {key : UInt32}
      (allowed : heard peer) (next : r.nextConveyance? = some (key, r'))
      (added : r'.addDatagram id ⟨peer, key⟩ = .ok r'') : Shift heard read r r''
  | tunnel {r r' : Roster} {id : SessionId} {channel : TunnelChannel}
      (added : r.addTunnel id channel = .ok r') : Shift heard read r r'
  | read (r : Roster) {id : SessionId} {f : Session → Session} (allowed : read id)
      (wiring : ∀ s, (f s).wiring = s.wiring) (path : ∀ s, (f s).datagram? = s.datagram?) :
      Shift heard read r (r.update id f)

/-- A sequence of changes. -/
abbrev Shifts (heard : DatagramPeer → Prop) (read : SessionId → Prop) : Roster → Roster → Prop :=
  Relation.ReflTransGen (Shift heard read)

/-! ## Wiring -/

theorem wiring?_eq (r : Roster) (id : SessionId) : r.wiring? id = (r.intake? id).map Intake.wiring := by
  unfold wiring? intake?
  rw [Option.map_map]
  exact congrArg (Option.map · (r.session? id)) (funext fun s => s.wiring_intake.symm)

theorem SameIntake.sameWiring (same : SameIntake r r') : SameWiring r r' where
  wiring id := by rw [wiring?_eq, wiring?_eq, same.intake]
  conveyance := same.conveyance
  tunnel := same.tunnel

theorem Shift.rewiring (shift : Shift heard read r r') : Rewiring r r' := by
  cases shift with
  | aside same => exact .aside same.sameWiring
  | register unclosed managed pathless tunnelless =>
    exact .register r unclosed managed pathless tunnelless
  | close id reason => exact .close r id reason
  | grant _ next added => exact .grant next added
  | tunnel added => exact .tunnel added
  | read _ wiring _ => exact .aside (sameWiring_update wiring)

theorem Shifts.rewirings (shifts : Shifts heard read r r') : Rewirings r r' :=
  Relation.ReflTransGen.mono (fun _ _ shift => shift.rewiring) _ _ shifts

/-! ## Datagram paths -/

/-- A session has the path that it had, or had none and was given one to a client who is heard. -/
def Repathed (heard : DatagramPeer → Prop) (r r' : Roster) (id : SessionId) : Prop :=
  r'.path? id = r.path? id ∨
    r.path? id = none ∧ ∃ peer key, heard peer ∧ r'.path? id = some ⟨peer, key⟩

theorem Repathed.trans (first : Repathed heard r r' id) (second : Repathed heard r' r'' id) :
    Repathed heard r r'' id := by
  rcases first with same | ⟨none, peer, key, allowed, given⟩
  · unfold Repathed
    rw [← same]
    exact second
  · refine .inr ⟨none, peer, key, allowed, ?_⟩
    -- a path that was given stays
    rcases second with same | ⟨pathless, -⟩
    · rw [same, given]
    · rw [given] at pathless
      cases pathless

theorem path?_update_keeping {f : Session → Session} (keeps : ∀ s, (f s).datagram? = s.datagram?)
    (other : SessionId) : (r.update id f).path? other = r.path? other := by
  unfold path?
  by_cases same : other = id
  · subst same
    rw [session?_update_self]
    cases r.session? other with
    | none => rfl
    | some s => exact keeps s
  · rw [session?_update_of_ne same]

theorem path?_close (reason : CloseReason) (other : SessionId) :
    (r.close id reason).2.path? other = r.path? other := by
  unfold path?
  by_cases same : other = id
  · subst same
    rw [session?_close_self]
    cases r.session? other with
    | none => rfl
    | some s =>
      simp only [Option.map_some, Option.bind_some]
      split <;> rfl
  · rw [session?_close_of_ne same]

theorem Shift.path (shift : Shift heard read r r') (id : SessionId) : Repathed heard r r' id := by
  cases shift with
  | aside same => exact .inl (by rw [path?_eq, path?_eq, same.intake])
  | register unclosed managed pathless tunnelless =>
    rename_i s
    refine .inl ?_
    unfold path?
    by_cases new : id = r.sessions.length
    · -- the new session has no path, as nobody had under its number before
      subst new
      have activated : s.activate.datagram? = none := by
        unfold Session.activate
        split <;> exact pathless
      have absent : r.session? r.sessions.length = none := List.getElem?_eq_none (Nat.le_refl _)
      rw [session?_register_self, absent]
      exact activated
    · rw [session?_register_of_ne new]
  | close closed reason => exact .inl (path?_close reason id)
  | @grant _ _ given peer key allowed next added =>
    obtain ⟨-, -, rfl⟩ := nextConveyance_eq_some next
    obtain ⟨s, present, -, free, rfl⟩ := addDatagram_eq_ok added
    have present : r.session? given = some s := present
    by_cases same : id = given
    · subst same
      refine .inr ⟨?_, peer, key, allowed, ?_⟩
      · rw [path?, present]
        exact free
      · have updated : (r.update id fun s => { s with datagram? := some ⟨peer, key⟩ }).path? id =
            some ⟨peer, key⟩ := by
          rw [path?, session?_update_self, present]
          rfl
        exact updated
    · have kept : (r.update given fun s => { s with datagram? := some ⟨peer, key⟩ }).path? id =
          r.path? id := by
        rw [path?, session?_update_of_ne same, path?]
      exact .inl kept
  | @tunnel _ given channel added =>
    obtain ⟨s, -, -, -, rfl⟩ := addTunnel_eq_ok added
    have keeps : ∀ s : Session, ({ s with tunnel? := some channel } : Session).datagram? =
        s.datagram? := fun _ => rfl
    exact .inl (path?_update_keeping keeps id)
  | read _ _ path => exact .inl (path?_update_keeping path id)

/-- Nobody but those who are heard gets a datagram path, and nobody's path changes. -/
theorem Shifts.path (shifts : Shifts heard read r r') (id : SessionId) : Repathed heard r r' id := by
  induction shifts with
  | refl => exact .inl rfl
  | tail _ last ih => exact ih.trans (last.path id)

/-! ## What has been read -/

theorem intake?_register_of_present {s : Session} (shown : r.intake? id = some a) :
    (r.register s).2.intake? id = some a := by
  have present : r.session? id ≠ none := by
    rw [Ne, ← intake?_eq_none_iff, shown]
    exact Option.some_ne_none a
  have old : id ≠ r.sessions.length := by
    rintro rfl
    exact present (List.getElem?_eq_none (Nat.le_refl _))
  rw [intake?, session?_register_of_ne old]
  exact shown

/-- A change to one session after which it still has read the same. -/
theorem rests_update {f : Session → Session} (rests : ∀ s, r.session? id = some s →
    s.intake.Rests (f s).intake) (shown : r.intake? other = some a) :
    ∃ b, (r.update id f).intake? other = some b ∧ a.Rests b := by
  by_cases same : other = id
  · subst same
    obtain ⟨s, present, rfl⟩ := Option.map_eq_some_iff.mp shown
    refine ⟨_, ?_, rests s present⟩
    rw [intake?_update_self, present]
    rfl
  · exact ⟨a, (intake?_update_of_ne same).trans shown, .refl a⟩

theorem rests_close (reason : CloseReason) (shown : r.intake? other = some a) :
    ∃ b, (r.close id reason).2.intake? other = some b ∧ a.Rests b := by
  by_cases same : other = id
  · subst same
    obtain ⟨s, present, rfl⟩ := Option.map_eq_some_iff.mp shown
    refine ⟨_, congrArg (Option.map _) (session?_close_self.trans (congrArg (Option.map _) present)),
      ?_⟩
    dsimp only
    split
    · rename_i active
      exact s.rests_tearDown active reason
    · exact .refl _
  · exact ⟨a, (intake?_close_of_ne same).trans shown, .refl a⟩

theorem Shift.rests (shift : Shift heard read r r') (shown : r.intake? id = some a) :
    ∃ b, r'.intake? id = some b ∧ a.Lasts b ∧ (¬ read id → a.Rests b) := by
  have unread : (∃ b, r'.intake? id = some b ∧ a.Rests b) →
      ∃ b, r'.intake? id = some b ∧ a.Lasts b ∧ (¬ read id → a.Rests b) :=
    fun ⟨b, shown, rests⟩ => ⟨b, shown, rests.lasts, fun _ => rests⟩
  cases shift with
  | aside same => exact unread ⟨a, (same.intake id).trans shown, .refl a⟩
  | register => exact unread ⟨a, intake?_register_of_present shown, .refl a⟩
  | close closed reason => exact unread (rests_close reason shown)
  | @grant _ _ given peer key _ next added =>
    obtain ⟨-, -, rfl⟩ := nextConveyance_eq_some next
    obtain ⟨s, -, -, -, rfl⟩ := addDatagram_eq_ok added
    have pathed : ∀ t : Session,
        t.intake.Rests ({ t with datagram? := some ⟨peer, key⟩ } : Session).intake :=
      fun _ => ⟨⟨fun active => active, fun _ => rfl⟩, rfl, rfl, rfl, fun _ _ found => found⟩
    exact unread (rests_update (fun t _ => pathed t) shown)
  | @tunnel _ given channel added =>
    obtain ⟨s, present, -, free, rfl⟩ := addTunnel_eq_ok added
    refine unread (rests_update (r := r) (f := fun s => { s with tunnel? := some channel })
      (fun t ht => ⟨⟨fun active => active, fun _ => rfl⟩, rfl, rfl, rfl, ?_⟩) shown)
    -- who gets a tunnel had none
    intro _ inlet found
    obtain rfl := Option.some.inj (present.symm.trans ht)
    rw [Session.intake, free] at found
    cases found
  | @read other f allowed wiring _ =>
    by_cases same : id = other
    · subst same
      obtain ⟨s, present, rfl⟩ := Option.map_eq_some_iff.mp shown
      have kept : (f s).intake.wiring = s.intake.wiring := by
        rw [Session.wiring_intake, Session.wiring_intake, wiring]
      have active : (f s).intake.isActive = s.intake.isActive := congrArg Wiring.isActive kept
      have reason : (f s).intake.closeReason? = s.intake.closeReason? :=
        congrArg Wiring.closeReason? kept
      refine ⟨(f s).intake, ?_, ⟨active.symm.trans, fun _ => reason⟩,
        fun unread => absurd allowed unread⟩
      rw [intake?_update_self, present]
      rfl
    · exact unread ⟨a, (intake?_update_of_ne same).trans shown, .refl a⟩

/-- No session is lost or opened again, and one that is not among those read has read nothing. -/
theorem Shifts.rests (shifts : Shifts heard read r r') (shown : r.intake? id = some a) :
    ∃ b, r'.intake? id = some b ∧ a.Lasts b ∧ (¬ read id → a.Rests b) := by
  induction shifts with
  | refl => exact ⟨a, shown, .refl a, fun _ => .refl a⟩
  | tail _ last ih =>
    obtain ⟨b, before, lasts, rests⟩ := ih
    obtain ⟨c, after, lasts', rests'⟩ := last.rests before
    exact ⟨c, after, lasts.trans lasts', fun unread => (rests unread).trans (rests' unread)⟩

theorem Shifts.present (shifts : Shifts heard read r r') (present : r.session? id ≠ none) :
    r'.session? id ≠ none := by
  rw [Ne, ← intake?_eq_none_iff] at present ⊢
  obtain ⟨a, shown⟩ := Option.ne_none_iff_exists'.mp present
  obtain ⟨b, after, -⟩ := shifts.rests shown
  rw [after]
  exact Option.some_ne_none b

end Roster

end SessionNet
