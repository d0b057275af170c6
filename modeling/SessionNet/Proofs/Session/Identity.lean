import SessionNet.Proofs.Session.Roster

/-!
# One live holder for each identity

The index of identities and the identity that each session bears are changed by different
operations. In every run an active session that bears an identity is the one that the index finds
for it, so no two active sessions bear the same one. The index may also point to a session that is
closed; it is then free to be bound again.
-/

namespace SessionNet

namespace Roster

/-- An active session bears an identity. -/
def Holds (r : Roster) (id : SessionId) (identity : String) : Prop :=
  ∃ s, r.session? id = some s ∧ s.isActive = true ∧ s.identity? = some identity

/-- Every active session that bears an identity is the one the index finds for it. -/
def Indexed (r : Roster) : Prop :=
  ∀ id identity, r.Holds id identity → r.findIdentity? identity = some id

/-! ## Holders after an operation -/

section Holders

variable {r : Roster} {id other : SessionId} {identity name : String}

theorem holds_congr {r r' : Roster} (same : r'.session? id = r.session? id) :
    r'.Holds id identity ↔ r.Holds id identity := by
  simp only [Holds, same]

theorem not_holds_of_not_active (inactive : r.isActive id = false) : ¬ r.Holds id identity := by
  rintro ⟨s, hs, active, -⟩
  simp [isActive, hs, active] at inactive

/-- A change to a session makes it no holder if it neither activates nor names it. -/
theorem Holds.of_update {f : Session → Session}
    (keeps : ∀ s, (f s).isActive = s.isActive ∧ (f s).identity? = s.identity?)
    (held : (r.update id f).Holds other identity) : r.Holds other identity := by
  by_cases same : other = id
  · subst same
    rcases held with ⟨t, ht, active, named⟩
    rw [session?_update_self, Option.map_eq_some_iff] at ht
    rcases ht with ⟨s, hs, rfl⟩
    rw [(keeps s).1] at active
    rw [(keeps s).2] at named
    exact ⟨s, hs, active, named⟩
  · exact (holds_congr (session?_update_of_ne same)).mp held

theorem keeps_transition (s : Session) (source target : AssociationState) :
    (s.transition source target).2.isActive = s.isActive ∧
      (s.transition source target).2.identity? = s.identity? := by
  unfold Session.transition
  split <;> exact ⟨rfl, rfl⟩

/-- After a binding the session holds that identity at most; the others hold what they held. -/
theorem Holds.of_bind (held : (r.bind identity id).Holds other name) :
    (other = id ∧ name = identity) ∨ (other ≠ id ∧ r.Holds other name) := by
  by_cases same : other = id
  · subst same
    rcases held with ⟨t, ht, -, named⟩
    rw [session?_bind_self, Option.map_eq_some_iff] at ht
    rcases ht with ⟨s, -, rfl⟩
    rw [(keeps_transition _ _ _).2] at named
    exact .inl ⟨rfl, (Option.some.inj named).symm⟩
  · exact .inr ⟨same, (holds_congr (session?_bind_of_ne same)).mp held⟩

/-- A session whose identity is taken holds nothing; the others hold what they held. -/
theorem Holds.of_clear
    (held : (r.update id fun s => { s with identity? := none }).Holds other identity) :
    other ≠ id ∧ r.Holds other identity := by
  by_cases same : other = id
  · subst same
    rcases held with ⟨t, ht, -, named⟩
    rw [session?_update_self, Option.map_eq_some_iff] at ht
    rcases ht with ⟨s, -, rfl⟩
    cases named
  · exact ⟨same, (holds_congr (session?_update_of_ne same)).mp held⟩

/-- A closed session holds nothing; the others hold what they held. -/
theorem Holds.of_close {reason : CloseReason}
    (held : (r.close id reason).2.Holds other identity) : other ≠ id ∧ r.Holds other identity := by
  by_cases same : other = id
  · subst same
    rcases held with ⟨t, ht, active, -⟩
    rw [session?_close_self, Option.map_eq_some_iff] at ht
    rcases ht with ⟨s, -, rfl⟩
    cases hs : s.isActive <;> simp [hs, Session.tearDown] at active
  · exact ⟨same, (holds_congr (session?_close_of_ne same)).mp held⟩

/-- A new session holds nothing. -/
theorem Holds.of_register {s : Session} (unnamed : s.identity? = none)
    (held : (r.register s).2.Holds other identity) : r.Holds other identity := by
  by_cases same : other = r.sessions.length
  · subst same
    rcases held with ⟨t, ht, -, named⟩
    rw [session?_register_self] at ht
    rcases Option.some.inj ht with rfl
    have unnamed' : s.activate.identity? = none := by
      unfold Session.activate
      split <;> exact unnamed
    rw [unnamed'] at named
    cases named
  · exact (holds_congr (session?_register_of_ne same)).mp held

end Holders

/-! ## What one operation preserves -/

section Steps

variable {r r' : Roster} {id : SessionId} {identity : String}

/-- An operation that makes no holder and leaves the index alone keeps the index right. -/
theorem Indexed.of_holds (indexed : r.Indexed) (hindex : r'.byIdentity = r.byIdentity)
    (hholds : ∀ other name, r'.Holds other name → r.Holds other name) : r'.Indexed := by
  intro other name held
  have found := indexed other name (hholds other name held)
  simpa only [findIdentity?, hindex] using found

theorem Indexed.update {f : Session → Session} (indexed : r.Indexed)
    (keeps : ∀ s, (f s).isActive = s.isActive ∧ (f s).identity? = s.identity?) :
    (r.update id f).Indexed :=
  indexed.of_holds rfl fun _ _ held => held.of_update keeps

theorem Indexed.transition (indexed : r.Indexed) (source target : AssociationState) :
    (r.transition id source target).2.Indexed := by
  rw [transition_eq_update]
  exact indexed.update fun s => keeps_transition s source target

theorem Indexed.register {s : Session} (indexed : r.Indexed) (unnamed : s.identity? = none) :
    (r.register s).2.Indexed :=
  indexed.of_holds rfl fun _ _ => Holds.of_register unnamed

/-- A binding keeps the index right if nobody else holds the identity. -/
theorem Indexed.bind (indexed : r.Indexed) (free : ∀ other, other ≠ id → ¬ r.Holds other identity) :
    (r.bind identity id).Indexed := by
  intro other name held
  rcases held.of_bind with ⟨rfl, rfl⟩ | ⟨differs, before⟩
  · exact findIdentity?_bind_self
  · have hname : name ≠ identity := by
      intro same
      subst same
      exact free other differs before
    rw [findIdentity?_bind_of_ne hname]
    exact indexed other name before

theorem Indexed.associate (indexed : r.Indexed) : (r.associate identity id).2.Indexed := by
  unfold Roster.associate
  cases hfound : r.findIdentity? identity with
  | some holder =>
    dsimp only
    split
    · exact indexed
    · split
      · exact indexed.transition _ _
      · rename_i inactive
        refine indexed.bind ?_
        -- a live bearer would be the holder found, and that one is closed
        intro other _ held
        have hholder : other = holder :=
          Option.some.inj ((indexed other identity held).symm.trans hfound)
        subst hholder
        exact not_holds_of_not_active (by simpa using inactive) held
  | none =>
    dsimp only
    unfold claimIdentity?
    split
    · rename_i claimed hclaim
      split at hclaim
      · -- an identity without an entry has no live bearer
        rcases Option.some.inj hclaim with rfl
        refine Indexed.bind (indexed.of_holds rfl fun _ _ held => held) ?_
        intro other _ held
        have found := indexed other identity held
        rw [hfound] at found
        cases found
      · cases hclaim
    · exact indexed.transition _ _

/-- A takeover keeps the index right: the old holder loses what the new one is bound to. -/
theorem Indexed.rebind (indexed : r.Indexed) : (r.rebind identity id).2.Indexed := by
  cases hfound : r.findIdentity? identity with
  | none =>
    rw [rebind_of_none hfound]
    refine Indexed.bind (indexed.of_holds rfl fun _ _ held => held) ?_
    intro other _ held
    have found := indexed other identity held
    rw [hfound] at found
    cases found
  | some old =>
    by_cases same : old = id
    · subst same
      rw [rebind_of_self hfound]
      refine indexed.bind ?_
      intro other differs held
      exact differs (Option.some.inj ((indexed other identity held).symm.trans hfound))
    · rw [rebind_of_other hfound same]
      intro other name held
      -- between the two changes `old` bears an identity that points elsewhere
      rcases held.of_clear with ⟨hother, bound⟩
      rcases bound.of_bind with ⟨rfl, rfl⟩ | ⟨differs, before⟩
      · exact findIdentity?_bind_self
      · have found := indexed other name before
        have hname : name ≠ identity := by
          intro same
          subst same
          exact hother (Option.some.inj (found.symm.trans hfound))
        show (r.bind identity id).findIdentity? name = some other
        rw [findIdentity?_bind_of_ne hname]
        exact found

theorem Indexed.close (indexed : r.Indexed) (reason : CloseReason) :
    (r.close id reason).2.Indexed := by
  intro other name held
  rcases held.of_close with ⟨differs, before⟩
  exact findIdentity?_close_of_some (indexed other name before) differs

theorem Indexed.closeEach (indexed : r.Indexed) (reason : CloseReason) (ids : List SessionId) :
    (r.closeEach reason ids).Indexed := by
  induction ids generalizing r with
  | nil => exact indexed
  | cons id rest ih => exact ih (indexed.close reason)

theorem Indexed.step (indexed : r.Indexed) (action : Action) : (r.step action).Indexed := by
  cases action with
  | createSocket stream remote now =>
    simp only [Roster.step, createSocket_eq]
    cases stream.connected with
    | false => exact indexed
    | true => exact indexed.register rfl
  | createWebSocket sink remote now =>
    simp only [Roster.step, createWebSocket_eq]
    exact indexed.register rfl
  | transition id source target => exact indexed.transition source target
  | associate identity id => exact indexed.associate
  | rebind identity id => exact indexed.rebind
  | addDatagram id channel =>
    cases hadd : r.addDatagram id channel with
    | error fault => simpa only [Roster.step, hadd] using indexed
    | ok r' =>
      rcases addDatagram_eq_ok hadd with ⟨s, -, -, -, rfl⟩
      have attached : (r.update id fun s => { s with datagram? := some channel }).Indexed :=
        indexed.update fun _ => ⟨rfl, rfl⟩
      simp only [Roster.step, hadd]
      exact attached.of_holds rfl fun _ _ held => held
  | addTunnel id channel =>
    cases hadd : r.addTunnel id channel with
    | error fault => simpa only [Roster.step, hadd] using indexed
    | ok r' =>
      rcases addTunnel_eq_ok hadd with ⟨s, -, -, -, rfl⟩
      have attached : (r.update id fun s => { s with tunnel? := some channel }).Indexed :=
        indexed.update fun _ => ⟨rfl, rfl⟩
      simp only [Roster.step, hadd]
      exact attached.of_holds rfl fun _ _ held => held
  | close id reason => exact indexed.close reason
  | closeAll reason => exact indexed.closeEach reason _

end Steps

/-! ## Runs -/

/-- Where the index is right, no two active sessions bear the same identity. -/
theorem Indexed.holder_unique {r : Roster} (indexed : r.Indexed) {id other : SessionId}
    {identity : String} (held : r.Holds id identity) (held' : r.Holds other identity) :
    id = other := by
  have found := indexed id identity held
  have found' := indexed other identity held'
  exact Option.some.inj (found.symm.trans found')

theorem indexed_of_no_sessions {r : Roster} (empty : r.sessions = []) : r.Indexed := by
  rintro id identity ⟨s, hs, -, -⟩
  simp [session?, empty] at hs

/--
After any operations in any order, with whatever sessions and identities their callers choose, no
two active sessions bear the same identity, and an active session that bears an identity is the one
found under it.
-/
theorem run_one_holder (settings : SessionSettings) (filter : ConnectionFilter)
    (actions : List Action) :
    (∀ id other identity,
      (({ settings, filter } : Roster).run actions).Holds id identity →
      (({ settings, filter } : Roster).run actions).Holds other identity → id = other) ∧
    ∀ id identity,
      (({ settings, filter } : Roster).run actions).Holds id identity →
      (({ settings, filter } : Roster).run actions).findIdentity? identity = some id := by
  have start : ({ settings, filter } : Roster).Indexed := indexed_of_no_sessions rfl
  have indexed := run_preserves (P := Indexed) (fun _ action h => h.step action) actions _ start
  exact ⟨fun _ _ _ => indexed.holder_unique, indexed⟩

/-- Three sessions: the first is closed, and the second loses an identity to the third. -/
def takeover : List Action :=
  let remote : SocketAddress := ⟨.v4 #v[127, 0, 0, 1], 5000, 0⟩
  [.createWebSocket {} remote 0, .createWebSocket {} remote 1, .createWebSocket {} remote 2,
    .associate "ann" 0, .close 0 .idle, .associate "ann" 0, .associate "ann" 1, .associate "ann" 2,
    .rebind "ann" 2, .associate "bob" 1]

/-- After the takeover both live sessions are found, each under the identity it bears. -/
theorem run_one_holder_takeover :
    (({} : Roster).run takeover).Holds 1 "bob" ∧ (({} : Roster).run takeover).Holds 2 "ann" ∧
      (({} : Roster).run takeover).findIdentity? "bob" = some 1 ∧
      (({} : Roster).run takeover).findIdentity? "ann" = some 2 := by
  have bob : (({} : Roster).run takeover).Holds 1 "bob" := ⟨_, rfl, rfl, rfl⟩
  have ann : (({} : Roster).run takeover).Holds 2 "ann" := ⟨_, rfl, rfl, rfl⟩
  have found := (run_one_holder {} {} takeover).2
  exact ⟨bob, ann, found 1 "bob" bob, found 2 "ann" ann⟩

end Roster

end SessionNet
