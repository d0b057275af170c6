import SessionNet.Proofs.Session.Wiring

/-!
# Finding a session by its secondary transports

A stream session can have a datagram path and a tunnel, and the roster leads from the id of each to
the session. Who chooses these ids is free to choose one twice: the entry then goes over to the
session that is given it last, though the other one is still live and has the same channel. This is
the only way in which the entries and the channels come apart. In every run a look-up leads to an
active session with a channel of that id, and every such session is the one found, as long as no
session is given an id that a live one has.
-/

namespace SessionNet

/-- The transports that a session can have beside its stream. -/
inductive Secondary where
  | datagram
  | tunnel
  deriving DecidableEq, Repr

/-- The id of a secondary transport. -/
def Wiring.secondary? (w : Wiring) : Secondary → Option UInt32
  | .datagram => w.conveyance?
  | .tunnel => w.tunnel?

namespace Roster

/-- The session that a look-up by the id of a secondary transport finds. -/
def findSecondary? (r : Roster) : Secondary → UInt32 → Option SessionId
  | .datagram => r.findConveyance?
  | .tunnel => r.findTunnel?

/-- An active session has a secondary transport with an id. -/
def Carries (r : Roster) (kind : Secondary) (id : SessionId) (key : UInt32) : Prop :=
  ∃ w, r.wiring? id = some w ∧ w.isActive = true ∧ w.secondary? kind = some key

/-- Every session is the one that is found by the id of a secondary transport of this kind. -/
def FindableBy (r : Roster) (kind : Secondary) : Prop :=
  ∀ id key, r.Carries kind id key → r.findSecondary? kind key = some id

/-- Every session is the one that is found by the ids of its secondary transports. -/
def Findable (r : Roster) : Prop :=
  ∀ kind id key, r.Carries kind id key → r.findSecondary? kind key = some id

/-- A session is given a secondary transport under an id that another live session has. -/
def Displaces (r : Roster) : Action → Prop
  | .addDatagram id channel => (∃ r', r.addDatagram id channel = .ok r') ∧
      ∃ other, other ≠ id ∧ r.Carries .datagram other channel.conveyance
  | .addTunnel id channel => (∃ r', r.addTunnel id channel = .ok r') ∧
      ∃ other, other ≠ id ∧ r.Carries .tunnel other channel.id
  | _ => False

variable {r r' : Roster} {id other : SessionId} {kind : Secondary} {key : UInt32}

/-! ## Every entry leads to a session with that channel -/

theorem Wired.closeEach (wired : ∀ id, r.Wired id) (reason : CloseReason) (ids : List SessionId) :
    ∀ id, (r.closeEach reason ids).Wired id := by
  induction ids generalizing r with
  | nil => exact wired
  | cons id rest ih => exact ih (Wired.close wired id reason)

theorem Wired.step (wired : ∀ id, r.Wired id) (action : Action) :
    ∀ id, (r.step action).Wired id := by
  cases action with
  | createSocket stream remote now =>
    simp only [Roster.step, createSocket_eq]
    cases stream.connected with
    | false => exact wired
    | true => exact Wired.register wired rfl rfl
  | createWebSocket sink remote now =>
    simp only [Roster.step, createWebSocket_eq]
    exact Wired.register wired rfl rfl
  | transition id source target =>
    exact fun other => (sameWiring_transition r id source target).wired (wired other)
  | associate identity id =>
    exact fun other => (sameWiring_associate r identity id).wired (wired other)
  | rebind identity id => exact fun other => (sameWiring_rebind r identity id).wired (wired other)
  | addDatagram id channel =>
    simp only [Roster.step]
    cases added : r.addDatagram id channel with
    | error fault => exact wired
    | ok r' => exact Wired.addDatagram wired added
  | addTunnel id channel =>
    simp only [Roster.step]
    cases added : r.addTunnel id channel with
    | error fault => exact wired
    | ok r' => exact Wired.addTunnel wired added
  | close id reason => exact Wired.close wired id reason
  | closeAll reason => exact Wired.closeEach wired reason _

/-- What a look-up finds is active and has the channel. -/
theorem Wired.carries (wired : ∀ id, r.Wired id) (kind : Secondary)
    (found : r.findSecondary? kind key = some id) : r.Carries kind id key := by
  cases kind with
  | datagram => exact (wired id).conveyance key (mem_of_lookup found)
  | tunnel => exact (wired id).tunnel key (mem_of_lookup found)

/-! ## Every session is found by its channels -/

theorem carries_congr (same : r'.wiring? id = r.wiring? id) :
    r'.Carries kind id key ↔ r.Carries kind id key := by
  simp only [Carries, same]

/-- A session that is found keeps being found if no operation gives it a channel or takes its entry. -/
theorem FindableBy.congr (findable : r.FindableBy kind)
    (carries : ∀ id key, r'.Carries kind id key → r.Carries kind id key)
    (kept : ∀ id key, r'.Carries kind id key →
      r.findSecondary? kind key = some id → r'.findSecondary? kind key = some id) :
    r'.FindableBy kind :=
  fun id key held => kept id key held (findable id key (carries id key held))

theorem FindableBy.sameWiring (findable : r.FindableBy kind) (same : SameWiring r r') :
    r'.FindableBy kind := by
  refine findable.congr (fun id key => (carries_congr (same.wiring id)).mp) fun id key _ found => ?_
  cases kind with
  | datagram => exact (congrArg (List.lookup key) same.conveyance).trans found
  | tunnel => exact (congrArg (List.lookup key) same.tunnel).trans found

theorem findable_of_sameWiring (findable : r.Findable) (same : SameWiring r r') : r'.Findable :=
  fun kind => FindableBy.sameWiring (findable kind) same

/-- A new session has no channel yet. -/
theorem Carries.of_register {s : Session} (pathless : s.datagram? = none) (tunnelless : s.tunnel? = none)
    (held : (r.register s).2.Carries kind id key) : r.Carries kind id key := by
  by_cases new : id = r.sessions.length
  · subst new
    obtain ⟨w, hw, -, own⟩ := held
    have channels : s.activate.datagram? = none ∧ s.activate.tunnel? = none := by
      unfold Session.activate
      split <;> exact ⟨pathless, tunnelless⟩
    rw [wiring?, session?_register_self] at hw
    rcases Option.some.inj hw with rfl
    cases kind <;> simp [Wiring.secondary?, Session.wiring, channels] at own
  · have same : (r.register s).2.wiring? id = r.wiring? id := by
      rw [wiring?, session?_register_of_ne new, wiring?]
    exact (carries_congr same).mp held

theorem FindableBy.register (findable : r.FindableBy kind) {s : Session} (pathless : s.datagram? = none)
    (tunnelless : s.tunnel? = none) : (r.register s).2.FindableBy kind := by
  refine findable.congr (fun _ _ => Carries.of_register pathless tunnelless) fun id key _ found => ?_
  cases kind <;> exact found

/-- Who is live after a session was closed is another one, and has what it had. -/
theorem Carries.of_close {reason : CloseReason} (live : r.isActive id = true)
    (held : (r.close id reason).2.Carries kind other key) : other ≠ id ∧ r.Carries kind other key := by
  obtain ⟨s, hs, active⟩ := isActive_eq_true_iff.mp live
  have elsewhere : other ≠ id := by
    obtain ⟨w, hw, still, -⟩ := held
    rintro rfl
    rw [wiring?, session?_close_self, hs] at hw
    rcases Option.some.inj hw with rfl
    simp [active, Session.tearDown, Session.wiring] at still
  have same : (r.close id reason).2.wiring? other = r.wiring? other := by
    rw [wiring?, session?_close_of_ne elsewhere, wiring?]
  exact ⟨elsewhere, (carries_congr same).mp held⟩

/-- The closed session gives up its own entries, and those of all others stay. -/
theorem FindableBy.close (findable : r.FindableBy kind) (wired : ∀ id, r.Wired id) (id : SessionId)
    (reason : CloseReason) : (r.close id reason).2.FindableBy kind := by
  cases hactive : r.isActive id with
  | false => rwa [close_of_not_active hactive]
  | true =>
    obtain ⟨s, hs, active⟩ := isActive_eq_true_iff.mp hactive
    have managed : s.isManaged = true := (wired id).managed _ (congrArg (Option.map _) hs)
    have departed := departed_close reason hs active managed
    refine findable.congr (fun _ _ held => (held.of_close hactive).2) fun other key held found => ?_
    cases kind with
    | datagram => exact departed.conveyance.others key other found (held.of_close hactive).1
    | tunnel => exact departed.tunnel.others key other found (held.of_close hactive).1

theorem Findable.closeEach (findable : r.Findable) (wired : ∀ id, r.Wired id) (reason : CloseReason)
    (ids : List SessionId) : (r.closeEach reason ids).Findable := by
  induction ids generalizing r with
  | nil => exact findable
  | cons id rest ih =>
    exact ih (fun kind => FindableBy.close (findable kind) wired id reason)
      (Wired.close wired id reason)

/-- A session is given a secondary transport, whose id leads to it from then on. -/
structure Given (kind : Secondary) (id : SessionId) (key : UInt32) (r r' : Roster) : Prop where
  others : ∀ other, other ≠ id → r'.wiring? other = r.wiring? other
  own : ∀ name, r'.Carries kind id name → name = key
  entry : r'.findSecondary? kind key = some id
  entries : ∀ name, name ≠ key → r'.findSecondary? kind name = r.findSecondary? kind name
  /-- The transports of the other kind are as they were. -/
  carries : ∀ other, other ≠ kind → ∀ name, r'.Carries other id name → r.Carries other id name
  finds : ∀ other, other ≠ kind → r'.findSecondary? other = r.findSecondary? other

theorem given_addDatagram {channel : DatagramChannel} (added : r.addDatagram id channel = .ok r') :
    Given .datagram id channel.conveyance r r' := by
  obtain ⟨s, hs, -, -, rfl⟩ := addDatagram_eq_ok added
  have own : (r.update id fun s => { s with datagram? := some channel }).wiring? id =
      some { s.wiring with conveyance? := some channel.conveyance } := by
    rw [wiring?_update_self, hs]
    rfl
  refine ⟨fun other differs => wiring?_update_of_ne differs, ?_, lookup_setEntry_self,
    fun name differs => lookup_setEntry_of_ne differs, ?_, ?_⟩
  · rintro name ⟨w, hw, -, shown⟩
    rcases Option.some.inj (own.symm.trans hw) with rfl
    exact (Option.some.inj shown).symm
  · rintro (_ | _) differs name ⟨w, hw, active, shown⟩
    · exact absurd rfl differs
    · rcases Option.some.inj (own.symm.trans hw) with rfl
      exact ⟨s.wiring, congrArg (Option.map _) hs, active, shown⟩
  · rintro (_ | _) differs
    · exact absurd rfl differs
    · rfl

theorem given_addTunnel {channel : TunnelChannel} (added : r.addTunnel id channel = .ok r') :
    Given .tunnel id channel.id r r' := by
  obtain ⟨s, hs, -, -, rfl⟩ := addTunnel_eq_ok added
  have own : (r.update id fun s => { s with tunnel? := some channel }).wiring? id =
      some { s.wiring with tunnel? := some channel.id } := by
    rw [wiring?_update_self, hs]
    rfl
  refine ⟨fun other differs => wiring?_update_of_ne differs, ?_, lookup_setEntry_self,
    fun name differs => lookup_setEntry_of_ne differs, ?_, ?_⟩
  · rintro name ⟨w, hw, -, shown⟩
    rcases Option.some.inj (own.symm.trans hw) with rfl
    exact (Option.some.inj shown).symm
  · rintro (_ | _) differs name ⟨w, hw, active, shown⟩
    · rcases Option.some.inj (own.symm.trans hw) with rfl
      exact ⟨s.wiring, congrArg (Option.map _) hs, active, shown⟩
    · exact absurd rfl differs
  · rintro (_ | _) differs
    · rfl
    · exact absurd rfl differs

/-- An id that no other live session has takes no entry from anybody. -/
theorem FindableBy.given (findable : r.FindableBy kind) (given : Given kind id key r r')
    (free : ∀ other, other ≠ id → ¬ r.Carries kind other key) : r'.FindableBy kind := by
  intro other name held
  by_cases self : other = id
  · subst self
    rw [given.own name held]
    exact given.entry
  · have before : r.Carries kind other name := (carries_congr (given.others other self)).mp held
    have differs : name ≠ key := by
      rintro rfl
      exact free other self before
    rw [given.entries name differs]
    exact findable other name before

/-- A transport of another kind takes no entry from anybody. -/
theorem FindableBy.given_other {kind' : Secondary} (findable : r.FindableBy kind)
    (given : Given kind' id key r r') (differs : kind ≠ kind') : r'.FindableBy kind := by
  intro other name held
  rw [given.finds kind differs]
  by_cases self : other = id
  · subst self
    exact findable other name (given.carries kind differs name held)
  · exact findable other name ((carries_congr (given.others other self)).mp held)

theorem Findable.given (findable : r.Findable) (given : Given kind id key r r')
    (free : ∀ other, other ≠ id → ¬ r.Carries kind other key) : r'.Findable := by
  intro kind'
  by_cases same : kind' = kind
  · subst same
    exact FindableBy.given (findable kind') given free
  · exact FindableBy.given_other (findable kind') given same

/-- An id that another live session has is taken from that one, which keeps the transport. -/
theorem Given.not_findable (given : Given kind id key r r') (differs : other ≠ id)
    (held : r.Carries kind other key) : ¬ r'.Findable := by
  intro findable
  have still : r'.Carries kind other key := (carries_congr (given.others other differs)).mpr held
  have found := findable kind other key still
  exact differs (Option.some.inj (found.symm.trans given.entry))

/-! ## Runs -/

/-- An operation keeps every session findable, unless it gives away an id in use. -/
theorem findable_step_iff (findable : r.Findable) (wired : ∀ id, r.Wired id) (action : Action) :
    (r.step action).Findable ↔ ¬ r.Displaces action := by
  cases action with
  | createSocket stream remote now =>
    refine iff_of_true ?_ id
    simp only [Roster.step, createSocket_eq]
    cases stream.connected with
    | false => exact findable
    | true => exact fun kind => FindableBy.register (findable kind) rfl rfl
  | createWebSocket sink remote now =>
    refine iff_of_true ?_ id
    simp only [Roster.step, createWebSocket_eq]
    exact fun kind => FindableBy.register (findable kind) rfl rfl
  | transition id source target =>
    exact iff_of_true
      (findable_of_sameWiring findable (sameWiring_transition r id source target)) not_false
  | associate identity id =>
    exact iff_of_true (findable_of_sameWiring findable (sameWiring_associate r identity id)) not_false
  | rebind identity id =>
    exact iff_of_true (findable_of_sameWiring findable (sameWiring_rebind r identity id)) not_false
  | addDatagram id channel =>
    simp only [Roster.step, Displaces]
    cases added : r.addDatagram id channel with
    | error fault => simpa using findable
    | ok r' =>
      have given := given_addDatagram added
      constructor
      · rintro after ⟨-, other, differs, held⟩
        exact given.not_findable differs held after
      · intro free
        exact findable.given given fun other differs held => free ⟨⟨r', rfl⟩, other, differs, held⟩
  | addTunnel id channel =>
    simp only [Roster.step, Displaces]
    cases added : r.addTunnel id channel with
    | error fault => simpa using findable
    | ok r' =>
      have given := given_addTunnel added
      constructor
      · rintro after ⟨-, other, differs, held⟩
        exact given.not_findable differs held after
      · intro free
        exact findable.given given fun other differs held => free ⟨⟨r', rfl⟩, other, differs, held⟩
  | close id reason =>
    exact iff_of_true (fun kind => FindableBy.close (findable kind) wired id reason) not_false
  | closeAll reason => exact iff_of_true (findable.closeEach wired reason _) not_false

/-- The roster after the first operations of a list. -/
theorem run_take_succ {actions : List Action} {n : Nat} {action : Action}
    (next : actions[n]? = some action) :
    r.run (actions.take (n + 1)) = (r.run (actions.take n)).step action := by
  rw [List.take_add_one, next, run, List.foldl_append]
  rfl

/--
In every run a look-up by a conveyance id or a tunnel id leads to an active session that has a
channel of this id. Along the run every active session with such a channel is the one found under
its id exactly if no session is ever given an id that another active one has.
-/
theorem run_secondary (settings : SessionSettings) (filter : ConnectionFilter)
    (actions : List Action) :
    (∀ key id, (({ settings, filter } : Roster).run actions).findConveyance? key = some id →
        (({ settings, filter } : Roster).run actions).Carries .datagram id key) ∧
      (∀ key id, (({ settings, filter } : Roster).run actions).findTunnel? key = some id →
        (({ settings, filter } : Roster).run actions).Carries .tunnel id key) ∧
      ((∀ n, (({ settings, filter } : Roster).run (actions.take n)).Findable) ↔
        ∀ n action, actions[n]? = some action →
          ¬ (({ settings, filter } : Roster).run (actions.take n)).Displaces action) := by
  let start : Roster := { settings, filter }
  have wired : ∀ actions id, (start.run actions).Wired id := by
    intro actions
    refine run_preserves (P := fun r => ∀ id, r.Wired id) (fun r action h => Wired.step h action)
      actions start ?_
    exact fun id => ⟨nofun, nofun, nofun, nofun⟩
  refine ⟨fun key id => Wired.carries (wired actions) .datagram,
    fun key id => Wired.carries (wired actions) .tunnel, ?_, ?_⟩
  · intro findable n action next
    rw [← findable_step_iff (findable n) (wired _), ← run_take_succ next]
    exact findable (n + 1)
  · intro kept n
    induction n with
    | zero => exact fun kind id key ⟨w, hw, _⟩ => by cases hw
    | succ n ih =>
      cases next : actions[n]? with
      | none =>
        -- the run is over
        rw [List.take_add_one, next]
        simpa using ih
      | some action =>
        rw [run_take_succ next, findable_step_iff ih (wired _)]
        exact kept n action next

/-- Two sessions with different conveyance ids; the second gets the tunnel id of the first, closed. -/
def succession : List Action :=
  [.createSocket {} .loopback 0, .createSocket {} .loopback 1, .addDatagram 0 (.mk 0 5),
    .addTunnel 0 ⟨8, {}⟩, .addDatagram 1 (.mk 1 6), .close 0 .idle, .addTunnel 1 ⟨8, {}⟩]

/-- No id is given away in use, so the look-ups lead to the second session all along. -/
theorem run_secondary_succession :
    (∀ n, (({ settings := { tunnelEnabled := true } } : Roster).run (succession.take n)).Findable) ∧
      (({ settings := { tunnelEnabled := true } } : Roster).run succession).Carries .datagram 1 6 ∧
      (({ settings := { tunnelEnabled := true } } : Roster).run succession).Carries .tunnel 1 8 := by
  obtain ⟨path, tunnel, along⟩ := run_secondary { tunnelEnabled := true } {} succession
  refine ⟨along.mpr ?_, path 6 1 rfl, tunnel 8 1 rfl⟩
  intro n action next
  match n, next with
  | 0, rfl => exact not_false
  | 1, rfl => exact not_false
  | 2, rfl =>
    rintro ⟨-, other, differs, w, hw, -, shown⟩
    match other, hw with
    | 0, _ => exact differs rfl
    | 1, rfl => cases shown
  | 3, rfl =>
    rintro ⟨-, other, differs, w, hw, -, shown⟩
    match other, hw with
    | 0, _ => exact differs rfl
    | 1, rfl => cases shown
  | 4, rfl =>
    rintro ⟨-, other, differs, w, hw, -, shown⟩
    match other, hw with
    | 0, rfl => exact absurd shown (by decide)
    | 1, _ => exact differs rfl
  | 5, rfl => exact not_false
  | 6, rfl =>
    rintro ⟨-, other, differs, w, hw, active, -⟩
    match other, hw with
    | 0, rfl => exact absurd active (by decide)
    | 1, _ => exact differs rfl

/-- Two sessions whose datagram paths are given the same conveyance id. -/
def sharing : List Action :=
  [.createSocket {} .loopback 0, .createSocket {} .loopback 1, .addDatagram 0 (.mk 0 5),
    .addDatagram 1 (.mk 1 5)]

/-- The id leads to the later session, and to none once that is closed, while the first one is live. -/
theorem shared_conveyance_lost :
    ((({} : Roster).run sharing).Carries .datagram 0 5 ∧
      (({} : Roster).run sharing).findConveyance? 5 = some 1) ∧
    (({} : Roster).run (sharing ++ [.close 1 .idle])).Carries .datagram 0 5 ∧
      (({} : Roster).run (sharing ++ [.close 1 .idle])).findConveyance? 5 = none :=
  ⟨⟨⟨_, rfl, rfl, rfl⟩, rfl⟩, ⟨_, rfl, rfl, rfl⟩, rfl⟩

end Roster

end SessionNet
