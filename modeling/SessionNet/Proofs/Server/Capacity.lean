import SessionNet.Proofs.Dispatch.Deeds
import SessionNet.Proofs.Dispatch.Handover

/-!
# The cap on identities

The number of bound identities is kept apart from the index that it counts, and five operations
change the two together. Each of them makes, moves or removes one entry (`Turnover`), so the number
is that of the entries in every run. Only a takeover of an identity that nobody has enters one
without asking whether there is room; requests do not come to that, because they take an identity
over only from a live session, and so they keep within the cap.
-/

namespace SessionNet

namespace Roster

variable {r r' r'' : Roster} {id : SessionId} {identity : String} {reason : CloseReason}
variable {admits : Roster → Prop}

/-! ## Entries and their number -/

/-- Each identity has one entry, and the entries are counted. -/
structure Counted (r : Roster) : Prop where
  keys : (r.byIdentity.map Prod.fst).Nodup
  count : r.boundIdentities = r.byIdentity.length

/-- Whether one more identity may be bound. -/
def HasRoom (r : Roster) : Prop :=
  r.settings.maxIdentities = 0 ∨ r.boundIdentities < r.settings.maxIdentities

/-- What can happen to the entries and their number, where an identity is entered only if the roster
admits that. -/
inductive Turnover (admits : Roster → Prop) (r r' : Roster) : Prop
  | keep (index : r'.byIdentity = r.byIdentity) (bound : r'.boundIdentities = r.boundIdentities)
  | enter {identity : String} {id : SessionId} (admitted : admits r)
      (absent : r.findIdentity? identity = none)
      (index : r'.byIdentity = setEntry r.byIdentity identity id)
      (bound : r'.boundIdentities = r.boundIdentities + 1)
  | move {identity : String} {holder id : SessionId}
      (found : r.findIdentity? identity = some holder)
      (index : r'.byIdentity = setEntry r.byIdentity identity id)
      (bound : r'.boundIdentities = r.boundIdentities)
  | leave {identity : String} {id : SessionId} (found : r.findIdentity? identity = some id)
      (index : r'.byIdentity = removeEntry r.byIdentity identity id)
      (bound : r'.boundIdentities = r.boundIdentities - 1)

/-- An operation that leaves the settings alone and does one of this. -/
structure Booked (admits : Roster → Prop) (r r' : Roster) : Prop where
  settings : r'.settings = r.settings
  turnover : Turnover admits r r'

abbrev Bookings (admits : Roster → Prop) : Roster → Roster → Prop :=
  Relation.ReflTransGen (Booked admits)

theorem Counted.turnover (turnover : Turnover admits r r') (counted : r.Counted) : r'.Counted := by
  cases turnover with
  | keep index bound =>
    refine ⟨?_, ?_⟩
    · rw [index]
      exact counted.keys
    · rw [index, bound]
      exact counted.count
  | enter _ absent index bound =>
    refine ⟨?_, ?_⟩
    · rw [index]
      exact keys_setEntry counted.keys
    · rw [index, bound, length_setEntry_of_absent absent, counted.count]
  | move found index bound =>
    -- setting an entry that is there replaces it
    refine ⟨?_, ?_⟩
    · rw [index]
      exact keys_setEntry counted.keys
    · rw [index, bound, length_setEntry_of_mem counted.keys (mem_byIdentity_of_find found),
        counted.count]
  | leave found index bound =>
    refine ⟨?_, ?_⟩
    · rw [index]
      exact counted.keys.sublist (List.filter_sublist.map _)
    · rw [index, bound, length_removeEntry counted.keys (mem_byIdentity_of_find found),
        counted.count]

/-- Where an identity is entered only if there is room, the number grows up to the cap at most. -/
theorem Turnover.boundIdentities_le (turnover : Turnover HasRoom r r')
    (capped : 0 < r.settings.maxIdentities) :
    r'.boundIdentities ≤ max r.boundIdentities r.settings.maxIdentities := by
  cases turnover with
  | keep _ bound => exact bound ▸ Nat.le_max_left _ _
  | enter admitted _ _ bound =>
    have room : r.boundIdentities < r.settings.maxIdentities :=
      admitted.resolve_left (Nat.ne_of_gt capped)
    exact bound ▸ Nat.le_trans room (Nat.le_max_right _ _)
  | move _ _ bound => exact bound ▸ Nat.le_max_left _ _
  | leave _ _ bound => exact bound ▸ Nat.le_trans (Nat.sub_le _ _) (Nat.le_max_left _ _)

theorem Booked.weaken {admits' : Roster → Prop} (booked : Booked admits r r')
    (fewer : admits r → admits' r) : Booked admits' r r' where
  settings := booked.settings
  turnover := by
    cases booked.turnover with
    | keep index bound => exact .keep index bound
    | enter admitted absent index bound => exact .enter (fewer admitted) absent index bound
    | move found index bound => exact .move found index bound
    | leave found index bound => exact .leave found index bound

/-- What leaves settings, entries and their number as they are. -/
theorem Booked.kept (settings : r'.settings = r.settings) (index : r'.byIdentity = r.byIdentity)
    (bound : r'.boundIdentities = r.boundIdentities) : Booked admits r r' :=
  ⟨settings, .keep index bound⟩

/-! ## What the operations do to them -/

section Operations

theorem booked_update (id : SessionId) (f : Session → Session) :
    Booked admits r (r.update id f) :=
  .kept rfl rfl rfl

theorem booked_transition (id : SessionId) (source target : AssociationState) :
    Booked admits r (r.transition id source target).2 := by
  rw [transition_eq_update]
  exact booked_update id _

theorem settings_bind (r : Roster) (identity : String) (id : SessionId) :
    (r.bind identity id).settings = r.settings := by
  rw [bind_eq]
  rfl

/-- A binding moves the entry of an identity that has one. -/
theorem booked_bind_of_found {holder : SessionId} (found : r.findIdentity? identity = some holder) :
    Booked admits r (r.bind identity id) :=
  ⟨settings_bind r identity id, .move found byIdentity_bind boundIdentities_bind⟩

theorem booked_bind_of_absent (admitted : admits r) (absent : r.findIdentity? identity = none) :
    Booked admits r
      (({ r with boundIdentities := r.boundIdentities + 1 } : Roster).bind identity id) :=
  ⟨settings_bind _ identity id, .enter admitted absent byIdentity_bind boundIdentities_bind⟩

/-- The cap is asked about an identity without an entry, and only then. -/
theorem associate_eq_limitReached_iff :
    (r.associate identity id).1 = .limitReached ↔
      r.findIdentity? identity = none ∧ r.atCapacity = true := by
  unfold associate claimIdentity? atCapacity
  cases r.findIdentity? identity with
  | some holder =>
    by_cases same : holder = id
    · simp [same]
    · cases hactive : r.isActive holder <;> simp [same, hactive]
  | none =>
    by_cases unlimited : r.settings.maxIdentities = 0
    · simp [unlimited]
    · by_cases room : r.boundIdentities < r.settings.maxIdentities
      · simp [room, Nat.not_le.2 room]
      · simp [unlimited, room, Nat.pos_of_ne_zero unlimited, Nat.le_of_not_lt room]

theorem not_atCapacity_iff : r.atCapacity = false ↔ r.HasRoom := by
  unfold atCapacity HasRoom
  by_cases unlimited : r.settings.maxIdentities = 0
  · simp [unlimited]
  · simp [unlimited, Nat.pos_of_ne_zero unlimited]

theorem booked_associate (r : Roster) (identity : String) (id : SessionId) :
    Booked HasRoom r (r.associate identity id).2 := by
  cases hresult : (r.associate identity id).1 with
  | success =>
    rcases associate_of_success hresult with ⟨holder, found, -, heq⟩ | ⟨absent, heq⟩
    · rw [heq]
      exact booked_bind_of_found found
    · -- the identity is new, so the cap was asked
      have below : r.atCapacity = false := by
        rw [Bool.eq_false_iff]
        intro full
        have refused : (r.associate identity id).1 = .limitReached :=
          associate_eq_limitReached_iff.2 ⟨absent, full⟩
        rw [hresult] at refused
        cases refused
      rw [heq]
      exact booked_bind_of_absent (not_atCapacity_iff.1 below) absent
  | duplicated =>
    rw [associate_of_refused (.inl hresult)]
    exact booked_transition id .doing .none
  | limitReached =>
    rw [associate_of_refused (.inr hresult)]
    exact booked_transition id .doing .none
  | alreadyAssociated =>
    rw [(associate_of_already hresult).2]
    exact .kept rfl rfl rfl

/-- A takeover in two parts: the identity is bound, and its old holder disowned. -/
theorem bookings_rebind (r : Roster) (identity : String) (id : SessionId)
    (admitted : r.findIdentity? identity = none → admits r) :
    Bookings admits r (r.rebind identity id).2 := by
  cases found : r.findIdentity? identity with
  | none =>
    rw [rebind_of_none found]
    exact .single (booked_bind_of_absent (admitted found) found)
  | some old =>
    by_cases same : old = id
    · -- whoever has the identity already is bound to it again, and not disowned
      subst same
      rw [rebind_of_self found]
      exact .single (booked_bind_of_found found)
    · rw [rebind_of_other found same]
      exact .head (booked_bind_of_found found) (.single (booked_update old _))

/-- A session that leaves the indexes takes the entry of its identity along if that leads to it. -/
theorem booked_remove (r : Roster) (id : SessionId) : Booked admits r (r.remove id).2 := by
  refine ⟨settings_remove r id, ?_⟩
  cases hs : r.session? id with
  | none =>
    rw [remove_of_none hs]
    exact .keep rfl rfl
  | some s =>
    rw [remove_eq hs]
    cases s.identity? with
    | none => exact .keep rfl rfl
    | some identity =>
      simp only [Option.elim_some, removeIdentity]
      split
      · rename_i found
        exact .leave found rfl rfl
      · -- the identity was taken over, and its entry leads to another session by now
        exact .keep rfl rfl

theorem bookings_close (r : Roster) (id : SessionId) (reason : CloseReason) :
    Bookings admits r (r.close id reason).2 := by
  cases hactive : r.isActive id with
  | false =>
    rw [close_of_not_active hactive]
  | true =>
    rcases isActive_eq_true_iff.mp hactive with ⟨s, hs, active⟩
    have released : Booked admits r (r.releaseSlot s) := by
      unfold releaseSlot
      split <;> exact .kept rfl rfl rfl
    have torn : Bookings admits r ((r.releaseSlot s).update id fun s => s.tearDown reason) :=
      .head released (.single (booked_update id _))
    rw [close_of_active hs active]
    split
    · exact torn.tail (booked_remove _ id)
    · exact torn

theorem bookings_closeEach (ids : List SessionId) (r : Roster) :
    Bookings admits r (r.closeEach reason ids) := by
  induction ids generalizing r with
  | nil => exact .refl
  | cons id rest ih => exact (bookings_close r id reason).trans (ih _)

end Operations

/-! ## Runs of operations -/

/-- What can be done to a roster by whoever has its sessions: they can be made elsewhere and change
by themselves, and any of them can be taken out of the indexes. -/
inductive Change where
  | operation (action : Action)
  | remove (id : SessionId)
  | add (s : Session)
  | alter (id : SessionId) (f : Session → Session)

def change (r : Roster) : Change → Roster
  | .operation action => r.step action
  | .remove id => (r.remove id).2
  | .add s => (r.add s).2
  | .alter id f => r.update id f

/-- The roster after changes in order. -/
def changeAll (r : Roster) (changes : List Change) : Roster := changes.foldl change r

theorem bookings_step (r : Roster) (action : Action) :
    Bookings (fun _ => True) r (r.step action) := by
  cases action with
  | createSocket stream remote now =>
    simp only [step, createSocket_eq]
    cases stream.connected with
    | false => exact .refl
    | true => exact .single (.kept rfl rfl rfl)
  | createWebSocket sink remote now =>
    simp only [step, createWebSocket_eq]
    exact .single (.kept rfl rfl rfl)
  | transition id source target => exact .single (booked_transition id source target)
  | associate identity id =>
    exact .single ((booked_associate r identity id).weaken fun _ => trivial)
  | rebind identity id => exact bookings_rebind r identity id fun _ => trivial
  | addDatagram id channel =>
    simp only [step]
    split
    · rename_i added
      obtain ⟨s, -, -, -, rfl⟩ := addDatagram_eq_ok added
      exact .single (.kept rfl rfl rfl)
    · exact .refl
  | addTunnel id channel =>
    simp only [step]
    split
    · rename_i added
      obtain ⟨s, -, -, -, rfl⟩ := addTunnel_eq_ok added
      exact .single (.kept rfl rfl rfl)
    · exact .refl
  | close id reason => exact bookings_close r id reason
  | closeAll reason => exact bookings_closeEach _ r

theorem bookings_change (r : Roster) (change : Change) :
    Bookings (fun _ => True) r (r.change change) := by
  cases change with
  | operation action => exact bookings_step r action
  | remove id => exact .single (booked_remove r id)
  | add s => exact .single (.kept rfl rfl rfl)
  | alter id f => exact .single (booked_update id f)

theorem Bookings.settings (bookings : Bookings admits r r') : r'.settings = r.settings := by
  induction bookings with
  | refl => rfl
  | tail _ booked ih => exact booked.settings.trans ih

theorem Counted.bookings (bookings : Bookings admits r r') (counted : r.Counted) : r'.Counted := by
  induction bookings with
  | refl => exact counted
  | tail _ booked ih => exact ih.turnover booked.turnover

theorem bookings_changeAll (changes : List Change) (r : Roster) :
    Bookings (fun _ => True) r (r.changeAll changes) := by
  induction changes generalizing r with
  | nil => exact .refl
  | cons change rest ih => exact (bookings_change r change).trans (ih _)

/-- Below the cap, operations that ask for room stay below it. -/
theorem Bookings.boundIdentities_le (bookings : Bookings HasRoom r r')
    (capped : 0 < r.settings.maxIdentities) (below : r.boundIdentities ≤ r.settings.maxIdentities) :
    r'.boundIdentities ≤ r.settings.maxIdentities := by
  induction bookings with
  | refl => exact below
  | tail before booked ih =>
    have settings := Bookings.settings before
    have grown := booked.turnover.boundIdentities_le (settings ▸ capped)
    rw [settings] at grown
    exact Nat.le_trans grown (Nat.max_le.2 ⟨ih, Nat.le_refl _⟩)

theorem Counted.atCapacity_iff (counted : r.Counted) :
    r.atCapacity = true ↔
      0 < r.settings.maxIdentities ∧ r.settings.maxIdentities ≤ r.identityCount := by
  simp [atCapacity, identityCount, counted.count]

/-- An identity that is found is counted, so there is one to take off when its entry goes. -/
theorem Counted.pos_of_found (counted : r.Counted) (found : r.findIdentity? identity = some id) :
    0 < r.boundIdentities := by
  rw [counted.count]
  exact List.length_pos_of_mem (mem_byIdentity_of_find found)

end Roster

/-! ## Runs of a server -/

namespace Server

variable {direct : Prop} {srv srv' : Server}

open Roster (Booked Bookings HasRoom)

/-- What is done while a request is processed asks for room. -/
theorem bookings_of_deed {spoken : ServerEvent → Prop} {heard : DatagramPeer → Prop}
    (deed : Deed spoken heard srv srv') :
    Bookings HasRoom srv.roster srv'.roster := by
  cases deed with
  | event | called | unregister => exact .refl
  | send id message =>
    have same := sameStanding_send srv id message
    exact .single (.kept same.settings same.byIdentity same.boundIdentities)
  | sendDatagram id message =>
    have same := sameStanding_sendDatagram srv id message
    exact .single (.kept same.settings same.byIdentity same.boundIdentities)
  | transition id source target => exact .single (Roster.booked_transition id source target)
  | close id reason =>
    rw [roster_close]
    exact Roster.bookings_close srv.roster id reason
  | associate identity id => exact .single (Roster.booked_associate srv.roster identity id)
  | @takeOver identity id old live =>
    -- the identity has a holder, so none is entered
    have found := (liveHolder?_eq_some live).1
    have moved : Bookings HasRoom srv.roster (srv.moved identity id old).roster :=
      .head (Roster.booked_bind_of_found found) (.single (Roster.booked_update old _))
    rw [takeOver_eq live, roster_close]
    exact moved.trans (Roster.bookings_close _ old .reconnected)
  | grantPath peer identity =>
    have same := sameStanding_grantPath srv peer identity
    exact .single (.kept same.settings same.byIdentity same.boundIdentities)
  | reply peer access conveyance =>
    have same := sameStanding_replyToHandshake srv peer access conveyance
    exact .single (.kept same.settings same.byIdentity same.boundIdentities)

theorem bookings_process (srv : Server) (request : Request) :
    Bookings HasRoom srv.roster (srv.process request).roster :=
  (deeds_process srv request).preserves (P := fun later => Bookings HasRoom srv.roster later.roster)
    (fun _ _ deed before => before.trans (bookings_of_deed deed)) .refl

theorem bookings_of_move (move : Move direct srv srv') :
    Bookings HasRoom srv.roster srv'.roster := by
  cases move with
  | opening opened =>
    exact .single (.kept opened.settings opened.byIdentity opened.boundIdentities)
  | aside same => exact .single (.kept same.settings same.byIdentity same.boundIdentities)
  | accept => exact .refl
  | process request => exact bookings_process srv request
  | shardStep shard =>
    rcases shardStep_cases srv shard with same | ⟨queued, dispatcher, after, -, rfl, heq⟩
    · rw [same]
    · rw [heq]
      exact bookings_process { srv with dispatcher } queued.request
  | close id reason =>
    rw [roster_close]
    exact Roster.bookings_close srv.roster id reason
  | turn => exact .refl

theorem bookings_run (srv : Server) (operations : List Operation) :
    Bookings HasRoom srv.roster (srv.run operations).roster := by
  have step : ∀ a b, Move True a b → Bookings HasRoom srv.roster a.roster →
      Bookings HasRoom srv.roster b.roster :=
    fun _ _ move before => before.trans (bookings_of_move move)
  exact run_preserves (P := fun later => Bookings HasRoom srv.roster later.roster) step
    (fun _ _ => trivial) srv .refl

/--
The cap on identities is exact. Whatever is done to a roster, each identity has one entry, their
number is that of the bound identities, and none is taken off where none is bound; the roster is at
capacity exactly if there is a cap and the entries have come to it; an association is refused for
the limit exactly if the identity is new and the roster at capacity, and none brings the entries
beyond the cap. A server, whatever its handlers do, never has more entries than the cap.
-/
theorem identity_cap_exact (settings : SessionSettings) (filter : ConnectionFilter)
    (changes : List Roster.Change) (plan : ServerPlan) (shardKey : RequestSender → Nat)
    (handlers : HandlerTable) (operations : List Operation) :
    let r := ({ settings, filter } : Roster).changeAll changes
    let srv := (blank plan shardKey handlers).run operations
    (r.byIdentity.map Prod.fst).Nodup ∧ r.boundIdentities = r.identityCount ∧
    (∀ identity id, r.findIdentity? identity = some id → 0 < r.boundIdentities) ∧
    (r.atCapacity = true ↔
      0 < settings.maxIdentities ∧ settings.maxIdentities ≤ r.identityCount) ∧
    (∀ identity id, (r.associate identity id).1 = .limitReached ↔
      r.findIdentity? identity = none ∧ r.atCapacity = true) ∧
    (∀ identity id, 0 < settings.maxIdentities →
      (r.associate identity id).2.identityCount ≤ max r.identityCount settings.maxIdentities) ∧
    srv.roster.boundIdentities = srv.roster.identityCount ∧
    (0 < plan.sessions.maxIdentities →
      srv.roster.identityCount ≤ plan.sessions.maxIdentities) := by
  intro r srv
  have bookings : Bookings (fun _ => True) ({ settings, filter } : Roster) r :=
    Roster.bookings_changeAll changes _
  have counted : r.Counted := Roster.Counted.bookings bookings ⟨List.nodup_nil, rfl⟩
  have kept : r.settings = settings := Roster.Bookings.settings bookings
  have served : Bookings HasRoom (blank plan shardKey handlers).roster srv.roster :=
    bookings_run _ operations
  have balanced : srv.roster.Counted := Roster.Counted.bookings served ⟨List.nodup_nil, rfl⟩
  refine ⟨counted.keys, counted.count, fun _ _ found => counted.pos_of_found found, ?_,
    fun _ _ => Roster.associate_eq_limitReached_iff, ?_, balanced.count, ?_⟩
  · simpa only [kept] using counted.atCapacity_iff
  · intro identity id capped
    have booked := Roster.booked_associate r identity id
    have after : (r.associate identity id).2.Counted := counted.turnover booked.turnover
    have grown := booked.turnover.boundIdentities_le (kept ▸ capped)
    rwa [after.count, counted.count, kept] at grown
  · intro capped
    have below := Roster.Bookings.boundIdentities_le served capped (Nat.zero_le _)
    rwa [balanced.count] at below

/-- Session 1 takes over an identity that nobody has, while session 0 fills the only place. -/
def overbooking : List Roster.Change :=
  [.operation (.createWebSocket {} .loopback 0), .operation (.createWebSocket {} .loopback 0),
    .operation (.associate "ann" 0), .operation (.associate "bob" 1), .operation (.rebind "bob" 1)]

/-- A takeover past the cap is counted like any other, and the next new identity is refused; one
from a live session leaves the number as it is. -/
theorem identity_cap_exact_of_one :
    let r := ({ settings := { maxIdentities := 1 } } : Roster).changeAll overbooking
    let srv := (blank { sessions := { maxIdentities := 1 } } RequestSender.number obliging).run
      twoRequests
    r.boundIdentities = 2 ∧ 0 < r.boundIdentities ∧ (r.associate "cid" 0).1 = .limitReached ∧
      (r.associate "cid" 0).2.identityCount ≤ 2 ∧
      srv.roster.findIdentity? "ann" = some 1 ∧ srv.roster.isActive 0 = false ∧
      srv.roster.identityCount ≤ 1 := by
  intro r srv
  obtain ⟨-, count, pos, full, refused, bounded, -, capped⟩ :=
    identity_cap_exact { maxIdentities := 1 } {} overbooking { sessions := { maxIdentities := 1 } }
      RequestSender.number obliging twoRequests
  have filled : r.atCapacity = true := full.2 ⟨by decide, by decide⟩
  exact ⟨count, pos "ann" 0 rfl, (refused "cid" 0).2 ⟨rfl, filled⟩, bounded "cid" 0 (by decide),
    rfl, rfl, capped (by decide)⟩

end Server

end SessionNet
