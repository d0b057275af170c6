import SessionNet.Proofs.Session.Roster

/-!
# Attaching transports

A session has a slot for its primary transport, one for a datagram path and one for a tunnel. Each
of them is filled once, by the first call that is accepted, and what it holds stays there; closing
the session closes what the slots hold and leaves it in them. A call that fails has changed nothing.
The calls of a run follow one another: none begins before the one before it has returned.
-/

namespace SessionNet

/-! ## Slots -/

/-- The places for transports in a session. -/
inductive Slot where
  | primary
  | datagram
  | tunnel
  deriving DecidableEq, Repr

/-- What can be attached to a session. -/
inductive Attachable where
  | socket (stream : Stream)
  | webSocket (sink : Sink)
  | datagram (channel : DatagramChannel)
  | tunnel (channel : TunnelChannel)
  deriving DecidableEq, Repr

namespace Attachable

/-- The slot that it goes into. -/
def slot : Attachable → Slot
  | .socket _ => .primary
  | .webSocket _ => .primary
  | .datagram _ => .datagram
  | .tunnel _ => .tunnel

/-- What the closing of its session makes of it; the socket of a datagram path serves others too. -/
def close : Attachable → Attachable
  | .socket stream => .socket { stream with shut := true }
  | .webSocket sink => .webSocket sink.close
  | .datagram channel => .datagram channel
  | .tunnel channel => .tunnel { channel with tunnel := channel.tunnel.close }

theorem close_close (held : Attachable) : held.close.close = held.close := by
  cases held <;> rfl

/-- Attach it to a session. -/
def attachTo (s : Session) : Attachable → Except NetError Session
  | .socket stream => s.attachSocket stream
  | .webSocket sink => s.attachWebSocket sink
  | .datagram channel => s.attachDatagram channel
  | .tunnel channel => s.attachTunnel channel

/-- Whether a session is of the kind that it can be attached to. -/
def Suits (s : Session) : Attachable → Prop
  | .socket stream => stream.connected = true
  | .webSocket _ => True
  | .datagram channel => channel.conveyance ≠ 0 ∧ s.transport.kind = .tcp
  | .tunnel _ => s.transport.kind = .tcp

end Attachable

/-- A slot holds the same as before, or the same after it was closed. -/
def SameHeld (before after : Option Attachable) : Prop :=
  after = before ∨ after = before.map Attachable.close

theorem SameHeld.trans {a b c : Option Attachable} (first : SameHeld a b) (later : SameHeld b c) :
    SameHeld a c := by
  rcases first with rfl | rfl
  · exact later
  · refine .inr ?_
    rcases later with rfl | rfl
    · rfl
    · rw [Option.map_map]
      exact congrArg (fun f => a.map f) (funext Attachable.close_close)

theorem SameHeld.eq_none_iff {before after : Option Attachable} (same : SameHeld before after) :
    after = none ↔ before = none := by
  rcases same with rfl | rfl
  · rfl
  · exact Option.map_eq_none_iff

namespace Session

variable {s t : Session} {offer : Attachable}

/-- What a slot holds. -/
def held? (s : Session) : Slot → Option Attachable
  | .primary =>
    match s.transport with
    | .detached => none
    | .socket stream => some (.socket stream)
    | .webSocket sink => some (.webSocket sink)
  | .datagram => s.datagram?.map .datagram
  | .tunnel => s.tunnel?.map .tunnel

/-- The other transports stand beside a stream, and a datagram path has an id. -/
structure Supported (s : Session) : Prop where
  datagram : ∀ channel, s.datagram? = some channel →
    s.transport.kind = .tcp ∧ channel.conveyance ≠ 0
  tunnel : ∀ channel, s.tunnel? = some channel → s.transport.kind = .tcp

/-- A session took something into an empty slot. -/
structure Receives (s t : Session) (offer : Attachable) : Prop where
  free : s.held? offer.slot = none
  filled : t.held? offer.slot = some offer
  others : ∀ slot, slot ≠ offer.slot → t.held? slot = s.held? slot
  active : t.isActive = s.isActive
  supported : s.Supported → t.Supported

theorem held?_primary_eq_none : s.held? .primary = none ↔ s.transport.kind = .unknown := by
  unfold held?
  cases s.transport <;> simp [Transport.kind]

/-- A session without a primary transport has no other one beside it. -/
theorem Supported.detached (supported : s.Supported) (free : s.held? .primary = none) :
    s.datagram? = none ∧ s.tunnel? = none := by
  have unknown : s.transport.kind ≠ .tcp := by
    rw [held?_primary_eq_none.mp free]
    decide
  constructor
  · rw [Option.eq_none_iff_forall_ne_some]
    exact fun channel present => unknown (supported.datagram channel present).1
  · rw [Option.eq_none_iff_forall_ne_some]
    exact fun channel present => unknown (supported.tunnel channel present)

/-- A session with something put into its slot, whatever was there. -/
def place (s : Session) : Attachable → Session
  | .socket stream => { s with transport := .socket stream }
  | .webSocket sink => { s with transport := .webSocket sink }
  | .datagram channel => { s with datagram? := some channel }
  | .tunnel channel => { s with tunnel? := some channel }

/-- The primary slot takes what it is given if it is empty. -/
theorem attach_eq_ok {transport : Transport} : s.attach transport = .ok t ↔
    s.held? .primary = none ∧ t = { s with transport } := by
  rw [held?_primary_eq_none]
  unfold attach
  split
  case isTrue free => simp [free, eq_comm]
  case isFalse taken => simp [taken]

/-- What suits a session is attached if its slot is empty, and nothing else is. -/
theorem attachTo_eq_ok : offer.attachTo s = .ok t ↔
    offer.Suits s ∧ s.held? offer.slot = none ∧ t = s.place offer := by
  cases offer with
  | socket stream =>
    show s.attachSocket stream = .ok t ↔ stream.connected = true ∧ _
    unfold attachSocket
    cases stream.connected with
    | false => simp
    | true =>
      simp only [if_true, true_and]
      exact attach_eq_ok
  | webSocket sink =>
    show s.attach (.webSocket sink) = .ok t ↔ True ∧ _
    rw [true_and]
    exact attach_eq_ok
  | datagram channel =>
    show s.attachDatagram channel = .ok t ↔
      (channel.conveyance ≠ 0 ∧ s.transport.kind = .tcp) ∧
        s.datagram?.map Attachable.datagram = none ∧ _
    unfold attachDatagram
    by_cases zero : channel.conveyance = 0
    · simp [zero]
    · by_cases stream : s.transport.kind = .tcp
      · cases free : s.datagram? <;> simp [zero, stream, place, eq_comm]
      · simp [zero, stream]
  | tunnel channel =>
    show s.attachTunnel channel = .ok t ↔
      s.transport.kind = .tcp ∧ s.tunnel?.map Attachable.tunnel = none ∧ _
    unfold attachTunnel
    by_cases stream : s.transport.kind = .tcp
    · cases free : s.tunnel? <;> simp [stream, place, eq_comm]
    · simp [stream]

/-- Putting something into an empty slot changes no other slot. -/
theorem receives_place (suits : offer.Suits s) (free : s.held? offer.slot = none) :
    s.Receives (s.place offer) offer := by
  refine ⟨free, ?_, ?_, ?_, ?_⟩
  · cases offer <;> rfl
  · -- each field is read for one slot only
    intro slot differs
    cases slot with
    | primary =>
      cases offer with
      | socket stream => exact absurd rfl differs
      | webSocket sink => exact absurd rfl differs
      | datagram channel => rfl
      | tunnel channel => rfl
    | datagram =>
      cases offer with
      | datagram channel => exact absurd rfl differs
      | _ => rfl
    | tunnel =>
      cases offer with
      | tunnel channel => exact absurd rfl differs
      | _ => rfl
  · cases offer <;> rfl
  · intro supported
    cases offer with
    | socket stream =>
      obtain ⟨pathless, tunnelless⟩ := supported.detached free
      exact ⟨by simp [place, pathless], by simp [place, tunnelless]⟩
    | webSocket sink =>
      obtain ⟨pathless, tunnelless⟩ := supported.detached free
      exact ⟨by simp [place, pathless], by simp [place, tunnelless]⟩
    | datagram channel =>
      refine ⟨?_, supported.tunnel⟩
      rintro _ ⟨⟩
      exact ⟨suits.2, suits.1⟩
    | tunnel channel =>
      refine ⟨supported.datagram, ?_⟩
      rintro _ ⟨⟩
      exact suits

/-- A session before any transport was attached to it. -/
def bare (s : Session) : Session :=
  { s with transport := .detached, datagram? := none, tunnel? := none }

theorem held?_bare (s : Session) (slot : Slot) : s.bare.held? slot = none := by cases slot <;> rfl

theorem held?_tearDown (s : Session) (reason : CloseReason) (slot : Slot) :
    (s.tearDown reason).held? slot = (s.held? slot).map Attachable.close := by
  cases slot with
  | primary =>
    simp only [held?, tearDown]
    cases s.transport <;> rfl
  | datagram =>
    simp only [held?, tearDown, Option.map_map]
    rfl
  | tunnel =>
    simp only [held?, tearDown, Option.map_map]
    rfl

theorem Supported.tearDown (supported : s.Supported) (reason : CloseReason) :
    (s.tearDown reason).Supported := by
  have kind : (s.tearDown reason).transport.kind = s.transport.kind := by
    simp only [Session.tearDown]
    cases s.transport <;> rfl
  refine ⟨fun channel present => kind ▸ supported.datagram channel present, ?_⟩
  intro channel present
  obtain ⟨own, held, -⟩ := Option.map_eq_some_iff.mp present
  exact kind ▸ supported.tunnel own held

end Session

/-! ## Calls -/

/-- What is called on sessions and through the manager of sessions. -/
inductive AttachmentCall where
  /-- Attach something to a session directly. -/
  | attach (id : SessionId) (offer : Attachable)
  | addDatagram (id : SessionId) (channel : DatagramChannel)
  | addTunnel (id : SessionId) (channel : TunnelChannel)
  /-- A new session comes in, whatever its settings are. -/
  | enter (s : Session)
  | close (id : SessionId) (reason : CloseReason)

/-- What a call offers to a session. -/
def AttachmentCall.offer? : AttachmentCall → Option (SessionId × Attachable)
  | .attach id offer => some (id, offer)
  | .addDatagram id channel => some (id, .datagram channel)
  | .addTunnel id channel => some (id, .tunnel channel)
  | .enter _ => none
  | .close _ _ => none

/-- What a call puts into a slot of a session, going by its answer. -/
def AttachmentCall.puts? (call : AttachmentCall) (answer : Except NetError Unit) (id : SessionId)
    (slot : Slot) : Option Attachable :=
  match answer, call.offer? with
  | .ok (), some (target, offer) => if target = id ∧ offer.slot = slot then some offer else none
  | _, _ => none

namespace Roster

variable {r r' : Roster} {id other : SessionId} {s t : Session} {offer : Attachable}

/-- Attach something to a session; what this has changed when it fails stays changed. -/
def attach (r : Roster) (id : SessionId) (offer : Attachable) : Except NetError Unit × Roster :=
  match r.session? id with
  | none => (.error (.illegalState .sessionInactive), r)
  | some s =>
    match offer.attachTo s with
    | .error e => (.error e, r)
    | .ok s => (.ok (), r.update id fun _ => s)

/-- Let the id of a secondary transport lead to a session. -/
def enterIndex (r : Roster) (id : SessionId) : Attachable → Roster
  | .datagram channel => { r with byConveyance := setEntry r.byConveyance channel.conveyance id }
  | .tunnel channel => { r with byTunnel := setEntry r.byTunnel channel.id id }
  | _ => r

/-- Remove the entry of a secondary transport if it leads to the session. -/
def leaveIndex (r : Roster) (id : SessionId) : Attachable → Roster
  | .datagram channel => { r with byConveyance := removeEntry r.byConveyance channel.conveyance id }
  | .tunnel channel => { r with byTunnel := removeEntry r.byTunnel channel.id id }
  | _ => r

/--
Attach something to an active session, make its entry, and look again whether the session is active;
if it is not, the entry is removed. What this has changed when it fails stays changed.
-/
def attachIndexed (r : Roster) (id : SessionId) (offer : Attachable) :
    Except NetError Unit × Roster :=
  if !r.isActive id then (.error (.illegalState .sessionInactive), r)
  else
    match r.attach id offer with
    | (.error e, r) => (.error e, r)
    | (.ok (), r) =>
      let r := r.enterIndex id offer
      -- the session may have been closed since the first look
      if !r.isActive id then (.error (.illegalState .sessionInactive), r.leaveIndex id offer)
      else (.ok (), r)

/-- The answer to a call and what it leaves. -/
def perform (r : Roster) : AttachmentCall → Except NetError Unit × Roster
  | .attach id offer => r.attach id offer
  | .addDatagram id channel => r.attachIndexed id (.datagram channel)
  | .addTunnel id channel =>
    if !r.settings.tunnelEnabled then (.error (.illegalState .tunnelDisabled), r)
    else r.attachIndexed id (.tunnel channel)
  | .enter s => (.ok (), (r.add s.bare).2)
  | .close id reason => (.ok (), (r.close id reason).2)

/-- A session is there and has room for what suits it. -/
def CanTake (r : Roster) (id : SessionId) (offer : Attachable) : Prop :=
  ∃ s, r.session? id = some s ∧ offer.Suits s ∧ s.held? offer.slot = none

/-- What a call needs to be accepted. -/
def Admits (r : Roster) : AttachmentCall → Prop
  | .attach id offer => r.CanTake id offer
  | .addDatagram id channel => r.isActive id = true ∧ r.CanTake id (.datagram channel)
  | .addTunnel id channel => r.settings.tunnelEnabled = true ∧ r.isActive id = true ∧
      r.CanTake id (.tunnel channel)
  | .enter _ => True
  | .close _ _ => True

/-- Something is put into a slot of a session that has room for it. -/
structure Fills (r : Roster) (id : SessionId) (offer : Attachable) (r' : Roster) : Prop where
  room : r.CanTake id offer
  self : r'.session? id = (r.session? id).map (·.place offer)
  others : ∀ other, other ≠ id → r'.session? other = r.session? other

/-- How a call can end: its answer, and what it leaves. -/
inductive Performed (r : Roster) : AttachmentCall → Except NetError Unit → Roster → Prop
  | refused {call : AttachmentCall} (e : NetError) (declined : ¬r.Admits call) :
      Performed r call (.error e) r
  | filled {call : AttachmentCall} {id : SessionId} {offer : Attachable} {r' : Roster}
      (offers : call.offer? = some (id, offer)) (admits : r.Admits call)
      (fills : r.Fills id offer r') : Performed r call (.ok ()) r'
  | entered (s : Session) : Performed r (.enter s) (.ok ()) (r.add s.bare).2
  | closed (id : SessionId) (reason : CloseReason) :
      Performed r (.close id reason) (.ok ()) (r.close id reason).2

theorem attach_cases (r : Roster) (id : SessionId) (offer : Attachable) :
    (∃ e, r.attach id offer = (.error e, r) ∧ ¬r.CanTake id offer) ∨
      ∃ r', r.attach id offer = (.ok (), r') ∧ r.Fills id offer r' ∧
        r'.isActive id = r.isActive id := by
  unfold attach
  cases hs : r.session? id with
  | none => exact .inl ⟨_, rfl, fun ⟨s, present, _⟩ => nomatch hs.symm.trans present⟩
  | some s =>
    dsimp only
    cases attached : offer.attachTo s with
    | error e =>
      refine .inl ⟨e, rfl, ?_⟩
      rintro ⟨t, present, suits, free⟩
      cases hs.symm.trans present
      have accepted := Session.attachTo_eq_ok.mpr ⟨suits, free, rfl⟩
      cases attached.symm.trans accepted
    | ok t =>
      obtain ⟨suits, free, rfl⟩ := Session.attachTo_eq_ok.mp attached
      have self : (r.update id fun _ => s.place offer).session? id = some (s.place offer) := by
        rw [session?_update_self, hs]
        rfl
      have active : (s.place offer).isActive = s.isActive :=
        (Session.receives_place suits free).active
      refine .inr ⟨_, rfl, ⟨⟨s, hs, suits, free⟩, ?_, fun _ => session?_update_of_ne⟩, ?_⟩
      · rw [self, hs]
        rfl
      · simp [isActive, self, hs, active]

theorem session?_enterIndex (r : Roster) (id : SessionId) (offer : Attachable) (other : SessionId) :
    (r.enterIndex id offer).session? other = r.session? other := by
  cases offer <;> rfl

/-- The second look finds what the first one found, so what is attached is never taken back. -/
theorem attachIndexed_eq (r : Roster) (id : SessionId) (offer : Attachable) :
    r.attachIndexed id offer =
      if r.isActive id then
        match r.attach id offer with
        | (.error e, r) => (.error e, r)
        | (.ok (), r) => (.ok (), r.enterIndex id offer)
      else (.error (.illegalState .sessionInactive), r) := by
  unfold attachIndexed
  cases active : r.isActive id with
  | false => rfl
  | true =>
    rcases r.attach_cases id offer with ⟨e, refused, -⟩ | ⟨r', accepted, -, still⟩
    · simp [refused]
    · -- neither the slot nor the entry has to do with the life of the session
      have again : (r'.enterIndex id offer).isActive id = true := by
        unfold isActive at still active ⊢
        rw [session?_enterIndex, still, active]
      simp [accepted, again]

theorem attachIndexed_cases (r : Roster) (id : SessionId) (offer : Attachable) :
    (∃ e, r.attachIndexed id offer = (.error e, r) ∧
      ¬(r.isActive id = true ∧ r.CanTake id offer)) ∨
    ∃ r', r.attachIndexed id offer = (.ok (), r') ∧ r.isActive id = true ∧ r.Fills id offer r' := by
  rw [attachIndexed_eq]
  cases active : r.isActive id with
  | false => exact .inl ⟨_, rfl, fun admitted => nomatch admitted.1⟩
  | true =>
    rcases r.attach_cases id offer with ⟨e, refused, declined⟩ | ⟨r', accepted, fills, -⟩
    · refine .inl ⟨e, ?_, fun admitted => declined admitted.2⟩
      simp [refused]
    · refine .inr ⟨r'.enterIndex id offer, by simp [accepted], rfl, fills.room, ?_, ?_⟩
      · rw [session?_enterIndex, fills.self]
      · intro other differs
        rw [session?_enterIndex, fills.others other differs]

/-- The roster with the answer of a function that leaves it as it was when it fails. -/
def answered (r : Roster) : Except NetError Roster → Except NetError Unit × Roster
  | .ok r' => (.ok (), r')
  | .error e => (.error e, r)

/-- For a session that is there, the steps come to one look, one write and one entry. -/
theorem attachIndexed_of_session (hs : r.session? id = some s) :
    r.attachIndexed id offer = r.answered
      (if !s.isActive then .error (.illegalState .sessionInactive)
      else (offer.attachTo s).map fun t => (r.update id fun _ => t).enterIndex id offer) := by
  rw [attachIndexed_eq]
  simp only [attach, isActive, hs, Option.any_some]
  cases s.isActive with
  | false => rfl
  | true => cases offer.attachTo s <;> rfl

theorem attachIndexed_of_none (hs : r.session? id = none) :
    r.attachIndexed id offer = r.answered (.error (.illegalState .sessionInactive)) := by
  simp [attachIndexed, isActive, hs, answered]

/-- Step by step the manager does what `addDatagram` does at once. -/
theorem perform_addDatagram (r : Roster) (id : SessionId) (channel : DatagramChannel) :
    r.perform (.addDatagram id channel) = r.answered (r.addDatagram id channel) := by
  show r.attachIndexed id _ = _
  unfold addDatagram
  cases hs : r.session? id with
  | none => exact attachIndexed_of_none hs
  | some s =>
    simp only [attachIndexed_of_session hs, Attachable.attachTo]
    cases s.attachDatagram channel <;> rfl

/-- Step by step the manager does what `addTunnel` does at once. -/
theorem perform_addTunnel (r : Roster) (id : SessionId) (channel : TunnelChannel) :
    r.perform (.addTunnel id channel) = r.answered (r.addTunnel id channel) := by
  unfold perform addTunnel
  cases r.settings.tunnelEnabled with
  | false => rfl
  | true =>
    cases hs : r.session? id with
    | none => exact attachIndexed_of_none hs
    | some s =>
      simp only [Bool.not_true, Bool.false_eq_true, if_false, attachIndexed_of_session hs,
        Attachable.attachTo]
      cases s.attachTunnel channel <;> rfl

theorem performed_perform (r : Roster) (call : AttachmentCall) :
    Performed r call (r.perform call).1 (r.perform call).2 := by
  cases call with
  | attach id offer =>
    show Performed r _ (r.attach id offer).1 (r.attach id offer).2
    rcases r.attach_cases id offer with ⟨e, refused, declined⟩ | ⟨r', accepted, fills, -⟩
    · rw [refused]
      exact .refused e declined
    · rw [accepted]
      exact .filled rfl fills.room fills
  | addDatagram id channel =>
    show Performed r _ (r.attachIndexed id _).1 (r.attachIndexed id _).2
    rcases r.attachIndexed_cases id (.datagram channel) with
      ⟨e, refused, declined⟩ | ⟨r', accepted, active, fills⟩
    · rw [refused]
      exact .refused e declined
    · rw [accepted]
      exact .filled rfl ⟨active, fills.room⟩ fills
  | addTunnel id channel =>
    unfold perform
    cases enabled : r.settings.tunnelEnabled with
    | false =>
      -- the session is not even looked at
      exact .refused _ fun admitted => by simp [Admits, enabled] at admitted
    | true =>
      simp only [Bool.not_true, Bool.false_eq_true, if_false]
      rcases r.attachIndexed_cases id (.tunnel channel) with
        ⟨e, refused, declined⟩ | ⟨r', accepted, active, fills⟩
      · rw [refused]
        exact .refused e fun admitted => declined admitted.2
      · rw [accepted]
        exact .filled rfl ⟨enabled, active, fills.room⟩ fills
  | enter s => exact .entered s
  | close id reason => exact .closed id reason

/-! ## Runs -/

/-- What a slot of a session holds; there is nothing in a session that is not there. -/
def held? (r : Roster) (id : SessionId) (slot : Slot) : Option Attachable :=
  (r.session? id).bind (·.held? slot)

/-- The roster after calls in order. -/
def after (r : Roster) (calls : List AttachmentCall) : Roster :=
  calls.foldl (fun r call => (r.perform call).2) r

/-- All that calls put into a slot, going by their answers, in order. -/
def accepted (id : SessionId) (slot : Slot) : Roster → List AttachmentCall → List Attachable
  | _, [] => []
  | r, call :: rest =>
    (call.puts? (r.perform call).1 id slot).toList ++ accepted id slot (r.perform call).2 rest

/-- One value at most was in a slot or was put into it, and the slot holds that. -/
def HeldOnce (before : Option Attachable) (accepted : List Attachable)
    (after : Option Attachable) : Prop :=
  ∃ value : Option Attachable, before.toList ++ accepted = value.toList ∧ SameHeld value after

theorem HeldOnce.unchanged {before : Option Attachable} : HeldOnce before [] before :=
  ⟨before, List.append_nil _, .inl rfl⟩

theorem held?_of_eq (same : r'.session? id = r.session? id) (slot : Slot) :
    r'.held? id slot = r.held? id slot := by
  unfold held?
  rw [same]

theorem Fills.heldOnce (fills : r.Fills id offer r') (slot : Slot) :
    HeldOnce (r.held? id slot) (if offer.slot = slot then [offer] else []) (r'.held? id slot) := by
  obtain ⟨s, hs, suits, free⟩ := fills.room
  have receives := Session.receives_place suits free
  have before : r.held? id slot = s.held? slot := by simp [held?, hs]
  have now : r'.held? id slot = (s.place offer).held? slot := by simp [held?, fills.self, hs]
  rw [before, now]
  split
  case isTrue own =>
    subst own
    rw [free, receives.filled]
    exact ⟨some offer, rfl, .inl rfl⟩
  case isFalse differs =>
    rw [receives.others slot (Ne.symm differs)]
    exact .unchanged

/-- One call puts something into an empty slot, or closes what is there, or leaves it alone. -/
theorem Performed.heldOnce {call : AttachmentCall} {answer : Except NetError Unit}
    (performed : Performed r call answer r') (id : SessionId) (slot : Slot) :
    HeldOnce (r.held? id slot) (call.puts? answer id slot).toList (r'.held? id slot) := by
  cases performed with
  | refused e declined => exact .unchanged
  | @filled _ target offer _ offers admits fills =>
    unfold AttachmentCall.puts?
    simp only [offers]
    by_cases here : target = id
    · subst here
      have once := fills.heldOnce slot
      by_cases own : offer.slot = slot <;> simpa [own] using once
    · rw [held?_of_eq (fills.others id (Ne.symm here))]
      simpa [here] using .unchanged
  | entered s =>
    have found : (r.add s.bare).2.session? id =
        if id = r.sessions.length then some s.bare else r.session? id := session?_of_append rfl id
    have same : (r.add s.bare).2.held? id slot = r.held? id slot := by
      unfold held?
      rw [found]
      split
      · rename_i new
        have absent : r.session? id = none := by simp [session?, new]
        simp [absent, s.held?_bare slot]
      · rfl
    rw [same]
    exact .unchanged
  | closed target reason =>
    refine ⟨r.held? id slot, List.append_nil _, ?_⟩
    by_cases here : id = target
    · subst here
      unfold held?
      rw [session?_close_self]
      cases r.session? id with
      | none => exact .inl rfl
      | some s =>
        -- a session that was closed before is left alone
        cases active : s.isActive with
        | false => exact .inl (by simp [active])
        | true => exact .inr (by simp [active, s.held?_tearDown reason slot])
    · exact .inl (held?_of_eq (session?_close_of_ne here) slot)

theorem HeldOnce.trans {before now after : Option Attachable} {first later : List Attachable}
    (earlier : HeldOnce before first now) (rest : HeldOnce now later after) :
    HeldOnce before (first ++ later) after := by
  obtain ⟨value, earlier, kept⟩ := earlier
  obtain ⟨last, rest, keeps⟩ := rest
  cases value with
  | none =>
    obtain rfl : now = none := kept.eq_none_iff.mpr rfl
    refine ⟨last, ?_, keeps⟩
    rw [← List.append_assoc, earlier]
    exact rest
  | some held =>
    -- the slot is taken by now, so nothing can have been put into it later
    have taken : now ≠ none := fun empty => nomatch kept.eq_none_iff.mp empty
    obtain ⟨own, rfl⟩ := Option.ne_none_iff_exists'.mp taken
    cases last with
    | none => cases rest
    | some other =>
      obtain ⟨rfl, rfl⟩ : own = other ∧ later = [] := by simpa using rest
      refine ⟨some held, ?_, kept.trans keeps⟩
      rw [List.append_nil, earlier]

theorem heldOnce_after (calls : List AttachmentCall) (id : SessionId) (slot : Slot) :
    ∀ r : Roster, HeldOnce (r.held? id slot) (accepted id slot r calls)
      ((r.after calls).held? id slot) := by
  induction calls with
  | nil => exact fun r => .unchanged
  | cons call rest ih =>
    exact fun r => ((r.performed_perform call).heldOnce id slot).trans (ih (r.perform call).2)

/-- In every session the other transports stand beside a stream. -/
def Supported (r : Roster) : Prop := ∀ id s, r.session? id = some s → s.Supported

theorem Performed.supported {call : AttachmentCall} {answer : Except NetError Unit}
    (performed : Performed r call answer r') (supported : r.Supported) : r'.Supported := by
  intro id t ht
  cases performed with
  | refused e declined => exact supported id t ht
  | @filled _ target offer _ offers admits fills =>
    by_cases here : id = target
    · subst here
      obtain ⟨s, hs, suits, free⟩ := fills.room
      rw [fills.self, hs] at ht
      cases ht
      exact (Session.receives_place suits free).supported (supported id s hs)
    · rw [fills.others id here] at ht
      exact supported id t ht
  | entered s =>
    rw [session?_of_append (r := r) (s := s.bare) rfl] at ht
    split at ht
    · cases ht
      exact ⟨nofun, nofun⟩
    · exact supported id t ht
  | closed target reason =>
    by_cases here : id = target
    · subst here
      rw [session?_close_self] at ht
      obtain ⟨s, hs, rfl⟩ := Option.map_eq_some_iff.mp ht
      split
      · exact (supported id s hs).tearDown reason
      · exact supported id s hs
    · rw [session?_close_of_ne here] at ht
      exact supported id t ht

theorem Supported.after (supported : r.Supported) (calls : List AttachmentCall) :
    (r.after calls).Supported := by
  induction calls generalizing r with
  | nil => exact supported
  | cons call rest ih => exact ih ((r.performed_perform call).supported supported)

/--
In every run of calls a slot takes one value at most: the one it held at first, or else the first
that is accepted, and it holds that to the end, closed perhaps. Secondary transports stand beside a
stream, and no datagram path has the id zero. A call is accepted exactly if the session is there, is
of the right kind and has room, and through the manager only if it is active; otherwise the call
fails and leaves the sessions and the indexes as they were.
-/
theorem attachments_writeOnce (supported : r.Supported) (calls : List AttachmentCall) :
    (∀ id slot, ∃ value : Option Attachable,
      (r.held? id slot).toList ++ accepted id slot r calls = value.toList ∧
        ((r.after calls).held? id slot = value ∨
          (r.after calls).held? id slot = value.map Attachable.close)) ∧
    (∀ id s, (r.after calls).session? id = some s →
      (s.tunnel?.isSome = true → s.transport.kind = .tcp) ∧
      ∀ channel, s.datagram? = some channel →
        s.transport.kind = .tcp ∧ channel.conveyance ≠ 0) ∧
    ∀ call, (((r.after calls).perform call).1 = .ok () ↔ (r.after calls).Admits call) ∧
      ∀ e, ((r.after calls).perform call).1 = .error e →
        ((r.after calls).perform call).2 = r.after calls := by
  refine ⟨fun id slot => heldOnce_after calls id slot r, ?_, ?_⟩
  · intro id s hs
    have here := supported.after calls id s hs
    refine ⟨fun present => ?_, here.datagram⟩
    obtain ⟨channel, present⟩ := Option.isSome_iff_exists.mp present
    exact here.tunnel channel present
  · intro call
    have performed := (r.after calls).performed_perform call
    generalize (r.after calls).perform call = result at performed
    obtain ⟨answer, left⟩ := result
    cases performed with
    | refused e declined => exact ⟨by simpa using declined, fun _ _ => rfl⟩
    | filled offers admits fills => exact ⟨by simpa using admits, nofun⟩
    | entered s => exact ⟨by simp [Admits], nofun⟩
    | closed id reason => exact ⟨by simp [Admits], nofun⟩

/-- A roster without sessions, whose sessions may have tunnels. -/
def tunneling : Roster := { settings := { tunnelEnabled := true } }

/-- A session is given every transport twice, some too early, and is closed in between. -/
def eagerCalls : List AttachmentCall :=
  [.enter { tunneling.freshSession none 0 with isActive := true },
    .addDatagram 0 (.mk 1 5), .attach 0 (.socket {}), .attach 0 (.webSocket {}),
    .addDatagram 0 (.mk 1 0), .addDatagram 0 (.mk 1 5), .attach 0 (.datagram (.mk 2 6)),
    .close 0 .administrative, .addTunnel 0 ⟨9, {}⟩, .attach 0 (.tunnel ⟨9, {}⟩)]

theorem attachments_writeOnce_eager :
    tunneling.Supported ∧
      (∀ id slot, ∃ value : Option Attachable,
        (tunneling.held? id slot).toList ++ accepted id slot tunneling eagerCalls = value.toList ∧
          ((tunneling.after eagerCalls).held? id slot = value ∨
            (tunneling.after eagerCalls).held? id slot = value.map Attachable.close)) ∧
      accepted 0 .primary tunneling eagerCalls = [.socket {}] ∧
      accepted 0 .datagram tunneling eagerCalls = [.datagram (.mk 1 5)] ∧
      accepted 0 .tunnel tunneling eagerCalls = [.tunnel ⟨9, {}⟩] ∧
      (tunneling.after eagerCalls).held? 0 .primary = some (.socket { shut := true }) := by
  have supported : tunneling.Supported := fun _ _ hs => nomatch List.getElem?_nil.symm.trans hs
  exact ⟨supported, (attachments_writeOnce supported eagerCalls).1, by decide +kernel,
    by decide +kernel, by decide +kernel, by decide +kernel⟩

end Roster

end SessionNet
