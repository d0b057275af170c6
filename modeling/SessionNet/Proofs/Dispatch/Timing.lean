import SessionNet.Proofs.Dispatch.Lockstep
import SessionNet.Proofs.Server.Aftermath

/-!
# When messages are read and when they are processed

A message is a connection request or a session message depending on how far its session has come
when the message is read, and has its effect when it is processed. In between, other messages of the
session may be processed. All the same, the events about the session do not depend on this timing:
they are those of the server that processes each message when it is read, as connection requests,
and then tells of the end of the session if it was closed.
-/

namespace SessionNet

/-- The reader reads a message of a session, or the shard of the session takes a turn. -/
inductive Pace where
  | read (message : Message) (transport : TransportKind)
  | turn

/-- The message that is read. -/
def Pace.message? : Pace → Option (Message × TransportKind)
  | .read message transport => some (message, transport)
  | .turn => none

/-- Each message is processed right after it is read. -/
def Pace.promptly (messages : List (Message × TransportKind)) : List Pace :=
  messages.flatMap fun m => [.read m.1 m.2, .turn]

/-- All messages are read before the first is processed. -/
def Pace.inBulk (messages : List (Message × TransportKind)) : List Pace :=
  messages.map fun m => .read m.1 m.2

/-- The message that a request is about. -/
def Request.message? : Request → Option (Message × TransportKind)
  | ⟨_, .connectionRequest message, transport⟩ => some (message, transport)
  | ⟨_, .sessionMessage message, transport⟩ => some (message, transport)
  | _ => none

namespace Pace

theorem messages_promptly (messages : List (Message × TransportKind)) :
    (promptly messages).filterMap message? = messages := by
  induction messages with
  | nil => rfl
  | cons m rest ih => exact congrArg (m :: ·) ih

theorem messages_inBulk (messages : List (Message × TransportKind)) :
    (inBulk messages).filterMap message? = messages := by
  induction messages with
  | nil => rfl
  | cons m rest ih => exact congrArg (m :: ·) ih

theorem messages_turns (turns : Nat) : (List.replicate turns turn).filterMap message? = [] := by
  induction turns with
  | zero => rfl
  | succ turns ih => exact ih

end Pace

namespace Server

/-- The server after a message was read, or after a turn. -/
def pace (id : SessionId) (srv : Server) : Pace → Server
  | .read message transport => (srv.submit id message transport).1
  | .turn => srv.shardStep (srv.dispatcher.shardOf (.session id))

def paceAll (srv : Server) (id : SessionId) (paces : List Pace) : Server :=
  paces.foldl (pace id) srv

/-- Whether no message that is read is refused. -/
def accepts (srv : Server) (id : SessionId) : List Pace → Bool
  | [] => true
  | .turn :: rest => (srv.pace id .turn).accepts id rest
  | .read message transport :: rest =>
    (srv.submit id message transport).2.isOk &&
      (srv.pace id (.read message transport)).accepts id rest

/-- Messages of a session are processed one after the other, without waiting anywhere. -/
def processEach (srv : Server) (id : SessionId)
    (messages : List (Message × TransportKind)) : Server :=
  messages.foldl (fun srv m => srv.process ⟨.session id, .connectionRequest m.1, m.2⟩) srv

/-- The events about a session, with the end that is still to be announced. -/
def story (srv : Server) (id : SessionId) : List ServerEvent :=
  srv.eventsOf id ++ (srv.dispatcher.farewells id).map fun closing =>
    .sessionWillBeClosed id (srv.roster.bearing? id) closing.2

variable {srv srv' c cur : Server} {id : SessionId} {request : Request}
variable {message : Message} {transport : TransportKind} {todo : List (Message × TransportKind)}

/-! ## What waits while messages are read -/

/-- What may wait on the shard of a session while only its messages are read. -/
inductive Due (id : SessionId) (r : Roster) : Request → Prop
  | request (message : Message) (transport : TransportKind) :
      Due id r ⟨.session id, .connectionRequest message, transport⟩
  /-- A session message was read after the association, which stays. -/
  | message (message : Message) (transport : TransportKind)
      (done : r.association? id = some .done) :
      Due id r ⟨.session id, .sessionMessage message, transport⟩
  | notice {other : SessionId} (reason : CloseReason) (transport : TransportKind)
      (closed : r.isActive other = false) :
      Due id r ⟨.session other, .sessionClosed reason, transport⟩

theorem Due.kept (due : Due id srv.roster request) (kept : Kept srv srv') :
    Due id srv'.roster request := by
  cases due with
  | request message transport => exact .request message transport
  | message message transport done => exact .message message transport (kept.done done)
  | @notice other reason transport closed =>
    refine .notice reason transport ?_
    have related := kept.standing other
    rw [Roster.isActive_eq_standing] at closed ⊢
    generalize srv.roster.standing? other = s at related closed
    generalize srv'.roster.standing? other = t at related ⊢
    cases related with
    | none => rfl
    | some here => exact here.closed closed

/-- No end of an open session waits to be announced. -/
theorem farewells_of_active (due : ∀ request ∈ srv.dispatcher.waiting id, Due id srv.roster request)
    (active : srv.roster.isActive id = true) : srv.dispatcher.farewells id = [] := by
  refine List.filter_eq_nil_iff.mpr fun closing member own => ?_
  obtain ⟨request, waits, ending⟩ := List.mem_filterMap.mp member
  cases due request waits with
  | request message transport => cases ending
  | message message transport done => cases ending
  | @notice other reason transport closed =>
    obtain rfl : (other, reason) = closing := Option.some.inj ending
    obtain rfl : other = id := by simpa using own
    exact absurd (closed.symm.trans active) Bool.false_ne_true

/-- Whatever is processed, the notices of sessions that are closed by then are all that is added. -/
theorem due_process (driven : srv.handlers.EventDriven) (nonempty : 0 < srv.dispatcher.shards.length)
    (due : ∀ request ∈ srv.dispatcher.waiting id, Due id srv.roster request) (request : Request) :
    (∀ waiting ∈ (srv.process request).dispatcher.waiting id,
      Due id (srv.process request).roster waiting) ∧
    ((srv.process request).dispatcher.waiting id).filterMap Request.message? =
      (srv.dispatcher.waiting id).filterMap Request.message? := by
  obtain ⟨new, closes, added⟩ := exists_closes_process srv request
  obtain ⟨notices, waits, -, told⟩ := waiting_of_told nonempty added id
  have kept : Kept srv (srv.process request) := .process driven.confined request
  constructor
  · intro waiting member
    rw [waits] at member
    obtain old | added := List.mem_append.mp member
    · exact (due waiting old).kept kept
    · obtain ⟨closing, here, rfl⟩ := told waiting added
      exact .notice _ _ (closes.closed closing here)
  · have none : notices.filterMap Request.message? = [] := by
      refine List.filterMap_eq_nil_iff.mpr fun notice member => ?_
      obtain ⟨closing, -, rfl⟩ := told notice member
      rfl
    rw [waits, List.filterMap_append, none, List.append_nil]

/-- Servers that recorded the same before and after have closed the same in between. -/
theorem Alike.closes_eq {a b a' b' : Server} {new new' : List (SessionId × CloseReason)}
    (before : Alike a b) (after : Alike a' b') (closes : Closes a a' new)
    (closes' : Closes b b' new') : new = new' := by
  have same := after.closings
  rw [closes.closings, closes'.closings, before.closings] at same
  exact List.append_cancel_left same

/-! ## With and without waiting -/

/--
A server with messages of a session still to be processed is as far as the one that processed the
others without waiting: the same has come of them, but for the end of the session, which the one has
perhaps announced while the other keeps the notice of it.
-/
structure Follows (id : SessionId) (todo : List (Message × TransportKind))
    (c cur : Server) : Prop where
  alike : Alike c cur
  nonempty : 0 < c.dispatcher.shards.length ∧ 0 < cur.dispatcher.shards.length
  listening : c.isListening = cur.isListening
  due : ∀ request ∈ cur.dispatcher.waiting id, Due id cur.roster request
  todo : (cur.dispatcher.waiting id).filterMap Request.message? = todo
  story : c.story id = cur.story id
  unclosed : c.roster.isActive id = true → c.dispatcher.farewells id = []

namespace Follows

/-- A server is as far as it is itself, with the messages that wait still to be processed. -/
theorem start (driven : srv.handlers.EventDriven) (nonempty : 0 < srv.dispatcher.shards.length)
    (due : ∀ request ∈ srv.dispatcher.waiting id, Due id srv.roster request) :
    Follows id ((srv.dispatcher.waiting id).filterMap Request.message?) srv srv where
  alike := ⟨.refl _, rfl, ⟨driven, driven⟩, fun _ => rfl, rfl⟩
  nonempty := ⟨nonempty, nonempty⟩
  listening := rfl
  due := due
  todo := rfl
  story := rfl
  unclosed := farewells_of_active due

theorem isListening_process (srv : Server) (request : Request) :
    (srv.process request).isListening = srv.isListening := by
  have reports := Reports.process srv request
  rw [isListening, reports.notifies, reports.phase, isListening]

/-- The same message is processed by both, and closes the same sessions. -/
theorem process (follows : Follows id todo c cur) (message : Message) (transport : TransportKind) :
    Follows id todo (c.process ⟨.session id, .connectionRequest message, transport⟩)
      (cur.process ⟨.session id, .connectionRequest message, transport⟩) := by
  cases active : c.roster.isActive id with
  | false =>
    have inactive : cur.roster.isActive id = false :=
      (follows.alike.roster.isActive id).symm.trans active
    rw [process_of_inactive active (.inl rfl), process_of_inactive inactive (.inl rfl)]
    exact follows
  | true =>
    have active' : cur.roster.isActive id = true :=
      (follows.alike.roster.isActive id).symm.trans active
    -- the session is open, so both have told all of its story so far
    have silent := follows.unclosed active
    have silent' := farewells_of_active follows.due active'
    have events : c.eventsOf id = cur.eventsOf id := by
      have same := follows.story
      rwa [Server.story, silent, Server.story, silent', List.map_nil, List.append_nil,
        List.map_nil, List.append_nil] at same
    have abreast : Abreast id c cur := ⟨follows.alike, events⟩
    have after := abreast.process active message transport
    have listening := isListening_process c ⟨.session id, .connectionRequest message, transport⟩
    have listening' := isListening_process cur ⟨.session id, .connectionRequest message, transport⟩
    have kept : Kept c (c.process ⟨.session id, .connectionRequest message, transport⟩) :=
      .process abreast.driven.1.confined _
    have kept' : Kept cur (cur.process ⟨.session id, .connectionRequest message, transport⟩) :=
      .process abreast.driven.2.confined _
    obtain ⟨due, todo⟩ := due_process abreast.driven.2 follows.nonempty.2 follows.due
      ⟨.session id, .connectionRequest message, transport⟩
    obtain ⟨new, closes, added⟩ :=
      exists_closes_process c ⟨.session id, .connectionRequest message, transport⟩
    obtain ⟨new', closes', added'⟩ :=
      exists_closes_process cur ⟨.session id, .connectionRequest message, transport⟩
    obtain rfl : new = new' := follows.alike.closes_eq after.toAlike closes closes'
    generalize c.process ⟨.session id, .connectionRequest message, transport⟩ = d at *
    generalize cur.process ⟨.session id, .connectionRequest message, transport⟩ = next at *
    have farewells : d.dispatcher.farewells id = next.dispatcher.farewells id := by
      rw [farewells_of_told follows.nonempty.1 added, farewells_of_told follows.nonempty.2 added',
        silent, silent', follows.listening]
    refine ⟨after.toAlike, ?_, ?_, due, ?_, ?_, ?_⟩
    · rw [kept.shards, kept'.shards]
      exact follows.nonempty
    · rw [listening, listening', follows.listening]
    · rw [todo, follows.todo]
    · rw [Server.story, after.events, farewells, after.roster.bearing?, Server.story]
    · intro still
      rw [farewells]
      exact farewells_of_active due ((after.roster.isActive id).symm.trans still)

/-! ### Turns -/

section Turn

variable {queued : Queued} {dispatcher : Dispatcher}

/-- What is taken off the shard of a session is the first request that waits there. -/
theorem waiting_taken
    (taken : srv.dispatcher.takeFrom (srv.dispatcher.shardOf (.session id)) =
      some (queued, dispatcher)) :
    srv.dispatcher.waiting id = queued.request :: dispatcher.waiting id := by
  rw [Dispatcher.waiting_takeFrom taken, if_pos rfl]

/-- Other requests can be on the shards, and the shards otherwise in use. -/
theorem dispatch (follows : Follows id todo c cur)
    (length : dispatcher.shards.length = cur.dispatcher.shards.length)
    (phase : dispatcher.phase = cur.dispatcher.phase)
    (due : ∀ request ∈ dispatcher.waiting id, Due id cur.roster request)
    (farewells : dispatcher.farewells id = cur.dispatcher.farewells id) :
    Follows id ((dispatcher.waiting id).filterMap Request.message?) c { cur with dispatcher } where
  alike := ⟨follows.alike.roster, follows.alike.reconnection, follows.alike.driven,
    follows.alike.responses, follows.alike.closings⟩
  nonempty := ⟨follows.nonempty.1, length ▸ follows.nonempty.2⟩
  listening := by
    rw [follows.listening, isListening, isListening, phase]
  due := due
  todo := rfl
  story := by
    rw [follows.story, Server.story, Server.story, farewells]
    rfl
  unclosed := follows.unclosed

theorem finish (follows : Follows id todo c cur) (shard : Nat) (queued : Queued) :
    Follows id todo c { cur with dispatcher := cur.dispatcher.finish shard queued } := by
  have waits : (cur.dispatcher.finish shard queued).waiting id = cur.dispatcher.waiting id :=
    Dispatcher.waiting_finish
  have finished : Follows id
      (((cur.dispatcher.finish shard queued).waiting id).filterMap Request.message?) c
      { cur with dispatcher := cur.dispatcher.finish shard queued } :=
    follows.dispatch (List.length_modify _ _ _) rfl (waits ▸ follows.due)
      Dispatcher.farewells_finish
  rwa [waits, follows.todo] at finished

theorem farewells_taken
    (taken : srv.dispatcher.takeFrom (srv.dispatcher.shardOf (.session id)) =
      some (queued, dispatcher)) :
    srv.dispatcher.farewells id =
      queued.request.ending?.toList.filter (·.1 == id) ++ dispatcher.farewells id := by
  rw [Dispatcher.farewells, waiting_taken taken]
  cases ending : queued.request.ending? with
  | none =>
    rw [List.filterMap_cons_none ending]
    rfl
  | some closing =>
    rw [List.filterMap_cons_some ending, ← List.singleton_append, List.filter_append]
    rfl

section Take

variable (follows : Follows id todo c cur)
  (taken : cur.dispatcher.takeFrom (cur.dispatcher.shardOf (.session id)) =
    some (queued, dispatcher))
include follows taken

/-- A message that is taken is no longer to be processed. -/
theorem take (asks : queued.request.message? = some (message, transport)) :
    ∃ rest, todo = (message, transport) :: rest ∧ Follows id rest c { cur with dispatcher } := by
  obtain ⟨length, -, phase⟩ := Dispatcher.frame_takeFrom taken
  have waits : cur.dispatcher.waiting id = _ := waiting_taken taken
  have silent : queued.request.ending? = none := by
    generalize queued.request = request at asks ⊢
    rcases request with ⟨_ | _, _ | _ | _ | _, _⟩ <;> first | rfl | cases asks
  refine ⟨_, ?_, follows.dispatch length phase (fun request member => ?_) ?_⟩
  · rw [← follows.todo, waits, List.filterMap_cons_some asks]
  · exact follows.due request (waits ▸ List.mem_cons_of_mem _ member)
  · rw [farewells_taken taken, silent]
    rfl

/-- The notice of an end is announced, if it is that of the session, and changes nothing else. -/
theorem announce {other : SessionId} {reason : CloseReason}
    (tells : queued.request = ⟨.session other, .sessionClosed reason, transport⟩)
    (closed : cur.roster.isActive other = false) :
    Follows id todo c (({ cur with dispatcher } : Server).process queued.request) := by
  obtain ⟨length, -, phase⟩ := Dispatcher.frame_takeFrom taken
  have waits : cur.dispatcher.waiting id = _ := waiting_taken taken
  let before : Server := { cur with dispatcher }
  have driven : before.handlers.EventDriven := follows.alike.driven.2
  have inactive : before.roster.isActive other = false := closed
  have kept : Kept before (before.process queued.request) := .process driven.confined _
  have listening := isListening_process before queued.request
  obtain ⟨new, closes, added⟩ := exists_closes_process before queued.request
  rw [tells] at kept listening closes added ⊢
  obtain ⟨alike, events⟩ := process_notice driven inactive id reason transport
  generalize before.process ⟨.session other, .sessionClosed reason, transport⟩ = after at *
  -- nothing is closed, so nothing is added to the queue
  have nothing : new = [] := by
    have same := closes.closings.symm.trans alike.closings.symm
    simpa using same
  have same : after.dispatcher = dispatcher := by
    rw [added, nothing, told]
    split <;> rfl
  refine ⟨?_, ?_, ?_, ?_, ?_, ?_, follows.unclosed⟩
  · refine Alike.trans ?_ alike
    exact ⟨follows.alike.roster, follows.alike.reconnection, follows.alike.driven,
      follows.alike.responses, follows.alike.closings⟩
  · rw [same, length]
    exact follows.nonempty
  · rw [listening, follows.listening, isListening, isListening]
    exact congrArg (cur.notifiesDispatcher && · != .stopped) phase.symm
  · intro request member
    rw [same] at member
    have earlier : Due id before.roster request :=
      follows.due request (waits ▸ List.mem_cons_of_mem _ member)
    exact earlier.kept kept
  · rw [same, ← follows.todo, waits, tells]
    rfl
  · rw [follows.story, Server.story, Server.story, farewells_taken taken, same, tells, events,
      ← alike.roster.bearing?, List.map_append, ← List.append_assoc]
    by_cases own : other = id
    · subst own
      simp [Request.ending?]
      rfl
    · simp [Request.ending?, own]
      rfl

end Take

/-- With a turn of the shard a message is processed, or the end of a session is announced. -/
theorem turn (follows : Follows id todo c cur) :
    Follows id todo c (cur.pace id .turn) ∨
      ∃ message transport rest, todo = (message, transport) :: rest ∧
        Follows id rest (c.process ⟨.session id, .connectionRequest message, transport⟩)
          (cur.pace id .turn) := by
  unfold pace
  dsimp only
  obtain idle | ⟨queued, dispatcher, after, taken, rfl, heq⟩ :=
    shardStep_cases cur (cur.dispatcher.shardOf (.session id))
  · rw [idle]
    exact .inl follows
  · have head : queued.request ∈ cur.dispatcher.waiting id := by
      rw [waiting_taken taken]
      exact List.mem_cons_self
    have due := follows.due _ head
    rw [heq]
    generalize asked : queued.request = request at due ⊢
    cases due with
    | request message transport =>
      obtain ⟨rest, split, next⟩ := follows.take taken (by rw [asked]; rfl)
      exact .inr ⟨message, transport, rest, split, (next.process message transport).finish _ _⟩
    | message message transport done =>
      obtain ⟨rest, split, next⟩ := follows.take taken (by rw [asked]; rfl)
      have done' : ({ cur with dispatcher } : Server).roster.association? id = some .done := done
      rw [process_sessionMessage done']
      exact .inr ⟨message, transport, rest, split, (next.process message transport).finish _ _⟩
    | notice reason transport closed =>
      have announced := follows.announce taken asked closed
      rw [asked] at announced
      exact .inl (announced.finish _ _)

end Turn

/-! ### Reading -/

/-- A message that is accepted is counted and at the end of the queue. -/
theorem submit_eq_ok (accepted : (srv.submit id message transport).2.isOk = true) :
    ∃ s dispatcher, srv.session? id = some s ∧
      srv.dispatcher.push ⟨.session id, requestKind s.association message, transport⟩ true =
        .ok dispatcher ∧
      (srv.submit id message transport).1 =
        { srv.update id Session.recordMessage with dispatcher } := by
  unfold submit at accepted ⊢
  cases hs : srv.session? id with
  | none =>
    rw [hs] at accepted
    cases accepted
  | some s =>
    rw [hs] at accepted
    cases pushed : (srv.update id Session.recordMessage).dispatcher.enqueue
        ⟨.session id, requestKind s.association message, transport⟩ with
    | error e =>
      simp only [pushed] at accepted
      split at accepted <;> cases accepted
    | ok dispatcher => exact ⟨s, dispatcher, rfl, pushed, by simp only [pushed]⟩

theorem counted (follows : Follows id todo c cur) :
    Follows id todo c (cur.update id Session.recordMessage) := by
  have same : SameStanding cur (cur.update id Session.recordMessage) :=
    sameStanding_update cur id fun _ => rfl
  have roster : cur.roster.Matches (cur.roster.update id Session.recordMessage) := by
    refine ⟨fun other => ?_, rfl, rfl, rfl⟩
    have kept : (cur.roster.update id Session.recordMessage).standing? other = _ :=
      same.standing other
    rw [kept]
    exact rel_refl .refl _
  refine ⟨follows.alike.trans ?_, follows.nonempty, follows.listening, ?_, follows.todo, ?_,
    follows.unclosed⟩
  · exact ⟨roster, rfl, ⟨follows.alike.driven.2, follows.alike.driven.2⟩, fun _ => rfl, rfl⟩
  · exact fun request member => (follows.due request member).kept (.of_sameStanding same)
  · rw [follows.story, Server.story, roster.bearing?]
    rfl

/-- A message that is read is to be processed, whatever it is taken for. -/
theorem read (follows : Follows id todo c cur)
    (accepted : (cur.submit id message transport).2.isOk = true) :
    Follows id (todo ++ [(message, transport)]) c (cur.pace id (.read message transport)) := by
  obtain ⟨s, dispatcher, hs, pushed, heq⟩ := submit_eq_ok accepted
  have counted := follows.counted
  let request : Request := ⟨.session id, requestKind s.association message, transport⟩
  have asks : request.message? = some (message, transport) ∧ request.ending? = none := by
    simp only [request, requestKind]
    split <;> exact ⟨rfl, rfl⟩
  have due : Due id cur.roster request := by
    simp only [request, requestKind]
    split
    · rename_i done
      have present : cur.roster.session? id = some s := hs
      refine .message message transport ?_
      rw [Roster.association?, present, Option.map_some, done]
    · exact .request message transport
  have waits : dispatcher.waiting id = cur.dispatcher.waiting id ++ [request] := by
    rw [Dispatcher.waiting_push follows.nonempty.2 pushed, if_pos rfl]
  have farewells : dispatcher.farewells id = cur.dispatcher.farewells id := by
    have grown : dispatcher.farewells id = _ :=
      Dispatcher.farewells_push follows.nonempty.2 pushed
    rw [grown, show request.ending? = none from asks.2]
    exact List.append_nil _
  obtain ⟨-, appended⟩ := Dispatcher.push_eq_ok pushed
  have next : Follows id ((dispatcher.waiting id).filterMap Request.message?) c
      { cur.update id Session.recordMessage with dispatcher } := by
    refine counted.dispatch ?_ ?_ ?_ farewells
    · rw [appended]
      exact List.length_modify _ _ _
    · rw [appended]
      rfl
    · intro waiting member
      have kept : Kept cur (cur.update id Session.recordMessage) :=
        .of_sameStanding (sameStanding_update cur id fun _ => rfl)
      rw [waits] at member
      obtain old | new := List.mem_append.mp member
      · exact (follows.due waiting old).kept kept
      · rw [List.mem_singleton.mp new]
        exact due.kept kept
  rw [waits, List.filterMap_append, follows.todo, List.filterMap_cons_some asks.1,
    List.filterMap_nil] at next
  unfold pace
  dsimp only
  rw [heq]
  exact next

/-! ### Runs -/

/-- However far the shard is behind, what it has processed has come to the same. -/
theorem paceAll {paces : List Pace} (follows : Follows id todo c cur)
    (accepted : cur.accepts id paces = true) :
    ∃ done rest, todo ++ paces.filterMap Pace.message? = done ++ rest ∧
      Follows id rest (c.processEach id done) (cur.paceAll id paces) := by
  -- by induction on the paces, whatever was processed before and whatever is still to do
  induction paces generalizing todo c cur with
  | nil => exact ⟨[], todo, List.append_nil _, follows⟩
  | cons pace others ih =>
    cases pace with
    | read message transport =>
      obtain ⟨first, others⟩ := Bool.and_eq_true_iff.mp accepted
      obtain ⟨done, rest, split, last⟩ := ih (follows.read first) others
      refine ⟨done, rest, ?_, last⟩
      rw [← split, List.append_assoc]
      rfl
    | turn =>
      obtain next | ⟨message, transport, rest, rfl, next⟩ := follows.turn
      · exact ih next accepted
      · obtain ⟨done, rest', split, last⟩ := ih next accepted
        refine ⟨(message, transport) :: done, rest', ?_, last⟩
        rw [List.cons_append, List.cons_append, ← split]
        rfl

end Follows

/-- Once nothing waits for a session, its story is told. -/
theorem story_of_idle (idle : srv.dispatcher.waiting id = []) : srv.story id = srv.eventsOf id := by
  have silent : srv.dispatcher.farewells id = [] := by
    rw [Dispatcher.farewells, idle]
    rfl
  rw [story, silent, List.map_nil, List.append_nil]

/-- The events about a session are those of its messages, whenever they were read and processed. -/
theorem eventsOf_paceAll (driven : srv.handlers.EventDriven)
    (nonempty : 0 < srv.dispatcher.shards.length)
    (due : ∀ request ∈ srv.dispatcher.waiting id, Due id srv.roster request)
    {paces : List Pace} (accepted : srv.accepts id paces = true)
    (drained : (srv.paceAll id paces).dispatcher.waiting id = []) :
    (srv.paceAll id paces).eventsOf id =
      (srv.processEach id ((srv.dispatcher.waiting id).filterMap Request.message? ++
        paces.filterMap Pace.message?)).story id := by
  obtain ⟨done, rest, split, follows⟩ := (Follows.start driven nonempty due).paceAll accepted
  have nothing : rest = [] := by
    rw [← follows.todo, drained, List.filterMap_nil]
  rw [nothing, List.append_nil] at split
  rw [← story_of_idle drained, ← follows.story, split]

/-! ## Until nothing waits -/

/-- What the shard of a session may still have to do: each closing adds one notice at most. -/
def work (srv : Server) (id : SessionId) : Nat :=
  (srv.dispatcher.waiting id).length + srv.roster.openCount

theorem work_turn (id : SessionId) (nonempty : 0 < srv.dispatcher.shards.length) :
    0 < (srv.pace id .turn).dispatcher.shards.length ∧
      (srv.dispatcher.waiting id = [] ∨ (srv.pace id .turn).work id < srv.work id) := by
  unfold pace
  dsimp only
  cases taken : srv.dispatcher.takeFrom (srv.dispatcher.shardOf (.session id)) with
  | none =>
    have idle := Dispatcher.takeFrom_eq_none_iff.mp taken
    have same : srv.shardStep (srv.dispatcher.shardOf (.session id)) = srv := by
      unfold shardStep
      rw [taken]
    rw [same]
    refine ⟨nonempty, .inl ?_⟩
    rw [Dispatcher.waiting_eq_queuedOn, idle, List.map_nil]
  | some next =>
    obtain ⟨queued, dispatcher⟩ := next
    let after := ({ srv with dispatcher } : Server).process queued.request
    have stepped : srv.shardStep (srv.dispatcher.shardOf (.session id)) = { after with
        dispatcher := after.dispatcher.finish (srv.dispatcher.shardOf (.session id)) queued } := by
      unfold shardStep
      rw [taken]
    have waits : srv.dispatcher.waiting id = _ := Follows.waiting_taken taken
    have nonempty' : 0 < dispatcher.shards.length :=
      (Dispatcher.frame_takeFrom taken).1 ▸ nonempty
    -- one request has left the queue, and each notice that came is of a session that was open
    obtain ⟨new, closes, added⟩ := exists_closes_process { srv with dispatcher } queued.request
    obtain ⟨notices, grown, few, -⟩ := waiting_of_told nonempty' added id
    have fewer : _ + new.length ≤ srv.roster.openCount := closes.fewer
    rw [stepped]
    refine ⟨?_, .inr ?_⟩
    · rw [Dispatcher.finish, Dispatcher.update, List.length_modify, added,
        Dispatcher.length_appendAll]
      exact nonempty'
    · unfold work
      dsimp only at grown ⊢
      rw [Dispatcher.waiting_finish, grown, waits, List.length_append, List.length_cons]
      have opened : after.roster.openCount + new.length ≤ srv.roster.openCount := fewer
      omega

/-- However much waits, in the end the shard of the session has processed it. -/
theorem exists_idle (id : SessionId) (nonempty : 0 < srv.dispatcher.shards.length) :
    ∃ turns, (srv.paceAll id (List.replicate turns .turn)).dispatcher.waiting id = [] := by
  induction bound : srv.work id using Nat.strongRecOn generalizing srv with
  | ind bound' ih =>
    obtain ⟨nonempty', idle | less⟩ := work_turn id nonempty
    · exact ⟨0, idle⟩
    · obtain ⟨turns, idle⟩ := ih _ (bound ▸ less) nonempty' rfl
      exact ⟨turns + 1, idle⟩

theorem nonempty_pace (nonempty : 0 < srv.dispatcher.shards.length) (pace : Pace) :
    0 < (srv.pace id pace).dispatcher.shards.length := by
  cases pace with
  | turn => exact (work_turn id nonempty).1
  | read message transport =>
    unfold Server.pace submit
    dsimp only
    split
    · exact nonempty
    · split
      · rename_i dispatcher accepted
        obtain ⟨-, appended⟩ := Dispatcher.push_eq_ok accepted
        rw [appended]
        exact Nat.lt_of_lt_of_eq nonempty (List.length_modify _ _ _).symm
      · split <;> exact nonempty

theorem exists_drained (id : SessionId) (nonempty : 0 < srv.dispatcher.shards.length)
    (paces : List Pace) :
    ∃ turns, (srv.paceAll id (paces ++ List.replicate turns .turn)).dispatcher.waiting id = [] := by
  induction paces generalizing srv with
  | nil => exact exists_idle id nonempty
  | cons pace rest ih => exact ih (nonempty_pace nonempty pace)

/-- Nothing is refused while nothing is read. -/
theorem accepts_turns {paces : List Pace} (accepted : srv.accepts id paces = true) (turns : Nat) :
    srv.accepts id (paces ++ List.replicate turns .turn) = true := by
  induction paces generalizing srv with
  | nil =>
    induction turns generalizing srv with
    | zero => rfl
    | succ turns ih =>
      have later : (srv.pace id .turn).accepts id (List.replicate turns .turn) = true := ih rfl
      exact later
  | cons pace rest ih =>
    cases pace with
    | turn =>
      have later : (srv.pace id .turn).accepts id rest = true := accepted
      exact ih later
    | read message transport =>
      obtain ⟨first, others⟩ := Bool.and_eq_true_iff.mp accepted
      exact Bool.and_eq_true_iff.mpr ⟨first, ih others⟩

/-! ## Timing -/

/--
Take handlers whose responses depend on the event alone, and which at most close the session that it
is about; a session on whose shard nothing waits but messages of it and notices of sessions that are
closed; and messages of it that are read and processed, none of them refused, while nothing else is
done. However reading and processing are interleaved, in the end the same events have happened about
the session, and the end comes when its shard has had enough turns. In particular it makes no
difference whether each message is processed right after it is read, so that it may be read as a
session message, or all are read first, as connection requests.
-/
theorem timing_unobservable (srv : Server) (id : SessionId) (driven : srv.handlers.EventDriven)
    (nonempty : 0 < srv.dispatcher.shards.length)
    (due : ∀ request ∈ srv.dispatcher.waiting id, Due id srv.roster request) :
    (∀ paces paces' : List Pace,
      paces.filterMap Pace.message? = paces'.filterMap Pace.message? →
      srv.accepts id paces = true → srv.accepts id paces' = true →
      (srv.paceAll id paces).dispatcher.waiting id = [] →
      (srv.paceAll id paces').dispatcher.waiting id = [] →
      (srv.paceAll id paces).eventsOf id = (srv.paceAll id paces').eventsOf id) ∧
    (∀ paces : List Pace, ∃ turns,
      (srv.paceAll id (paces ++ List.replicate turns .turn)).dispatcher.waiting id = []) ∧
    ∀ messages, srv.accepts id (Pace.promptly messages) = true →
      srv.accepts id (Pace.inBulk messages) = true →
      ∃ turns turns',
        let prompt := srv.paceAll id (Pace.promptly messages ++ List.replicate turns .turn)
        let bulk := srv.paceAll id (Pace.inBulk messages ++ List.replicate turns' .turn)
        prompt.dispatcher.waiting id = [] ∧ bulk.dispatcher.waiting id = [] ∧
          prompt.eventsOf id = bulk.eventsOf id := by
  have equal : ∀ paces paces' : List Pace,
      paces.filterMap Pace.message? = paces'.filterMap Pace.message? →
      srv.accepts id paces = true → srv.accepts id paces' = true →
      (srv.paceAll id paces).dispatcher.waiting id = [] →
      (srv.paceAll id paces').dispatcher.waiting id = [] →
      (srv.paceAll id paces).eventsOf id = (srv.paceAll id paces').eventsOf id := by
    intro paces paces' same accepted accepted' drained drained'
    rw [eventsOf_paceAll driven nonempty due accepted drained,
      eventsOf_paceAll driven nonempty due accepted' drained', same]
  refine ⟨equal, exists_drained id nonempty, fun messages accepted accepted' => ?_⟩
  obtain ⟨turns, drained⟩ := exists_drained id nonempty (Pace.promptly messages)
  obtain ⟨turns', drained'⟩ := exists_drained id nonempty (Pace.inBulk messages)
  refine ⟨turns, turns', drained, drained',
    equal _ _ ?_ (accepts_turns accepted turns) (accepts_turns accepted' turns') drained drained'⟩
  rw [List.filterMap_append, List.filterMap_append, Pace.messages_promptly, Pace.messages_inBulk,
    Pace.messages_turns, Pace.messages_turns]

/-- An unnamed session fails, a named one is "ann"; who is heard of by name is closed. -/
def byName : HandlerTable :=
  let greet : Handler := fun _ event =>
    if event.message?.all (·.entries.isEmpty) then { outcome := .error .panicked }
    else { outcome := .ok (.identity (some "ann")) }
  let hear : Handler := fun _ event =>
    if event.message?.all (·.entries.isEmpty) then {}
    else { actions := event.about?.toList.map (.close · .administrative) }
  (({} : HandlerTable).register .connectionEstablished greet).register .sessionReadMessage hear

theorem byName_eventDriven : byName.EventDriven := by
  intro entry member event kind calls
  simp only [byName, HandlerTable.register, List.mem_cons] at member
  obtain rfl | others := member
  · refine ⟨rfl, fun action performed => ?_⟩
    dsimp only at performed
    split at performed
    · cases performed
    · obtain ⟨id, about, rfl⟩ := List.mem_map.mp performed
      exact ⟨id, .administrative, rfl, Option.mem_toList.mp about⟩
  · obtain ⟨first, -⟩ := List.mem_filter.mp others
    obtain rfl | none := List.mem_cons.mp first
    · refine ⟨rfl, fun action performed => ?_⟩
      dsimp only at performed
      split at performed <;> cases performed
    · cases none

/-- A server with one session. -/
def visited : Server := (blank {} (fun _ => 0) byName).run [.openWebSocket {} .loopback]

/-- The session fails, is associated, is heard, is heard and closed, and is not heard any more. -/
def visits : List (Message × TransportKind) :=
  [{}, ⟨[("name", .null)]⟩, {}, ⟨[("name", .null)]⟩, {}].map (·, .webSocket)

theorem timing_unobservable_visits :
    let prompt := visited.paceAll 0 (Pace.promptly visits ++ [.turn])
    let bulk := visited.paceAll 0 (Pace.inBulk visits ++ List.replicate 6 .turn)
    let third := visited.paceAll 0 ((Pace.promptly visits).take 5)
    let all := visited.paceAll 0 (Pace.inBulk visits)
    prompt.eventsOf 0 = bulk.eventsOf 0 ∧ (prompt.eventsOf 0).length = 8 ∧
      (third.dispatcher.waiting 0).map (·.kind.name) = ["session_message"] ∧
      (all.dispatcher.waiting 0).map (·.kind.name) = List.replicate 5 "connection_request" := by
  have driven : visited.handlers.EventDriven := byName_eventDriven
  have idle : visited.dispatcher.waiting 0 = [] := rfl
  have due : ∀ request ∈ visited.dispatcher.waiting 0, Due 0 visited.roster request := by
    rw [idle]
    nofun
  have equal := (timing_unobservable visited 0 driven (by decide) due).1
    (Pace.promptly visits ++ [.turn]) (Pace.inBulk visits ++ List.replicate 6 .turn) rfl
    (by decide +kernel) (by decide +kernel)
    (List.eq_nil_of_length_eq_zero (by decide +kernel))
    (List.eq_nil_of_length_eq_zero (by decide +kernel))
  exact ⟨equal, by decide +kernel, by decide +kernel, by decide +kernel⟩

end Server

end SessionNet
