import SessionNet.Proofs.Dispatch.EarlyRefusal
import SessionNet.Proofs.Server.Affairs

/-!
# What a request leaves alone

Most of what is done with one session of a roster passes by another one: that one stays as it is,
with all entries that lead to it (`Roster.Alike`), and where each key has one entry it is found as
before (`Roster.Untouched`). If handlers only answer and a request of a session takes no identity
from another one, there are three things that the request can come to (`Outcome`), each of which
passes by all other sessions.
-/

namespace SessionNet

/-! ## Entries of one session -/

section Index

variable {κ : Type} [BEq κ] [LawfulBEq κ]
variable {index index' : List (κ × SessionId)} {key name : κ} {id other : SessionId}

theorem not_mem_of_lookup_eq_none (absent : index.lookup key = none) : (key, id) ∉ index := by
  intro member
  simpa using List.lookup_eq_none_iff.1 absent _ member

theorem lookup_eq_some_iff_of_keys (keys : (index.map Prod.fst).Nodup) :
    index.lookup key = some id ↔ (key, id) ∈ index :=
  ⟨mem_of_lookup, lookup_of_mem keys⟩

/-- Removing an entry of one session, if there is one to remove, keeps those of the others. -/
theorem mem_removal_of_ne (key? : Option κ) (differs : other ≠ id) :
    (name, other) ∈ key?.elim index (removeEntry index · id) ↔ (name, other) ∈ index := by
  cases key? with
  | none => exact .rfl
  | some key =>
    rw [Option.elim_some, mem_removeEntry]
    refine and_iff_left ?_
    rintro ⟨⟩
    exact differs rfl

theorem mem_setEntry_of_ne (differs : other ≠ id) (free : (key, other) ∉ index) :
    (name, other) ∈ setEntry index key id ↔ (name, other) ∈ index := by
  rw [mem_setEntry]
  constructor
  · rintro (⟨⟨⟩⟩ | ⟨member, -⟩)
    · exact absurd rfl differs
    · exact member
  · intro member
    refine .inr ⟨member, ?_⟩
    rintro rfl
    exact free member

end Index

namespace Roster

variable {r r' r'' : Roster} {id other : SessionId} {identity : String}

/-- A session, and all that is found under its number or leads to it, is the same in two rosters. -/
structure Untouched (r r' : Roster) (id : SessionId) : Prop where
  session : r'.session? id = r.session? id
  number : r'.find? id = r.find? id
  conveyance : ∀ key, r'.findConveyance? key = some id ↔ r.findConveyance? key = some id
  tunnel : ∀ key, r'.findTunnel? key = some id ↔ r.findTunnel? key = some id
  identity : ∀ name, r'.findIdentity? name = some id ↔ r.findIdentity? name = some id

/-- A session and the entries that lead to it are the same in two rosters. -/
structure Alike (r r' : Roster) (id : SessionId) : Prop where
  session : r'.session? id = r.session? id
  number : id ∈ r'.registered ↔ id ∈ r.registered
  conveyance : ∀ key, (key, id) ∈ r'.byConveyance ↔ (key, id) ∈ r.byConveyance
  tunnel : ∀ key, (key, id) ∈ r'.byTunnel ↔ (key, id) ∈ r.byTunnel
  identity : ∀ name, (name, id) ∈ r'.byIdentity ↔ (name, id) ∈ r.byIdentity

namespace Alike

theorem refl (r : Roster) (id : SessionId) : Alike r r id :=
  ⟨rfl, .rfl, fun _ => .rfl, fun _ => .rfl, fun _ => .rfl⟩

theorem trans (first : Alike r r' id) (second : Alike r' r'' id) : Alike r r'' id where
  session := second.session.trans first.session
  number := second.number.trans first.number
  conveyance key := (second.conveyance key).trans (first.conveyance key)
  tunnel key := (second.tunnel key).trans (first.tunnel key)
  identity name := (second.identity name).trans (first.identity name)

theorem isActive (alike : Alike r r' id) : r'.isActive id = r.isActive id := by
  rw [Roster.isActive, alike.session, Roster.isActive]

/-- Where each key has one entry, what leads to a session is what finds it. -/
theorem untouched (alike : Alike r r' id) (keyed : r.Keyed) (keyed' : r'.Keyed)
    (names : (r.byIdentity.map Prod.fst).Nodup) (names' : (r'.byIdentity.map Prod.fst).Nodup) :
    Untouched r r' id where
  session := alike.session
  number := by simp only [find?, List.contains_eq_mem, alike.number]
  conveyance key := by
    rw [findConveyance?, lookup_eq_some_iff_of_keys keyed'.conveyance, alike.conveyance,
      ← lookup_eq_some_iff_of_keys keyed.conveyance, findConveyance?]
  tunnel key := by
    rw [findTunnel?, lookup_eq_some_iff_of_keys keyed'.tunnel, alike.tunnel,
      ← lookup_eq_some_iff_of_keys keyed.tunnel, findTunnel?]
  identity name := by
    rw [findIdentity?, lookup_eq_some_iff_of_keys names', alike.identity,
      ← lookup_eq_some_iff_of_keys names, findIdentity?]

end Alike

/-! ## What passes by a session -/

section Passing

variable (differs : other ≠ id)
include differs

theorem alike_update (f : Session → Session) : Alike r (r.update id f) other :=
  ⟨session?_update_of_ne differs, .rfl, fun _ => .rfl, fun _ => .rfl, fun _ => .rfl⟩

theorem alike_transition (source target : AssociationState) :
    Alike r (r.transition id source target).2 other := by
  rw [transition_eq_update]
  exact alike_update differs _

/-- Binding an identity passes by everyone who does not have it. -/
theorem alike_bind (free : (identity, other) ∉ r.byIdentity) :
    Alike r (r.bind identity id) other where
  session := session?_bind_of_ne differs
  number := by rw [registered_bind]
  conveyance _ := by rw [bind_eq]; rfl
  tunnel _ := by rw [bind_eq]; rfl
  identity name := by rw [byIdentity_bind, mem_setEntry_of_ne differs free]

theorem alike_close (managed : ∀ s, r.session? id = some s → s.isManaged = true)
    (reason : CloseReason) : Alike r (r.close id reason).2 other := by
  cases hactive : r.isActive id with
  | false =>
    rw [close_of_not_active hactive]
    exact .refl r other
  | true =>
    obtain ⟨s, hs, active⟩ := isActive_eq_true_iff.1 hactive
    obtain ⟨registered, identities, -⟩ := close_of_managed reason hs active (managed s hs)
    obtain ⟨-, conveyances, tunnels⟩ := close_transports reason hs active (managed s hs)
    refine ⟨session?_close_of_ne differs, ?_, ?_, ?_, ?_⟩
    · simp [registered, differs]
    · intro key
      rw [conveyances, mem_removal_of_ne _ differs]
    · intro key
      rw [tunnels, mem_removal_of_ne _ differs]
    · intro name
      rw [identities]
      cases s.identity? with
      | none => exact .rfl
      | some own =>
        rw [Option.elim_some, removeIdentity]
        split
        · exact mem_removal_of_ne (some own) differs
        · exact .rfl

end Passing

end Roster

namespace Server

variable {start srv : Server} {id other : SessionId} {identity : String} {message : Message}
variable {kind : RequestKind} {reply : EventReply}

/-! ## Closings that are reported -/

theorem closings_heard (srv : Server) (event : ServerEvent) :
    (srv.heard event).closings = srv.closings :=
  (closings_record srv _).trans (List.append_nil _)

theorem closings_begun (srv : Server) (id : SessionId) (message : Message) :
    (srv.begun id message).closings = srv.closings := by
  unfold begun
  dsimp only
  split
  · exact closings_heard _ _
  · rfl

theorem closings_associated (srv : Server) (id : SessionId) (identity : String) :
    (srv.associated id identity).closings = srv.closings := by
  unfold associated
  dsimp only
  split <;> rfl

theorem closings_announced (srv : Server) (id : SessionId) (identity : String) :
    (srv.announced id identity).closings = srv.closings :=
  (closings_heard _ _).trans (closings_associated srv id identity)

/-! ## Requests that take over nothing -/

/-- The identity that a request takes from another session, and that session. -/
def takeover? (srv : Server) (id : SessionId) : RequestKind → Option (String × SessionId)
  | .connectionRequest message =>
    if srv.roster.isActive id ∧ srv.roster.association? id = some .none ∧ srv.reconnection then
      match srv.answer (.reconnectionRequest id message) with
      | .ok reply => reply.identity?.bind fun identity =>
          (srv.liveHolder? identity id).map fun old => (identity, old)
      | .error _ => none
    else none
  | _ => none

/-- What a request of a session comes to if it takes over nothing, by how its handling ends. -/
inductive Outcome (srv : Server) (id : SessionId) (after : Server) :
    Except HandlerFailure Unit → Prop
  | kept {result : Except HandlerFailure Unit} (roster : after.roster = srv.roster)
      (closings : after.closings = srv.closings) : Outcome srv id after result
  /-- An identity that had no entry is bound. -/
  | bound {result : Except HandlerFailure Unit} {identity : String}
      (absent : srv.roster.findIdentity? identity = none)
      (roster : after.roster = ({ (srv.roster.transition id .none .doing).2 with
        boundIdentities := srv.roster.boundIdentities + 1 } : Roster).bind identity id)
      (closings : after.closings = srv.closings) : Outcome srv id after result
  /-- The session is closed because no more identities are admitted; no handler has failed. -/
  | rejected (roster : after.roster = (srv.roster.close id .rejected).2)
      (closings : after.closings = srv.closings ++ [(id, .rejected)]) :
      Outcome srv id after (.ok ())

/-- Between operations no attempt is under way. -/
theorem Discreet.idle (discreet : Discreet start srv) (id : SessionId) :
    srv.roster.association? id ≠ some .doing := by
  intro doing
  cases (discreet.exact.settled.attempt id).1 doing

theorem isReported_of_session {s : Session} (hs : srv.roster.session? id = some s)
    (active : s.isActive = true) (managed : s.isManaged = true) :
    srv.roster.isReported id = true := by
  rw [Roster.isReported, Roster.standing?, hs]
  simp [Session.standing, active, managed]

theorem Discreet.isManaged (discreet : Discreet start srv) {s : Session}
    (hs : srv.roster.session? id = some s) : s.isManaged = true :=
  discreet.exact.live.managed id s.standing (congrArg (Option.map _) hs)

section Attempt

variable (discreet : Discreet start srv) (active : srv.roster.isActive id = true)
  (free : srv.roster.association? id = some .none)

include free in
/-- An attempt that falls back leaves no trace. -/
theorem outcome_fallen {told : Server} {result : Except HandlerFailure Unit}
    (roster : told.roster = (srv.begun id message).roster)
    (closings : told.closings = srv.closings) :
    Outcome srv id (told.transition id .doing .none) result := by
  refine .kept ?_ closings
  change (told.roster.transition id .doing .none).2 = srv.roster
  rw [roster, fallBack_begun free]

include discreet active in
theorem outcome_rejected {told : Server} (fallen : told.roster = srv.roster)
    (closings : told.closings = srv.closings) :
    Outcome srv id (told.close id .rejected).2 (.ok ()) := by
  refine .rejected ?_ ?_
  · rw [roster_close, fallen]
  · obtain ⟨s, hs, isActive⟩ := Roster.isActive_eq_true_iff.1 active
    have reported := isReported_of_session hs isActive (discreet.isManaged hs)
    rw [closings_close, fallen, closings, if_pos reported]

include discreet active free

theorem outcome_refuse (message : Message) :
    Outcome srv id (contain id ((srv.begun id message).refuse id message))
      ((srv.begun id message).refuse id message).2 := by
  let event : ServerEvent := .connectionEstablished id message .reachedMaxConnection
  have answering := answering_begun discreet.answers.answering id message
  have closings : ((srv.begun id message).heard event).closings = srv.closings :=
    (closings_heard _ _).trans (closings_begun srv id message)
  unfold refuse
  rw [announce_of_answering answering rfl]
  cases (srv.begun id message).answer event with
  | error failure => exact outcome_fallen free rfl closings
  | ok reply => exact outcome_rejected discreet active (fallBack_begun free message) closings

/-- Whatever identity is named, whoever else has it keeps it. -/
theorem outcome_bindIdentity {asked : Server} (message : Message) (identity : String)
    (answering : asked.handlers.Answering) (roster : asked.roster = (srv.begun id message).roster)
    (closings : asked.closings = srv.closings) :
    Outcome srv id (contain id (asked.bindIdentity id identity))
      (asked.bindIdentity id identity).2 := by
  have announced : (asked.announced id identity).closings = srv.closings :=
    (closings_announced asked id identity).trans closings
  -- a refused attempt has fallen back by the time that this is announced
  have fallen : (asked.roster.associate identity id).1 = .duplicated ∨
      (asked.roster.associate identity id).1 = .limitReached →
      (asked.announced id identity).roster = srv.roster := by
    intro refused
    have differs : (asked.roster.associate identity id).1 ≠ .alreadyAssociated := by
      rcases refused with refused | refused <;> simp [refused]
    rw [roster_announced differs, Roster.associate_of_refused refused, roster, fallBack_begun free]
  have found : asked.roster.findIdentity? identity = srv.roster.findIdentity? identity := by
    rw [roster, findIdentity?_begun]
  cases result : (asked.roster.associate identity id).1 with
  | success =>
    rw [contain_bindIdentity_of_admitted answering (by simp [result])]
    have done : (asked.announced id identity).roster = (asked.roster.associate identity id).2 :=
      roster_announced (by simp [result])
    rcases Roster.associate_of_success result with ⟨holder, held, inactive, -⟩ | ⟨absent, bound⟩
    · -- an entry leads to a live session, so the identity is not there for the taking
      rw [found] at held
      have live := (discreet.exact.live.entries identity holder).1
        (Roster.mem_byIdentity_of_find held)
      rw [roster, isActive_begun, live.1] at inactive
      cases inactive
    · refine .bound (found.symm.trans absent) ?_ announced
      rw [done, bound, roster, roster_begun, Roster.boundIdentities_transition]
  | duplicated =>
    rw [contain_bindIdentity_of_admitted answering (by simp [result])]
    exact .kept (fallen (.inl result)) announced
  | alreadyAssociated =>
    -- who has an identity is in no attempt
    have held : srv.roster.findIdentity? identity = some id :=
      found.symm.trans (Roster.associate_of_already result).1
    have done := discreet.exact.settled.indexed identity id (Roster.mem_byIdentity_of_find held)
    cases done.symm.trans free
  | limitReached =>
    rw [bindIdentity_eq, announce_associated answering, result]
    cases asked.answer (.associationResult id identity .limitReached) with
    | error failure =>
      have backed : contain id (asked.announced id identity, .error failure) =
          asked.announced id identity := transition_of_ne (association?_announced asked id identity)
      refine .kept ?_ ?_
      · exact (congrArg Server.roster backed).trans (fallen (.inr result))
      · exact (congrArg Server.closings backed).trans announced
    | ok reply => exact outcome_rejected discreet active (fallen (.inr result)) announced

theorem outcome_establish (message : Message) :
    Outcome srv id (contain id ((srv.begun id message).establish id message))
      ((srv.begun id message).establish id message).2 := by
  let event : ServerEvent := .connectionEstablished id message .success
  have answering := answering_begun discreet.answers.answering id message
  have closings : ((srv.begun id message).heard event).closings = srv.closings :=
    (closings_heard _ _).trans (closings_begun srv id message)
  rw [establish_eq]
  split
  · exact outcome_refuse discreet active free message
  · unfold establishDirectly
    rw [emit_of_answering answering rfl]
    cases (srv.begun id message).answer event with
    | error failure => exact outcome_fallen free rfl closings
    | ok reply =>
      dsimp only
      cases reply.identity? with
      | none => exact outcome_fallen free rfl closings
      | some identity =>
        exact outcome_bindIdentity discreet active free message identity
          (answering_heard answering _) rfl closings

/-- A request that asks nobody for an identity, or is told of none that another session has. -/
theorem outcome_attempt (nobody : srv.takeover? id (.connectionRequest message) = none)
    (transport : TransportKind) :
    Outcome srv id (srv.process ⟨.session id, .connectionRequest message, transport⟩)
      (srv.handle ⟨.session id, .connectionRequest message, transport⟩).2 := by
  have handled : srv.handle ⟨.session id, .connectionRequest message, transport⟩ =
      srv.answerConnection id message := if_neg (by simp [free])
  rw [process_connectionRequest (by simp [free]), handled, answerConnection_of_free active free]
  have established := outcome_establish discreet active free message
  unfold begun at established
  cases reconnection : srv.reconnection with
  | false => simpa only [reconnection, Bool.false_eq_true, if_false] using established
  | true =>
    let started := srv.transition id .none .doing
    simp only [reconnection, if_true] at established ⊢
    have answering : started.handlers.Answering := discreet.answers.answering
    cases answered : srv.answer (.reconnectionRequest id message) with
    | error failure =>
      have failed : started.offerReconnection id message =
          (started.heard (.reconnectionRequest id message), .error failure) := by
        unfold offerReconnection
        rw [emit_of_answering answering rfl, show started.answer _ = _ from answered]
      have begun : (srv.begun id message).roster = (srv.roster.transition id .none .doing).2 :=
        roster_begun srv id message
      rw [show srv.transition id .none .doing = started from rfl, failed]
      exact outcome_fallen free begun.symm (closings_heard _ _)
    | ok reply =>
      have unclaimed : ∀ identity, reply.identity? = some identity →
          started.liveHolder? identity id = none := by
        intro identity named
        rw [liveHolder?_transition]
        simpa [takeover?, active, free, reconnection, answered, named] using nobody
      have declined := offerReconnection_of_declined answering answered unclaimed
      rw [show srv.transition id .none .doing = started from rfl, declined]
      exact established

end Attempt

/-- A message is passed on, and that is all. -/
theorem deliverMessage_of_onlyAnswers (only : srv.handlers.OnlyAnswers) (id : SessionId)
    (message : Message) (transport : TransportKind) :
    (srv.deliverMessage id message transport).1.roster = srv.roster ∧
      (srv.deliverMessage id message transport).1.closings = srv.closings := by
  unfold deliverMessage
  split
  · exact ⟨rfl, rfl⟩
  · split
    · rw [announce_of_onlyAnswers only]
      exact ⟨rfl, closings_heard _ _⟩
    · exact ⟨rfl, rfl⟩

/-- Where no attempt begins, a request changes neither sessions nor indexes. -/
theorem handle_of_no_attempt (only : srv.handlers.OnlyAnswers)
    (quiet : ∀ message, kind = .connectionRequest message →
      srv.roster.isActive id = true → srv.roster.association? id ≠ some .none)
    (transport : TransportKind) :
    (srv.handle ⟨.session id, kind, transport⟩).1.roster = srv.roster ∧
      (srv.handle ⟨.session id, kind, transport⟩).1.closings = srv.closings := by
  unfold handle handleFrom
  cases kind with
  | connectionRequest message =>
    dsimp only
    split
    · exact deliverMessage_of_onlyAnswers only id message transport
    · unfold answerConnection
      cases active : srv.roster.isActive id with
      | false => exact ⟨rfl, rfl⟩
      | true =>
        have busy : srv.roster.association? id ≠ some .none := quiet message rfl active
        simp [busy]
  | sessionMessage message => exact deliverMessage_of_onlyAnswers only id message transport
  | sessionClosed reason =>
    dsimp only
    rw [announce_of_onlyAnswers only]
    exact ⟨rfl, closings_heard _ _⟩
  | datagramHandshake message => exact ⟨rfl, rfl⟩

/-- Every request of a session that takes over nothing comes to one of the three. -/
theorem outcome_process (discreet : Discreet start srv) (nobody : srv.takeover? id kind = none)
    (transport : TransportKind) :
    Outcome srv id (srv.process ⟨.session id, kind, transport⟩)
      (srv.handle ⟨.session id, kind, transport⟩).2 := by
  by_cases attempt : ∃ message, kind = .connectionRequest message ∧
      srv.roster.isActive id = true ∧ srv.roster.association? id = some .none
  · obtain ⟨message, rfl, active, free⟩ := attempt
    exact outcome_attempt discreet active free nobody transport
  · have handled : (srv.handle ⟨.session id, kind, transport⟩).1.roster = srv.roster ∧
        (srv.handle ⟨.session id, kind, transport⟩).1.closings = srv.closings :=
      handle_of_no_attempt discreet.answers
        (fun message same active free => attempt ⟨message, same, active, free⟩) transport
    unfold process
    rcases hresult : srv.handle ⟨.session id, kind, transport⟩ with ⟨later, _ | _⟩ <;>
      rw [hresult] at handled
    · refine .kept ?_ handled.2
      -- there is no attempt that could fall back
      have idle : later.roster.association? id ≠ some .doing := by
        rw [handled.1]
        exact discreet.idle id
      exact (congrArg Server.roster (transition_of_ne idle)).trans handled.1
    · exact .kept handled.1 handled.2

/-- None of the three concerns any other session. -/
theorem Outcome.alike {after : Server} {result : Except HandlerFailure Unit}
    (outcome : Outcome srv id after result) (discreet : Discreet start srv) (differs : other ≠ id) :
    srv.roster.Alike after.roster other := by
  cases outcome with
  | kept roster _ =>
    rw [roster]
    exact .refl _ other
  | @bound _ identity absent roster _ =>
    let started := (srv.roster.transition id .none .doing).2
    have begun : srv.roster.Alike started other := Roster.alike_transition differs _ _
    -- the number of identities shows in no entry
    have counted : srv.roster.Alike
        { started with boundIdentities := srv.roster.boundIdentities + 1 } other := { begun with }
    have free : (identity, other) ∉ started.byIdentity := by
      rw [Roster.byIdentity_transition]
      exact not_mem_of_lookup_eq_none absent
    rw [roster]
    exact counted.trans (Roster.alike_bind differs free)
  | rejected roster _ =>
    rw [roster]
    exact Roster.alike_close differs (fun _ hs => discreet.isManaged hs) .rejected

/-- Whom a request closes is closed although no handler failed. -/
theorem Outcome.of_failed {after : Server} {failure : HandlerFailure}
    (outcome : Outcome srv id after (.error failure)) :
    after.closings = srv.closings ∧ after.roster.isActive id = srv.roster.isActive id := by
  cases outcome with
  | kept roster closings =>
    rw [roster]
    exact ⟨closings, rfl⟩
  | @bound _ identity _ roster closings =>
    let started := (srv.roster.transition id .none .doing).2
    have opened : ({ started with boundIdentities := srv.roster.boundIdentities + 1 } :
        Roster).isActive id = srv.roster.isActive id := Roster.isActive_transition _ _
    rw [roster, Roster.isActive_bind]
    exact ⟨closings, opened⟩

end Server

end SessionNet
