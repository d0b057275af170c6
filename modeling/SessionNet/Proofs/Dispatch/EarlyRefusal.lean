import SessionNet.Proofs.Dispatch.Answers
import SessionNet.Proofs.Server.Capacity

/-!
# The early refusal and the cap

Before a handler is asked for an identity, the server looks whether any more are admitted, and turns
the session away if not. At that time it is not known which identity would be named. So at the cap a
session is turned away even if its identity has an entry, where `Roster.associate` would have let it
stay (`duplicate_rejected_at_cap`). In every other case looking first makes no difference
(`early_refusal_exact`).
-/

namespace SessionNet

namespace Roster

variable {r : Roster} {id : SessionId} {identity : String}

theorem association?_transition_ne_doing {target : AssociationState} (ends : target ≠ .doing) :
    (r.transition id .doing target).2.association? id ≠ some .doing := by
  rw [association?_transition]
  split
  · exact fun doing => ends (Option.some.inj doing)
  · rename_i idle
    exact fun doing => idle ⟨rfl, doing⟩

theorem association?_bind_ne_doing : (r.bind identity id).association? id ≠ some .doing := by
  rw [association?_bind]
  split
  · nofun
  · rename_i idle
    exact fun doing => idle ⟨rfl, doing⟩

/-- An association settles the attempt, unless the session had the identity before. -/
theorem association?_associate_ne_doing
    (differs : (r.associate identity id).1 ≠ .alreadyAssociated) :
    (r.associate identity id).2.association? id ≠ some .doing := by
  cases result : (r.associate identity id).1 with
  | success =>
    obtain ⟨_, -, -, bound⟩ | ⟨-, bound⟩ := associate_of_success result
    · rw [bound]
      exact association?_bind_ne_doing
    · rw [bound]
      exact association?_bind_ne_doing
  | duplicated =>
    rw [associate_of_refused (.inl result)]
    exact association?_transition_ne_doing nofun
  | limitReached =>
    rw [associate_of_refused (.inr result)]
    exact association?_transition_ne_doing nofun
  | alreadyAssociated => exact absurd result differs

end Roster

namespace Server

variable {srv after : Server} {id holder : SessionId} {message : Message} {identity : String}
variable {event : ServerEvent} {transport : TransportKind}

/-! ## Going straight to the association -/

/-- Establish the connection of a session without looking first whether there is room. -/
def establishDirectly (srv : Server) (id : SessionId) (message : Message) :
    Server × Except HandlerFailure Unit :=
  match srv.emit (.connectionEstablished id message .success) with
  | (srv, .error failure) => (srv, .error failure)
  | (srv, .ok reply) =>
    match reply.identity? with
    | none => (srv.transition id .doing .none, .ok ())
    | some identity => srv.bindIdentity id identity

theorem establish_eq (srv : Server) (id : SessionId) (message : Message) :
    srv.establish id message =
      if srv.roster.atCapacity then srv.refuse id message else srv.establishDirectly id message :=
  rfl

/-- The server once an identity was bound to a session, or not, and before that is announced. -/
def associated (srv : Server) (id : SessionId) (identity : String) : Server :=
  let bound : Server := { srv with roster := (srv.roster.associate identity id).2 }
  if (srv.roster.associate identity id).1 = .alreadyAssociated then bound.transition id .doing .done
  else bound

/-- The server after a session was told what came of its association. -/
def announced (srv : Server) (id : SessionId) (identity : String) : Server :=
  (srv.associated id identity).heard
    (.associationResult id identity (srv.roster.associate identity id).1)

theorem roster_announced (differs : (srv.roster.associate identity id).1 ≠ .alreadyAssociated) :
    (srv.announced id identity).roster = (srv.roster.associate identity id).2 := by
  unfold announced associated
  rw [if_neg differs]
  rfl

theorem isActive_announced (srv : Server) (id : SessionId) (identity : String) (other : SessionId) :
    (srv.announced id identity).roster.isActive other = srv.roster.isActive other := by
  unfold announced associated
  dsimp only
  split
  · exact (Roster.isActive_transition _ _).trans (Roster.isActive_associate _ _ _ _)
  · exact Roster.isActive_associate _ _ _ _

/-- Attempts of a session are answered with an identity, whatever came of them so far. -/
def Names (srv : Server) (id : SessionId) (message : Message) (identity : String) : Prop :=
  ∀ result, srv.answer (.connectionEstablished id message result) = .ok (.identity (some identity))

theorem handlers_associated (srv : Server) (id : SessionId) (identity : String) :
    (srv.associated id identity).handlers = srv.handlers := by
  unfold associated
  dsimp only
  split <;> rfl

theorem answer_associated : (srv.associated id identity).answer event = srv.answer event := by
  unfold answer
  rw [handlers_associated]

theorem association?_announced (srv : Server) (id : SessionId) (identity : String) :
    (srv.announced id identity).roster.association? id ≠ some .doing := by
  by_cases already : (srv.roster.associate identity id).1 = .alreadyAssociated
  · -- the session had the identity before, so its attempt is done now
    have done : (srv.announced id identity).roster =
        ((srv.roster.associate identity id).2.transition id .doing .done).2 := by
      unfold announced associated
      rw [if_pos already]
      rfl
    rw [done]
    exact Roster.association?_transition_ne_doing nofun
  · rw [roster_announced already]
    exact Roster.association?_associate_ne_doing already

theorem bindIdentity_eq (srv : Server) (id : SessionId) (identity : String) :
    srv.bindIdentity id identity =
      match (srv.associated id identity).announce
          (.associationResult id identity (srv.roster.associate identity id).1) with
      | (srv, .error failure) => (srv, .error failure)
      | (srv', .ok ()) =>
        if (srv.roster.associate identity id).1 = .limitReached then
          ((srv'.close id .rejected).2, .ok ())
        else (srv', .ok ()) :=
  rfl

theorem announce_associated (answering : srv.handlers.Answering) :
    (srv.associated id identity).announce
        (.associationResult id identity (srv.roster.associate identity id).1) =
      (srv.announced id identity, (srv.answer (.associationResult id identity
        (srv.roster.associate identity id).1)).map fun _ => ()) := by
  -- binding touches no handler, so what is announced is answered as it would have been before
  have idle : (srv.associated id identity).handlers.Answering := by rwa [handlers_associated]
  rw [announce_of_answering idle rfl, answer_associated]
  rfl

/-- Where there is room, the announcement changes nothing, even if its handler fails. -/
theorem contain_bindIdentity_of_admitted (answering : srv.handlers.Answering)
    (admitted : (srv.roster.associate identity id).1 ≠ .limitReached) :
    contain id (srv.bindIdentity id identity) = srv.announced id identity := by
  rw [bindIdentity_eq, announce_associated answering]
  cases srv.answer (.associationResult id identity (srv.roster.associate identity id).1) with
  | error failure => exact transition_of_ne (association?_announced srv id identity)
  | ok reply =>
    dsimp only [Except.map]
    rw [if_neg admitted]
    rfl

theorem contain_bindIdentity_of_refused (answering : srv.handlers.Answering)
    (refused : (srv.roster.associate identity id).1 = .limitReached)
    (accepted : srv.answer (.associationResult id identity .limitReached) = .ok reply) :
    contain id (srv.bindIdentity id identity) =
      ((srv.announced id identity).close id .rejected).2 := by
  rw [bindIdentity_eq, announce_associated answering, refused, accepted]
  rfl

theorem establishDirectly_eq (answering : srv.handlers.Answering)
    (names : srv.Names id message identity) :
    srv.establishDirectly id message =
      (srv.heard (.connectionEstablished id message .success)).bindIdentity id identity := by
  unfold establishDirectly
  rw [emit_of_answering answering rfl, names]
  rfl

theorem contain_refuse (answering : srv.handlers.Answering)
    (names : srv.Names id message identity) :
    contain id (srv.refuse id message) =
      (((srv.heard (.connectionEstablished id message .reachedMaxConnection)).transition id .doing
        .none).close id .rejected).2 := by
  unfold refuse
  rw [announce_of_answering answering rfl, names]
  rfl

/-! ## Looking first -/

section Asked

variable (answering : srv.handlers.Answering) (names : srv.Names id message identity)
include answering names

/-- At the cap nobody is let in, whatever the identity. -/
theorem establish_of_full (full : srv.roster.atCapacity = true) :
    (contain id (srv.establish id message)).roster =
        ((srv.roster.transition id .doing .none).2.close id .rejected).2 ∧
      srv.Saw (contain id (srv.establish id message))
        (.connectionEstablished id message .reachedMaxConnection) := by
  rw [establish_eq, if_pos full, contain_refuse answering names]
  let told := srv.heard (.connectionEstablished id message .reachedMaxConnection)
  have closed := history_close_suffix (told.transition id .doing .none) id .rejected
  exact ⟨roster_close, saw_of_heard srv List.suffix_rfl closed⟩

/-- Going straight to the association refuses a new identity at the cap, if nothing fails when this
is announced. -/
theorem establishDirectly_of_new (absent : srv.roster.findIdentity? identity = none)
    (full : srv.roster.atCapacity = true)
    (accepted : srv.answer (.associationResult id identity .limitReached) = .ok reply) :
    (contain id (srv.establishDirectly id message)).roster =
      ((srv.roster.transition id .doing .none).2.close id .rejected).2 := by
  let asked := srv.heard (.connectionEstablished id message .success)
  have refused : (asked.roster.associate identity id).1 = .limitReached :=
    Roster.associate_eq_limitReached_iff.2 ⟨absent, full⟩
  have accepted' : asked.answer (.associationResult id identity .limitReached) = .ok reply :=
    (answer_heard_of_ne (by simp [ServerEvent.kind])).trans accepted
  have fallen : (asked.announced id identity).roster =
      (srv.roster.transition id .doing .none).2 := by
    rw [roster_announced (by rw [refused]; decide)]
    exact Roster.associate_of_refused (.inr refused)
  rw [establishDirectly_eq answering names,
    contain_bindIdentity_of_refused (answering_heard answering _) refused accepted', roster_close,
    fallen]

/-- Where the association is not refused for the cap, its session is not closed. -/
theorem establishDirectly_of_admitted
    (admitted : (srv.roster.associate identity id).1 ≠ .limitReached) :
    (∀ other, (contain id (srv.establishDirectly id message)).roster.isActive other =
        srv.roster.isActive other) ∧
      srv.Saw (contain id (srv.establishDirectly id message))
        (.associationResult id identity (srv.roster.associate identity id).1) := by
  let asked := srv.heard (.connectionEstablished id message .success)
  have established : contain id (srv.establishDirectly id message) =
      asked.announced id identity := by
    rw [establishDirectly_eq answering names]
    exact contain_bindIdentity_of_admitted (answering_heard answering _) admitted
  have kept : (asked.associated id identity).history = asked.history := by
    unfold associated
    dsimp only
    split <;> rfl
  rw [established]
  refine ⟨fun other => isActive_announced asked id identity other, ?_⟩
  refine saw_of_heard (asked.associated id identity) ?_ List.suffix_rfl
  rw [kept]
  exact List.suffix_cons _ _

/-- An identity that another live session holds is refused to this one, which stays open. -/
theorem establishDirectly_of_live (found : srv.roster.findIdentity? identity = some holder)
    (live : srv.roster.isActive holder = true) (differs : holder ≠ id) :
    (contain id (srv.establishDirectly id message)).roster =
      (srv.roster.transition id .doing .none).2 := by
  let asked := srv.heard (.connectionEstablished id message .success)
  have duplicated : (asked.roster.associate identity id).1 = .duplicated :=
    congrArg Prod.fst (Roster.associate_of_live found live differs)
  have admitted : (asked.roster.associate identity id).1 ≠ .limitReached := by
    rw [duplicated]
    decide
  rw [establishDirectly_eq answering names,
    contain_bindIdentity_of_admitted (answering_heard answering _) admitted,
    roster_announced (by rw [duplicated]; decide)]
  exact Roster.associate_of_refused (.inl duplicated)

end Asked

/-! ## Whole requests -/

theorem names_begun (names : srv.Names id message identity) :
    (srv.begun id message).Names id message identity := by
  intro result
  rw [answer_begun (by simp [ServerEvent.kind])]
  exact names result

/-- That an attempt is under way shows in nothing that an association depends on. -/
theorem associate_begun_eq_limitReached_iff :
    ((srv.begun id message).roster.associate identity id).1 = .limitReached ↔
      srv.roster.findIdentity? identity = none ∧ srv.roster.atCapacity = true := by
  rw [Roster.associate_eq_limitReached_iff, findIdentity?_begun, atCapacity_begun]

section Requested

variable (answering : srv.handlers.Answering) (names : srv.Names id message identity)
include answering names

/-- At the cap a request ends with its session closed, and leaves no other trace in the roster. -/
theorem process_of_full (active : srv.roster.isActive id = true)
    (free : srv.roster.association? id = some .none) (declines : srv.Declines id message)
    (transport : TransportKind) (full : srv.roster.atCapacity = true) :
    srv.Saw (srv.process ⟨.session id, .connectionRequest message, transport⟩)
        (.connectionEstablished id message .reachedMaxConnection) ∧
      (srv.process ⟨.session id, .connectionRequest message, transport⟩).roster =
        (srv.roster.close id .rejected).2 := by
  have processed := process_of_declines answering active free declines transport
  obtain ⟨closed, saw⟩ := establish_of_full (answering_begun answering id message)
    (names_begun names) ((atCapacity_begun srv id message).trans full)
  rw [fallBack_begun free message, ← processed] at closed
  exact ⟨processed ▸ saw.of_begun, closed⟩

theorem direct_of_admitted (active : srv.roster.isActive id = true)
    (admitted : ((srv.begun id message).roster.associate identity id).1 ≠ .limitReached) :
    (contain id ((srv.begun id message).establishDirectly id message)).roster.isActive id = true ∧
      srv.Saw (contain id ((srv.begun id message).establishDirectly id message))
        (.associationResult id identity
          ((srv.begun id message).roster.associate identity id).1) := by
  obtain ⟨opened, saw⟩ := establishDirectly_of_admitted (answering_begun answering id message)
    (names_begun names) admitted
  exact ⟨(opened id).trans ((isActive_begun srv id message id).trans active), saw.of_begun⟩

/-- Against another live session an attempt falls back, and the roster is as before. -/
theorem direct_of_live (free : srv.roster.association? id = some .none)
    (found : srv.roster.findIdentity? identity = some holder)
    (live : srv.roster.isActive holder = true) (differs : holder ≠ id) :
    ((srv.begun id message).roster.associate identity id).1 = .duplicated ∧
      (contain id ((srv.begun id message).establishDirectly id message)).roster = srv.roster := by
  have found' : (srv.begun id message).roster.findIdentity? identity = some holder :=
    (findIdentity?_begun srv id message identity).trans found
  have live' : (srv.begun id message).roster.isActive holder = true :=
    (isActive_begun srv id message holder).trans live
  have unchanged := establishDirectly_of_live (answering_begun answering id message)
    (names_begun names) found' live' differs
  exact ⟨congrArg Prod.fst (Roster.associate_of_live found' live' differs),
    unchanged.trans (fallBack_begun free message)⟩

end Requested

/--
The early refusal, for every state of the server, every active session that is in no attempt and
every message whose handler names an identity, where the request takes no identity over. At the cap
the session is closed as rejected and nothing else changes, whatever the identity; below the cap it
stays open, and all goes as if the server had not looked. At the cap going straight to the
association would refuse a new identity as well, unless a handler failed when told so; but with an
identity that has an entry it would leave the session open, and as a duplicate if another live
session holds the identity. So there looking first makes the difference.
-/
theorem early_refusal_exact (answering : srv.handlers.Answering)
    (active : srv.roster.isActive id = true) (free : srv.roster.association? id = some .none)
    (declines : srv.Declines id message) (names : srv.Names id message identity)
    (transport : TransportKind) :
    let asked := srv.begun id message
    let direct := contain id (asked.establishDirectly id message)
    let after := srv.process ⟨.session id, .connectionRequest message, transport⟩
    let result := (asked.roster.associate identity id).1
    (srv.roster.atCapacity = true →
      srv.Saw after (.connectionEstablished id message .reachedMaxConnection) ∧
        after.roster = (srv.roster.close id .rejected).2) ∧
    (srv.roster.atCapacity = false → after = direct ∧ after.roster.isActive id = true ∧
      result ≠ .limitReached ∧ srv.Saw after (.associationResult id identity result)) ∧
    (srv.roster.atCapacity = true → srv.roster.findIdentity? identity = none →
      (∃ reply, srv.answer (.associationResult id identity .limitReached) = .ok reply) →
      after.roster = direct.roster) ∧
    (srv.roster.atCapacity = true → (srv.roster.findIdentity? identity).isSome = true →
      direct.roster.isActive id = true ∧ after.roster.isActive id = false) ∧
    ∀ holder, srv.roster.findIdentity? identity = some holder →
      srv.roster.isActive holder = true → holder ≠ id →
      direct.roster = srv.roster ∧ srv.Saw direct (.associationResult id identity .duplicated) ∧
        (after.roster.isActive id = true ↔ srv.roster.atCapacity = false) := by
  intro asked direct after result
  have full : srv.roster.atCapacity = true →
      srv.Saw after (.connectionEstablished id message .reachedMaxConnection) ∧
        after.roster = (srv.roster.close id .rejected).2 :=
    process_of_full answering names active free declines transport
  have closed : srv.roster.atCapacity = true → after.roster.isActive id = false := by
    intro reached
    rw [(full reached).2, Roster.isActive_close]
    simp
  have room : srv.roster.atCapacity = false → after = direct := by
    intro below
    have processed : after = contain id (asked.establish id message) :=
      process_of_declines answering active free declines transport
    rw [processed, establish_eq, atCapacity_begun, below]
    rfl
  have limit : result = .limitReached ↔
      srv.roster.findIdentity? identity = none ∧ srv.roster.atCapacity = true :=
    associate_begun_eq_limitReached_iff
  have admitted : result ≠ .limitReached → direct.roster.isActive id = true ∧
      srv.Saw direct (.associationResult id identity result) :=
    direct_of_admitted answering names active
  refine ⟨full, ?_, ?_, ?_, ?_⟩
  · intro below
    have lets : result ≠ .limitReached := by
      intro refused
      exact absurd ((limit.1 refused).2.symm.trans below) Bool.false_ne_true.symm
    rw [room below]
    exact ⟨rfl, (admitted lets).1, lets, (admitted lets).2⟩
  · rintro reached absent ⟨reply, accepted⟩
    have accepted' : asked.answer (.associationResult id identity .limitReached) = .ok reply :=
      (answer_begun (by simp [ServerEvent.kind])).trans accepted
    have refused := establishDirectly_of_new (answering_begun answering id message)
      (names_begun names) ((findIdentity?_begun srv id message identity).trans absent)
      ((atCapacity_begun srv id message).trans reached) accepted'
    -- both ways lead to the same refusal, and differ only in what is heard of it
    rw [(full reached).2, refused, fallBack_begun free message]
  · intro reached present
    have lets : result ≠ .limitReached := by
      intro refused
      rw [(limit.1 refused).1] at present
      exact Bool.false_ne_true present
    exact ⟨(admitted lets).1, closed reached⟩
  · intro holder found live differs
    obtain ⟨duplicated, unchanged⟩ :=
      direct_of_live answering names free found live differs
    have lets : result ≠ .limitReached := by
      intro refused
      cases duplicated.symm.trans refused
    obtain ⟨opened, saw⟩ := admitted lets
    refine ⟨unchanged, duplicated ▸ saw, ?_⟩
    constructor
    · intro remains
      rw [← Bool.not_eq_true]
      intro reached
      exact absurd ((closed reached).symm.trans remains) Bool.false_ne_true
    · intro below
      rw [room below]
      exact opened

/-- Room for one identity, and everyone is given the same one. -/
def crowded : Server :=
  let answer : Handler := fun _ _ => { outcome := .ok (.identity (some "ann")) }
  (blank { sessions := { maxIdentities := 1 }, reconnection := false } RequestSender.number
    (({} : HandlerTable).register .connectionEstablished answer)).run
      [.openWebSocket {} .loopback, .openWebSocket {} .loopback,
        .process ⟨.session 0, .connectionRequest .empty, .webSocket⟩]

/-- Session 0 holds the identity that session 1 asks for, so session 1 would be left open. -/
theorem early_refusal_exact_crowded :
    let direct := contain 1 ((crowded.begun 1 .empty).establishDirectly 1 .empty)
    let after := crowded.process ⟨.session 1, .connectionRequest .empty, .webSocket⟩
    crowded.roster.atCapacity = true ∧
      crowded.Saw after (.connectionEstablished 1 .empty .reachedMaxConnection) ∧
      after.roster.isActive 1 = false ∧
      crowded.Saw direct (.associationResult 1 "ann" .duplicated) ∧
      direct.roster.isActive 1 = true := by
  intro direct after
  have answering : crowded.handlers.Answering := by
    intro entry member _ calls event
    rcases List.mem_singleton.1 member with rfl
    rfl
  have names : crowded.Names 1 .empty "ann" := fun _ => rfl
  have declines : crowded.Declines 1 .empty := nofun
  obtain ⟨full, -, -, differs, duplicate⟩ :=
    early_refusal_exact answering rfl rfl declines names .webSocket
  have here := differs rfl rfl
  exact ⟨rfl, (full rfl).1, here.2, (duplicate 0 rfl rfl (by decide)).2.1, here.1⟩

/--
The identity of session 1 has an entry, that of session 0, which is live. The handler names it
whatever the session and however often it is asked. Still session 1 is closed as rejected.
-/
theorem duplicate_rejected_at_cap :
    let after := crowded.process ⟨.session 1, .connectionRequest .empty, .webSocket⟩
    (crowded.roster.isActive 1 = true ∧ crowded.roster.association? 1 = some .none) ∧
      (∃ entry, crowded.handlers.find? .connectionEstablished = some entry ∧
        ∀ calls event, entry.handler calls event =
          { outcome := .ok (.identity (some "ann")) }) ∧
      (crowded.roster.findIdentity? "ann" = some 0 ∧ crowded.roster.isActive 0 = true) ∧
      after.history.take 2 = [.closed 1 .rejected,
        .event (.connectionEstablished 1 .empty .reachedMaxConnection) true] ∧
      after.roster.standing? 1 = some ⟨.none, none, false, some .rejected, true⟩ :=
  ⟨⟨rfl, rfl⟩, ⟨_, rfl, fun _ _ => rfl⟩, ⟨rfl, rfl⟩, rfl, rfl⟩

end Server

end SessionNet
