import SessionNet.Proofs.Dispatch.LiveIndex
import SessionNet.Proofs.Server.Operations

/-!
# Who finds and who loses an identity

In runs whose handlers leave open the session they are asked about, the index of identities leads
to live sessions only, and an identity is taken from a session only by one that is not closed when
this is announced.

Without that restriction it is not so: the server does not look again whether a handler has closed
the session, and binds the identity to the closed session. `closed_session_indexed` is a run in
which this costs a live session its identity.
-/

namespace SessionNet

namespace Server

/-! ## Who loses an identity -/

/-- An identity was announced as that of another session, which was not closed before. -/
def HandedOver (start : List Occurrence) (id : SessionId) (identity : String)
    (history : List Occurrence) : Prop :=
  ∃ taker event delivered newer older, taker ≠ id ∧ event.about? = some taker ∧
    event.announced? = some identity ∧ history = newer ++ .event event delivered :: older ∧
    start <:+ older ∧ ∀ reason, .closed taker reason ∉ older

/-- Who bore an identity bears it still, or it was handed over, or that is about to be announced. -/
def Retained (start : Server) (stage : Stage) (srv : Server) : Prop :=
  ∀ id identity, start.roster.bearing? id = some identity →
    srv.roster.bearing? id = some identity ∨
      (∃ taker, taker ≠ id ∧ stage = .bound taker identity) ∨
      HandedOver start.history id identity srv.history

section Handing

variable {mayClose : ServerEvent → SessionId → Prop} {request : Request} {a b : Stage × Server}
variable {start srv srv' : Server} {id : SessionId} {identity : String}

theorem HandedOver.later {first history history' : List Occurrence}
    (handed : HandedOver first id identity history) (grown : history <:+ history') :
    HandedOver first id identity history' := by
  rcases handed with ⟨taker, event, delivered, newer, older, differs, about, announced, split, rest⟩
  rcases grown with ⟨newest, rfl⟩
  refine ⟨taker, event, delivered, newest ++ newer, older, differs, about, announced, ?_, rest⟩
  rw [split, List.append_assoc]

/-- An event is recorded before anything that its handler does. -/
theorem history_of_emits {event : ServerEvent} (emits : Emits mayClose event srv srv') :
    ∃ newer delivered, srv'.history = newer ++ .event event delivered :: srv.history := by
  rcases emits with ⟨delivered, drift⟩
  have grown : .event event delivered :: srv.history <:+ srv'.history := by
    refine drift.preserves
      (P := fun later => .event event delivered :: srv.history <:+ later.history) ?_ ?_
      List.suffix_rfl
    · intro later id reason _ h
      exact h.trans (history_close_suffix later id reason)
    · intro later later' same h
      rwa [same.history]
  rcases grown with ⟨newer, split⟩
  exact ⟨newer, delivered, split.symm⟩

/-- One step takes an identity from a session only to bind it to another one. -/
theorem bearing_of_step (step : Step mayClose request a b) (settled : Settled a.1 a.2.roster)
    (live : Live a.1 a.2) (bears : a.2.roster.bearing? id = some identity) :
    b.2.roster.bearing? id = some identity ∨ ∃ taker, taker ≠ id ∧ b.1 = .bound taker identity := by
  cases step with
  | skip => exact .inl bears
  | aside same => exact .inl ((Thinned.of_sameStanding same).bearing id ▸ bears)
  | remark _ emits => exact .inl ((Thinned.of_emits emits).bearing id ▸ bears)
  | deliver _ _ _ _ emits => exact .inl ((Thinned.of_emits emits).bearing id ▸ bears)
  | report _ emits => exact .inl ((Thinned.of_emits emits).bearing id ▸ bears)
  | begin => exact .inl ((Roster.bearing?_transition _ _).trans bears)
  | ask _ _ emits => exact .inl ((Thinned.of_emits emits).bearing id ▸ bears)
  | takeOver held =>
    rename_i srv taker old name
    rcases liveHolder?_eq_some held with ⟨found, -, differs⟩
    by_cases isOld : id = old
    · -- the old holder bore just this identity
      subst isOld
      have named := ((live.entries name id).mp (Roster.mem_byIdentity_of_find found)).2
      rw [bears] at named
      rcases Option.some.inj named with rfl
      exact .inr ⟨taker, Ne.symm differs, rfl⟩
    · refine .inl ?_
      by_cases isTaker : id = taker
      · -- the taker bears nothing while its attempt is under way
        subst isTaker
        have unbound := settled.unbound id (by simp [(settled.attempt id).mpr rfl])
        rw [unbound] at bears
        cases bears
      · simp [bearing?_takeOver held, isOld, isTaker, bears]
  | associate success =>
    rename_i srv taker name
    by_cases isTaker : id = taker
    · subst isTaker
      have unbound := settled.unbound id (by simp [(settled.attempt id).mpr rfl])
      rw [unbound] at bears
      cases bears
    · refine .inl ?_
      rcases Roster.associate_of_success success with ⟨_, -, -, heq⟩ | ⟨-, heq⟩
      · simp [heq, Roster.bearing?_bind, isTaker, bears]
      · have kept : ({ srv.roster with boundIdentities := srv.roster.boundIdentities + 1 } :
            Roster).bearing? id = some identity := bears
        simp [heq, Roster.bearing?_bind, isTaker, kept]
  | already found _ => exact absurd found settled.not_found
  | refuse _ emits =>
    refine .inl ?_
    rw [(Thinned.of_emits emits).bearing]
    exact (Roster.bearing?_transition _ _).trans bears
  | announce _ _ emits => exact .inl ((Thinned.of_emits emits).bearing id ▸ bears)
  | fallBack => exact .inl ((Roster.bearing?_transition _ _).trans bears)
  | close =>
    refine .inl ?_
    rw [roster_close]
    exact (Roster.bearing?_close _).trans bears

theorem Retained.step (step : Step mayClose request a b) (settled : Settled a.1 a.2.roster)
    (live : Live a.1 a.2) (grown : start.history <:+ a.2.history)
    (retained : Retained start a.1 a.2) : Retained start b.1 b.2 := by
  intro id identity bore
  rcases retained id identity bore with bears | ⟨taker, differs, due⟩ | handed
  · rcases bearing_of_step step settled live bears with still | given
    · exact .inl still
    · exact .inr (.inl given)
  · -- the only step of a session that was just bound is the announcement
    refine .inr (.inr ?_)
    cases step with
    | announce about announced emits =>
      cases due
      rcases history_of_emits emits with ⟨newer, delivered, split⟩
      refine ⟨taker, _, delivered, newer, _, differs, about, announced, split, grown, ?_⟩
      intro reason recorded
      have closed := (live.ended taker reason recorded).2
      rw [live.subject taker rfl] at closed
      cases closed
    | fallBack given =>
      rcases given with rfl | rfl
      · cases due
      · cases due
    | skip | aside | remark | deliver | report | begin | ask | takeOver | associate | already
    | refuse | close => cases due
  · exact .inr (.inr (handed.later (Kept.of_step step).history))

end Handing

/-! ## Runs -/

/-- What holds between the operations of a run, and what has become of the identities since `start`. -/
structure Exact (start srv : Server) : Prop where
  confined : srv.handlers.Confined ServerEvent.Spares
  settled : Settled .ready srv.roster
  live : Live .ready srv
  grown : start.history <:+ srv.history
  retained : Retained start .ready srv

namespace Exact

variable {direct : Prop} {start srv srv' : Server} {request : Request} {id : SessionId}

theorem refl (confined : srv.handlers.Confined ServerEvent.Spares)
    (settled : Settled .ready srv.roster) (live : Live .ready srv) : Exact srv srv :=
  ⟨confined, settled, live, List.suffix_rfl, fun _ _ bore => .inl bore⟩

/-- A change that shows in no standing, entry or event, except that requests may come and go. -/
theorem dispatch (exact : Exact start srv) (dispatcher : Dispatcher) :
    Exact start { srv with dispatcher } where
  confined := exact.confined
  settled := exact.settled
  live := { exact.live with }
  grown := exact.grown
  retained := exact.retained

theorem process (exact : Exact start srv) : Exact start (srv.process request) := by
  have path : Path ServerEvent.Spares request (.ready, srv) (.over, srv.process request) :=
    process_path exact.confined
  have whole : Settled .over (srv.process request).roster ∧ Live .over (srv.process request) ∧
      start.history <:+ (srv.process request).history ∧
      Retained start .over (srv.process request) := by
    refine path.preserves (P := fun stage later => Settled stage later.roster ∧ Live stage later ∧
      start.history <:+ later.history ∧ Retained start stage later) ?_
      ⟨exact.settled, exact.live, exact.grown, exact.retained⟩
    rintro a b step ⟨settled, live, grown, retained⟩
    exact ⟨settled.step step, live.step step settled, grown.trans (Kept.of_step step).history,
      retained.step step settled live grown⟩
  rcases whole with ⟨settled, live, grown, retained⟩
  refine ⟨confined_process exact.confined, ⟨settled.attempt, settled.unbound, settled.indexed⟩,
    live.weaken (by simp [Stage.subject?]), grown, ?_⟩
  intro id identity bore
  rcases retained id identity bore with bears | ⟨_, -, due⟩ | handed
  · exact .inl bears
  · cases due
  · exact .inr (.inr handed)

theorem opening (exact : Exact start srv) (opened : Opened srv srv') : Exact start srv' := by
  have vacant : srv.roster.isActive srv.roster.sessions.length = false := by
    simp [Roster.isActive_eq_standing, Roster.standing?_length]
  refine ⟨?_, opened.settled rfl exact.settled,
    ⟨opened.managed exact.live.managed, ?_, ?_, ?_, ?_, ?_, ?_⟩, ?_, ?_⟩
  · rw [opened.handlers]
    exact exact.confined
  · intro id
    rw [opened.registered, opened.isActive, List.mem_cons, exact.live.registered]
    split <;> simp_all
  · intro identity id
    rw [opened.byIdentity, opened.isActive, opened.bearing, exact.live.entries]
    split
    · rename_i new
      have unbound : srv.roster.bearing? id = none := by
        simp [new, Roster.bearing?_eq_standing, Roster.standing?_length]
      simp [unbound]
    · exact .rfl
  · rw [opened.byIdentity]
    exact exact.live.keys
  · rw [opened.boundIdentities, opened.byIdentity]
    exact exact.live.count
  · rintro _ ⟨⟩
  · intro id reason recorded
    rw [opened.history] at recorded
    rcases exact.live.ended id reason recorded with ⟨before, closed⟩
    rw [opened.length, opened.isActive, if_neg (Nat.ne_of_lt before)]
    exact ⟨Nat.lt_succ_of_lt before, closed⟩
  · rw [opened.history]
    exact exact.grown
  · intro id identity bore
    rw [opened.bearing, opened.history]
    exact exact.retained id identity bore

theorem close (exact : Exact start srv) (reason : CloseReason) :
    Exact start (srv.close id reason).2 := by
  have grown := history_close_suffix srv id reason
  refine ⟨?_, ?_, exact.live.close (by simp [Stage.subject?]) reason, exact.grown.trans grown, ?_⟩
  · rw [handlers_close]
    exact exact.confined
  · rw [roster_close]
    exact exact.settled.shift (.thin rfl (fun early => early) (.close _ id reason))
  · intro other identity bore
    rw [roster_close, Roster.bearing?_close]
    rcases exact.retained other identity bore with bears | due | handed
    · exact .inl bears
    · exact .inr (.inl due)
    · exact .inr (.inr (handed.later grown))

theorem sameStanding (exact : Exact start srv) (same : SameStanding srv srv') :
    Exact start srv' := by
  refine ⟨same.handlers _ exact.confined, ?_, exact.live.sameStanding same, ?_, ?_⟩
  · exact exact.settled.shift (.thin rfl (fun early => early) (.of_sameStanding same))
  · rw [same.history]
    exact exact.grown
  · intro id identity bore
    rw [(Thinned.of_sameStanding same).bearing, same.history]
    exact exact.retained id identity bore

theorem move (move : Move direct srv srv') (exact : Exact start srv) : Exact start srv' := by
  cases move with
  | opening opened => exact exact.opening opened
  | aside same => exact exact.sameStanding same
  | accept => exact exact.dispatch _
  | process => exact exact.process
  | shardStep shard =>
    rcases shardStep_cases srv shard with same | ⟨queued, dispatcher, after, -, rfl, heq⟩
    · rwa [same]
    · rw [heq]
      exact ((exact.dispatch dispatcher).process).dispatch _
  | close => exact exact.close _
  | turn => exact exact.dispatch _

end Exact

section Runs

variable {plan : ServerPlan} {shardKey : RequestSender → Nat} {handlers : HandlerTable}

theorem exact_blank (confined : handlers.Confined ServerEvent.Spares) :
    Exact (blank plan shardKey handlers) (blank plan shardKey handlers) := by
  refine .refl confined (settled_blank rfl) ⟨?_, ?_, ?_, ?_, ?_, ?_, ?_⟩
  all_goals simp [blank, create, Roster.bearing?, Roster.session?, Roster.standing?, Roster.isActive,
    Stage.subject?]

/-- The live sessions that bear an identity, each under its number. -/
def bearers (srv : Server) : List SessionId :=
  srv.roster.registeredWhere fun s => s.isActive && s.identity?.isSome

theorem Live.mem_bearers {stage : Stage} {srv : Server} (live : Live stage srv) {id : SessionId} :
    id ∈ srv.bearers ↔
      srv.roster.isActive id = true ∧ (srv.roster.bearing? id).isSome = true := by
  have listed := live.registered id
  cases hs : srv.roster.session? id with
  | none => simp [bearers, Roster.registeredWhere, Roster.isActive, hs]
  | some s =>
    have present : id < srv.roster.sessions.length := (List.getElem?_eq_some_iff.mp hs).1
    simp only [Roster.isActive, hs, Option.any_some] at listed
    simp only [bearers, Roster.registeredWhere, Roster.isActive, Roster.bearing?, hs, List.mem_filter,
      List.mem_range, present, List.contains_eq_mem, listed, true_and, Option.any_some,
      Bool.and_eq_true, Bool.decide_eq_true, Option.bind_some, and_self_left]

/-- An exact index has as many entries as there are live sessions with an identity. -/
theorem Live.length_bearers {stage : Stage} {srv : Server} (live : Live stage srv) :
    srv.roster.byIdentity.length = srv.bearers.length := by
  have distinct : (srv.roster.byIdentity.map Prod.snd).Nodup := by
    refine (nodup_of_keys live.keys).map_on ?_
    rintro ⟨name, id⟩ member ⟨name', id'⟩ member' same
    rcases same with rfl
    have named := ((live.entries name id).mp member).2
    have named' := ((live.entries name' id).mp member').2
    rw [Option.some.inj (named.symm.trans named')]
  have distinct' : srv.bearers.Nodup := List.nodup_range.filter _
  have same : (srv.roster.byIdentity.map Prod.snd).Perm srv.bearers := by
    refine (List.perm_ext_iff_of_nodup distinct distinct').mpr ?_
    intro id
    simp only [List.mem_map, Prod.exists, exists_eq_right, live.entries]
    rw [exists_and_left, live.mem_bearers, Roster.bearing?]
    simp [Option.isSome_iff_exists]
  rw [← same.length_eq, List.length_map]

/--
In every run whose handlers, when they are asked on behalf of a session, leave that session open:
whom the index finds is live and registered, only live sessions count towards the number of
identities and its limit, and a session loses an identity only to one that was not closed before
the identity was announced as its own.
-/
theorem run_index_live (plan : ServerPlan) (shardKey : RequestSender → Nat)
    (handlers : HandlerTable) (confined : handlers.Confined ServerEvent.Spares)
    (operations : List Operation) :
    let srv := (blank plan shardKey handlers).run operations
    (∀ identity id, srv.roster.findIdentity? identity = some id →
      srv.roster.isActive id = true ∧ srv.roster.find? id = some id) ∧
    srv.roster.identityCount = srv.bearers.length ∧
    srv.roster.atCapacity = (decide (0 < srv.roster.settings.maxIdentities) &&
      decide (srv.roster.settings.maxIdentities ≤ srv.bearers.length)) ∧
    ∀ operation id identity, srv.roster.bearing? id = some identity →
      (srv.step operation).roster.bearing? id = some identity ∨
        HandedOver srv.history id identity (srv.step operation).history := by
  intro srv
  have exact : Exact (blank plan shardKey handlers) srv :=
    run_preserves (P := Exact (blank plan shardKey handlers))
      (fun _ _ move exact => exact.move move) (fun _ _ => trivial) _ (exact_blank confined)
  refine ⟨?_, exact.live.length_bearers, ?_, ?_⟩
  · intro identity id found
    have active := ((exact.live.entries identity id).mp (Roster.mem_byIdentity_of_find found)).1
    have listed := (exact.live.registered id).mpr active
    exact ⟨active, by simp [Roster.find?, listed]⟩
  · rw [Roster.atCapacity, exact.live.count, exact.live.length_bearers]
  · intro operation id identity bore
    -- the same invariant again, now for one operation that starts here
    have anew : Exact srv srv := .refl exact.confined exact.settled exact.live
    have next : Exact srv (srv.step operation) :=
      (moves_step srv fun _ _ => trivial).preserves
        (fun _ _ move exact => exact.move move) anew
    rcases next.retained id identity bore with bears | ⟨_, -, due⟩ | handed
    · exact .inl bears
    · cases due
    · exact .inr handed

/-- Two sessions ask, one after the other. -/
def twoRequests : List Operation :=
  [.openWebSocket {} .loopback, .openWebSocket {} .loopback,
    .process ⟨.session 0, .connectionRequest .empty, .webSocket⟩,
    .process ⟨.session 1, .connectionRequest .empty, .webSocket⟩]

/-- Everyone is given the same identity; after a takeover session 0 is closed once more. -/
def obliging : HandlerTable :=
  let answer : Handler := fun _ _ => { outcome := .ok (.identity (some "ann")) }
  let close : Handler := fun _ _ => { actions := [.close 0 .administrative] }
  ((({} : HandlerTable).register .connectionEstablished answer).register .reconnectionRequest
    answer).register .reconnectionResult close

/-- After the takeover the index leads to session 1, which is live and the only one that counts. -/
theorem obliging_index_live :
    ((blank {} RequestSender.number obliging).run twoRequests).roster.isActive 1 = true ∧
      ((blank {} RequestSender.number obliging).run twoRequests).roster.find? 1 = some 1 ∧
      ((blank {} RequestSender.number obliging).run twoRequests).bearers.length = 1 := by
  have confined : obliging.Confined ServerEvent.Spares := by
    intro entry member calls event kind action performed
    -- only the announcement of a takeover makes its handler do anything
    have announced : entry.kind = .reconnectionResult ∧ action = .close 0 .administrative := by
      simp only [obliging, HandlerTable.register, List.mem_cons] at member
      rcases member with rfl | others
      · exact ⟨rfl, List.mem_singleton.mp performed⟩
      · rcases List.mem_filter.mp others with ⟨others, -⟩
        rcases List.mem_cons.mp others with rfl | first
        · cases performed
        · rcases List.mem_filter.mp first with ⟨first, -⟩
          rcases List.mem_singleton.mp first with rfl
          cases performed
    rcases announced with ⟨result, rfl⟩
    rw [result] at kind
    intro question
    cases event <;> simp [ServerEvent.kind, ServerEvent.isQuestion] at kind question
  have exact := run_index_live {} RequestSender.number obliging confined twoRequests
  have found := exact.1 "ann" 1 rfl
  exact ⟨found.1, found.2, exact.2.1.symm⟩

/-- Everyone is given the same identity, and session 1 is closed while it is asked about. -/
def selfClosing : HandlerTable :=
  let answer : Handler := fun _ _ => { outcome := .ok (.identity (some "ann")) }
  let close : Handler := fun calls _ =>
    if calls = 0 then {}
    else { actions := [.close 1 .administrative], outcome := .ok (.identity (some "ann")) }
  (({} : HandlerTable).register .connectionEstablished answer).register .reconnectionRequest close

/--
A handler that closes the session it is asked about and then names the identity of a live session:
the identity moves to the closed session, which stays in the index, and the live one is closed.
-/
theorem closed_session_indexed :
    let before := (blank {} RequestSender.number selfClosing).run (twoRequests.take 3)
    let after := (blank {} RequestSender.number selfClosing).run twoRequests
    (before.roster.findIdentity? "ann" = some 0 ∧ before.roster.isActive 0 = true) ∧
      after.roster.findIdentity? "ann" = some 1 ∧ after.roster.isActive 1 = false ∧
      after.roster.find? 1 = none ∧ after.roster.identityCount = 1 ∧
      after.roster.bearing? 0 = none ∧ after.roster.isActive 0 = false :=
  ⟨⟨rfl, rfl⟩, rfl, rfl, rfl, rfl, rfl, rfl⟩

end Runs

end Server

end SessionNet
