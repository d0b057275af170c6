import SessionNet.Proofs.Dispatch.Stages
import SessionNet.Server.Plan

/-!
# Association over runs of requests

A session is in the middle of an association only while its own request is processed, and once it
is associated it stays so. Its state becomes done only together with the binding of an identity,
and that at most once. All of this holds whatever requests are processed in whatever order and
however the handlers answer or fail, as long as they do not associate sessions themselves.

Association states, identities and the index change in three ways only: an attempt begins, it falls
back, or an identity is bound. Everything else that happens to a roster at most thins the index.
-/

namespace SessionNet

theorem mem_setEntry {κ : Type} [BEq κ] [LawfulBEq κ] {index : List (κ × SessionId)} {key : κ}
    {id : SessionId} {entry : κ × SessionId} :
    entry ∈ setEntry index key id ↔ entry = (key, id) ∨ entry ∈ index ∧ entry.1 ≠ key := by
  simp [setEntry]

namespace Roster

theorem mem_byIdentity_of_find {r : Roster} {identity : String} {id : SessionId}
    (found : r.findIdentity? identity = some id) : (identity, id) ∈ r.byIdentity :=
  mem_of_lookup found

end Roster

namespace Server

/-! ## Takeovers -/

section TakeOver

variable {srv : Server} {id old other : SessionId} {identity : String}

/-- The holder that a takeover is about is another one, active, and found by the index. -/
theorem liveHolder?_eq_some (live : srv.liveHolder? identity id = some old) :
    srv.roster.findIdentity? identity = some old ∧ srv.roster.isActive old = true ∧ old ≠ id := by
  rcases Option.filter_eq_some_iff.mp live with ⟨found, holds⟩
  have both : srv.roster.isActive old = true ∧ old ≠ id := by simpa using holds
  exact ⟨found, both⟩

/-- The server in the middle of a takeover: the identity is moved, and its old holder still open. -/
def moved (srv : Server) (identity : String) (id old : SessionId) : Server :=
  { srv with roster := (srv.roster.bind identity id).update old fun s => { s with identity? := none } }

theorem takeOver_eq (live : srv.liveHolder? identity id = some old) :
    srv.takeOver identity id = ((srv.moved identity id old).close old .reconnected).2 := by
  rcases liveHolder?_eq_some live with ⟨found, -, differs⟩
  have rebound : srv.roster.rebind identity id =
      (some old, (srv.moved identity id old).roster) := by
    simp [Roster.rebind, found, Option.filter, differs, moved]
  simp only [takeOver, rebound, moved]

/-- The old holder is open until it is closed as the last thing. -/
theorem session?_moved (live : srv.liveHolder? identity id = some old) :
    ∃ s, srv.session? old = some s ∧ s.isActive = true ∧
      (srv.moved identity id old).session? old = some { s with identity? := none } := by
  rcases liveHolder?_eq_some live with ⟨-, active, differs⟩
  rcases Roster.isActive_eq_true_iff.mp active with ⟨s, hs, hactive⟩
  refine ⟨s, hs, hactive, ?_⟩
  have updated : (srv.moved identity id old).roster.session? old = _ := Roster.session?_update_self
  rw [Roster.session?_bind_of_ne differs, hs] at updated
  exact updated

/-- A takeover binds the identity to the one session and disowns and closes the other. -/
theorem standing?_takeOver (live : srv.liveHolder? identity id = some old) :
    (srv.takeOver identity id).roster.standing? other =
      if other = old then (srv.roster.standing? other).map fun t => t.disown.close .reconnected
      else if other = id then (srv.roster.standing? other).map (·.bind identity)
      else srv.roster.standing? other := by
  have differs := (liveHolder?_eq_some live).2.2
  simp only [takeOver_eq live, roster_close, moved, Roster.standing?_close, Roster.standing?_disown,
    Roster.standing?_bind]
  by_cases same : other = old
  · subst same
    simp [differs, Function.comp_def]
  · simp [same]

theorem association?_takeOver (live : srv.liveHolder? identity id = some old) :
    (srv.takeOver identity id).roster.association? other =
      if other = id ∧ srv.roster.association? other = some .doing then some .done
      else srv.roster.association? other := by
  simp only [takeOver_eq live, roster_close, moved, Roster.association?_close, Roster.association?_disown,
    Roster.association?_bind]

theorem bearing?_takeOver (live : srv.liveHolder? identity id = some old) :
    (srv.takeOver identity id).roster.bearing? other =
      if other = old then none
      else if other = id ∧ (srv.roster.association? other).isSome then some identity
      else srv.roster.bearing? other := by
  simp only [takeOver_eq live, roster_close, moved, Roster.bearing?_close, Roster.bearing?_disown,
    Roster.bearing?_bind]

theorem isActive_takeOver (live : srv.liveHolder? identity id = some old) :
    (srv.takeOver identity id).roster.isActive other = (other != old && srv.roster.isActive other) := by
  simp only [takeOver_eq live, roster_close, moved, Roster.isActive_close, Roster.isActive_disown,
    Roster.isActive_bind]

/-- The closed session gives up no entry, because it bears no identity any more. -/
theorem byIdentity_takeOver (live : srv.liveHolder? identity id = some old) :
    (srv.takeOver identity id).roster.byIdentity = setEntry srv.roster.byIdentity identity id := by
  rw [takeOver_eq live, roster_close]
  rcases session?_moved live with ⟨s, -, hactive, disowned⟩
  cases hmanaged : s.isManaged with
  | false =>
    rw [(Roster.close_of_unmanaged disowned hmanaged).2.1]
    exact Roster.byIdentity_bind
  | true =>
    rw [(Roster.close_of_managed .reconnected disowned hactive hmanaged).2.1]
    exact Roster.byIdentity_bind

end TakeOver

/-! ## How association changes -/

/-- The session whose attempt is under way. -/
def Stage.attempt? : Stage → Option SessionId
  | .attempt id => some id
  | _ => none

/-- Whether nothing can have been bound yet. -/
def Stage.isEarly : Stage → Bool
  | .ready => true
  | .attempt _ => true
  | _ => false

/-- A roster in which all sessions are as associated as they were and bear what they bore. -/
structure Thinned (r r' : Roster) : Prop where
  association : ∀ id, r'.association? id = r.association? id
  bearing : ∀ id, r'.bearing? id = r.bearing? id
  /-- Entries of the index can be gone, but none is new. -/
  index : ∀ entry ∈ r'.byIdentity, entry ∈ r.byIdentity

namespace Thinned

variable {r r' r'' : Roster} {srv srv' : Server} {id : SessionId}

theorem refl (r : Roster) : Thinned r r := ⟨fun _ => rfl, fun _ => rfl, fun _ member => member⟩

theorem trans (first : Thinned r r') (second : Thinned r' r'') : Thinned r r'' where
  association id := (second.association id).trans (first.association id)
  bearing id := (second.bearing id).trans (first.bearing id)
  index entry member := first.index entry (second.index entry member)

theorem close (r : Roster) (id : SessionId) (reason : CloseReason) :
    Thinned r (r.close id reason).2 where
  association _ := Roster.association?_close reason
  bearing _ := Roster.bearing?_close reason
  index _ := Roster.mem_byIdentity_of_close

theorem of_sameStanding (same : SameStanding srv srv') : Thinned srv.roster srv'.roster := by
  refine ⟨?_, ?_, ?_⟩
  · intro id
    simp only [Roster.association?_eq_standing, same.standing]
  · intro id
    simp only [Roster.bearing?_eq_standing, same.standing]
  · intro entry member
    rwa [same.byIdentity] at member

/-- Whatever a handler does while it runs, it binds nothing. -/
theorem of_emits {mayClose : ServerEvent → SessionId → Prop} {event : ServerEvent}
    (emits : Emits mayClose event srv srv') : Thinned srv.roster srv'.roster := by
  rcases emits with ⟨delivered, drift⟩
  refine drift.preserves (P := fun later => Thinned srv.roster later.roster) ?_ ?_ (.refl _)
  · intro later id reason _ thinned
    rw [roster_close]
    exact thinned.trans (.close _ id reason)
  · intro later later' same thinned
    exact thinned.trans (.of_sameStanding same)

end Thinned

/-- One change of association states, identities or the index, at a stage of a request. -/
inductive Shift : Stage × Roster → Stage × Roster → Prop
  | thin {stage stage' : Stage} {r r' : Roster} (attempt : stage'.attempt? = stage.attempt?)
      (early : stage'.isEarly = true → stage.isEarly = true) (thinned : Thinned r r') :
      Shift (stage, r) (stage', r')
  | begin {r : Roster} {id : SessionId} (free : r.association? id = some .none) :
      Shift (.ready, r) (.attempt id, (r.transition id .none .doing).2)
  | fallBack {stage : Stage} {r : Roster} {id : SessionId}
      (given : ∀ other, stage.attempt? = some other → other = id) :
      Shift (stage, r) (.over, (r.transition id .doing .none).2)
  /-- The session bears the identity; another one may bear none instead of what it bore. -/
  | bind {r r' : Roster} {id : SessionId} {identity : String}
      (association : ∀ other, r'.association? other =
        if other = id ∧ r.association? other = some .doing then some .done
        else r.association? other)
      (bearing : (r.association? id).isSome = true → r'.bearing? id = some identity)
      (others : ∀ other, other ≠ id → r'.bearing? other = r.bearing? other ∨
        r'.bearing? other = none ∧ ∃ name, (name, other) ∈ r.byIdentity)
      (index : r'.byIdentity = setEntry r.byIdentity identity id) :
      Shift (.attempt id, r) (.bound id identity, r')

/-- What association states, identities and the index have to do with each other at a stage. -/
structure Settled (stage : Stage) (r : Roster) : Prop where
  attempt : ∀ id, r.association? id = some .doing ↔ stage.attempt? = some id
  /-- Who is not associated bears no identity. -/
  unbound : ∀ id, r.association? id ≠ some .done → r.bearing? id = none
  /-- The index leads to associated sessions only. -/
  indexed : ∀ identity id, (identity, id) ∈ r.byIdentity → r.association? id = some .done

section Shifts

variable {mayClose : ServerEvent → SessionId → Prop} {request : Request} {srv : Server}
variable {id : SessionId} {identity : String} {a b : Stage × Server} {r : Roster}

theorem shift_takeOver {old : SessionId} (live : srv.liveHolder? identity id = some old) :
    Shift (.attempt id, srv.roster) (.bound id identity, (srv.takeOver identity id).roster) := by
  have found := Roster.mem_byIdentity_of_find (liveHolder?_eq_some live).1
  have differs := (liveHolder?_eq_some live).2.2
  refine .bind (fun _ => association?_takeOver live) ?_ ?_ (byIdentity_takeOver live)
  · intro present
    simp [bearing?_takeOver live, Ne.symm differs, present]
  · intro other another
    by_cases disowned : other = old
    · subst disowned
      exact .inr ⟨by simp [bearing?_takeOver live], identity, found⟩
    · exact .inl (by simp [bearing?_takeOver live, disowned, another])

theorem shift_associate (success : (r.associate identity id).1 = .success) :
    Shift (.attempt id, r) (.bound id identity, (r.associate identity id).2) := by
  have bound : ∀ count, Shift (.attempt id, r)
      (.bound id identity, ({ r with boundIdentities := count } : Roster).bind identity id) := by
    intro count
    refine .bind (fun _ => Roster.association?_bind) ?_ ?_ Roster.byIdentity_bind
    · intro present
      have present' : (({ r with boundIdentities := count } : Roster).association? id).isSome = true :=
        present
      simp [Roster.bearing?_bind, present']
    · intro other another
      have kept : (({ r with boundIdentities := count } : Roster).bind identity id).bearing? other =
          ({ r with boundIdentities := count } : Roster).bearing? other := by
        simp [Roster.bearing?_bind, another]
      exact .inl kept
  -- the identity is new, or its holder is closed and its entry counted already
  rcases Roster.associate_of_success success with ⟨holder, -, -, heq⟩ | ⟨-, heq⟩
  · rw [heq]
    exact bound r.boundIdentities
  · rw [heq]
    exact bound (r.boundIdentities + 1)

/-- The session of an attempt is under no identity in the index. -/
theorem Settled.not_found (settled : Settled (.attempt id) r) :
    r.findIdentity? identity ≠ some id := by
  intro found
  have done := settled.indexed identity id (Roster.mem_byIdentity_of_find found)
  rw [(settled.attempt id).mpr rfl] at done
  cases done

/-- Every step of a request is a sequence of such changes. -/
theorem shifts_of_step (step : Step mayClose request a b) (settled : Settled a.1 a.2.roster) :
    Relation.ReflTransGen Shift (a.1, a.2.roster) (b.1, b.2.roster) := by
  cases step with
  | skip => exact .single (.thin rfl (by simp [Stage.isEarly]) (.refl _))
  | aside same => exact .single (.thin rfl id (.of_sameStanding same))
  | remark _ emits => exact .single (.thin rfl id (.of_emits emits))
  | deliver _ _ _ _ emits =>
    exact .single (.thin rfl (by simp [Stage.isEarly]) (.of_emits emits))
  | report _ emits => exact .single (.thin rfl (by simp [Stage.isEarly]) (.of_emits emits))
  | begin _ _ free => exact .single (.begin free)
  | ask _ _ emits => exact .single (.thin rfl id (.of_emits emits))
  | takeOver live => exact .single (shift_takeOver live)
  | associate success => exact .single (shift_associate success)
  | already found _ => exact absurd found settled.not_found
  | refuse _ emits =>
    -- the attempt falls back first, and then the refusal is announced
    refine .head (.fallBack ?_) (.single (.thin rfl id (.of_emits emits)))
    intro other here
    exact (Option.some.inj here).symm
  | announce _ _ emits => exact .single (.thin rfl (by simp [Stage.isEarly]) (.of_emits emits))
  | fallBack given =>
    refine .single (.fallBack ?_)
    intro other here
    rcases given with rfl | rfl
    · exact (Option.some.inj here).symm
    · cases here
  | close id reason =>
    rw [roster_close]
    exact .single (.thin rfl (by simp) (.close _ id reason))

end Shifts

/-! ## Between requests nothing is under way -/

section Settles

variable {stage : Stage} {r : Roster} {id : SessionId} {a b : Stage × Roster}

theorem Settled.shift (shift : Shift a b) (settled : Settled a.1 a.2) : Settled b.1 b.2 := by
  cases shift with
  | thin attempt _ thinned =>
    refine ⟨?_, ?_, ?_⟩
    · intro id
      rw [thinned.association, attempt]
      exact settled.attempt id
    · intro id unfinished
      rw [thinned.association] at unfinished
      rw [thinned.bearing]
      exact settled.unbound id unfinished
    · intro identity id member
      rw [thinned.association]
      exact settled.indexed identity id (thinned.index _ member)
  | begin free =>
    rename_i r id
    refine ⟨?_, ?_, ?_⟩
    · intro other
      have before := settled.attempt other
      simp only [Roster.association?_transition, Stage.attempt?] at before ⊢
      by_cases same : other = id
      · subst same
        simp [free]
      · simpa [same, Ne.symm same] using before
    · intro other unfinished
      rw [Roster.association?_transition] at unfinished
      rw [Roster.bearing?_transition]
      refine settled.unbound other ?_
      intro done
      simp [done] at unfinished
    · intro identity other member
      rw [Roster.byIdentity_transition] at member
      have done := settled.indexed identity other member
      simp [Roster.association?_transition, done]
  | fallBack given =>
    rename_i stage r id
    refine ⟨?_, ?_, ?_⟩
    · intro other
      simp only [Roster.association?_transition, Stage.attempt?, reduceCtorEq, iff_false]
      -- the only session that could be in an attempt is the one that falls back
      intro attempt
      split at attempt
      · cases attempt
      · rename_i others
        have here := (settled.attempt other).mp attempt
        exact others ⟨given other here, attempt⟩
    · intro other unfinished
      rw [Roster.association?_transition] at unfinished
      rw [Roster.bearing?_transition]
      refine settled.unbound other ?_
      intro done
      simp [done] at unfinished
    · intro identity other member
      rw [Roster.byIdentity_transition] at member
      have done := settled.indexed identity other member
      simp [Roster.association?_transition, done]
  | bind association bearing others index =>
    rename_i r r' id identity
    have attempt : r.association? id = some .doing := (settled.attempt id).mpr rfl
    refine ⟨?_, ?_, ?_⟩
    · intro other
      have before := settled.attempt other
      simp only [association, Stage.attempt?] at before ⊢
      by_cases same : other = id
      · subst same
        simp [attempt]
      · simpa [same, Ne.symm same] using before
    · intro other unfinished
      rw [association] at unfinished
      by_cases same : other = id
      · simp [same, attempt] at unfinished
      · have before := settled.unbound other (by simpa [same] using unfinished)
        rcases others other same with kept | ⟨taken, -⟩
        · exact kept.trans before
        · exact taken
    · intro name other member
      rw [index, mem_setEntry] at member
      rw [association]
      rcases member with new | ⟨before, -⟩
      · cases new
        simp [attempt]
      · simp [settled.indexed name other before]

theorem Settled.shifts (shifts : Relation.ReflTransGen Shift a b) (settled : Settled a.1 a.2) :
    Settled b.1 b.2 := by
  induction shifts with
  | refl => exact settled
  | tail _ shift ih => exact ih.shift shift

end Settles

/-! ## What a request has changed so far -/

/-- The session bears an identity, or is found under one, that was not its own. -/
def Binds (r r' : Roster) (id : SessionId) : Prop :=
  ∃ identity, (r'.bearing? id = some identity ∧ r.bearing? id ≠ some identity) ∨
    (identity, id) ∈ r'.byIdentity ∧ (identity, id) ∉ r.byIdentity

/-- How a roster at a stage of a request compares with the roster the request began with. -/
structure Since (start : Roster) (stage : Stage) (r : Roster) : Prop where
  absent : ∀ id, start.association? id = none → r.association? id = none
  kept : ∀ id, start.association? id = some .done → r.association? id = some .done
  early : stage.isEarly = true →
    ∀ id, r.association? id = some .done → start.association? id = some .done
  /-- Who has become associated bears an identity. -/
  gained : ∀ id, r.association? id = some .done →
    start.association? id = some .done ∨ ∃ identity, r.bearing? id = some identity
  /-- Only who has become associated was bound. -/
  news : ∀ id, Binds start r id →
    start.association? id ≠ some .done ∧ r.association? id = some .done

namespace Since

variable {start r r' : Roster} {stage stage' : Stage} {id : SessionId} {a b : Stage × Roster}

theorem refl (r : Roster) : Since r .ready r where
  absent _ h := h
  kept _ h := h
  early _ _ h := h
  gained _ h := .inl h
  news := by
    rintro id ⟨identity, ⟨bears, other⟩ | ⟨found, missing⟩⟩
    · exact absurd bears other
    · exact absurd found missing

/-- A change of states only, from none to doing or back. -/
theorem transition {source target : AssociationState} (since : Since start stage r)
    (hsource : source ≠ .done) (htarget : target ≠ .done)
    (early : stage'.isEarly = true → stage.isEarly = true) :
    Since start stage' (r.transition id source target).2 := by
  -- neither end of the move is done, so who is associated stays the same
  have done : ∀ other, (r.transition id source target).2.association? other = some .done ↔
      r.association? other = some .done := by
    intro other
    rw [Roster.association?_transition]
    split
    · rename_i this
      simp [this.2, hsource, htarget]
    · exact .rfl
  refine ⟨?_, ?_, ?_, ?_, ?_⟩
  · intro other absent
    simp [Roster.association?_transition, since.absent other absent]
  · intro other before
    exact (done other).mpr (since.kept other before)
  · intro here other after
    exact since.early (early here) other ((done other).mp after)
  · intro other after
    rw [Roster.bearing?_transition]
    exact since.gained other ((done other).mp after)
  · intro other binds
    simp only [Binds, Roster.bearing?_transition, Roster.byIdentity_transition] at binds
    rw [done]
    exact since.news other binds

theorem shift (shift : Shift a b) (settled : Settled a.1 a.2) (since : Since start a.1 a.2) :
    Since start b.1 b.2 := by
  cases shift with
  | thin _ early thinned =>
    refine ⟨?_, ?_, ?_, ?_, ?_⟩
    · intro id absent
      exact (thinned.association id).trans (since.absent id absent)
    · intro id before
      exact (thinned.association id).trans (since.kept id before)
    · intro here id after
      rw [thinned.association] at after
      exact since.early (early here) id after
    · intro id after
      rw [thinned.association] at after
      rw [thinned.bearing]
      exact since.gained id after
    · intro id binds
      rw [thinned.association]
      refine since.news id ?_
      rcases binds with ⟨identity, ⟨bears, other⟩ | ⟨found, missing⟩⟩
      · exact ⟨identity, .inl ⟨(thinned.bearing id).symm.trans bears, other⟩⟩
      · exact ⟨identity, .inr ⟨thinned.index _ found, missing⟩⟩
  | begin => exact since.transition (by decide) (by decide) fun _ => rfl
  | fallBack => exact since.transition (by decide) (by decide) (by simp [Stage.isEarly])
  | bind association bearing others index =>
    rename_i r r' id identity
    have attempt : r.association? id = some .doing := (settled.attempt id).mpr rfl
    have fresh : start.association? id ≠ some .done := by
      intro done
      have still := since.kept id done
      rw [attempt] at still
      cases still
    refine ⟨?_, ?_, by simp [Stage.isEarly], ?_, ?_⟩
    · intro other absent
      simp [association, since.absent other absent]
    · intro other before
      simp [association, since.kept other before]
    · intro other after
      rw [association] at after
      by_cases same : other = id
      · subst same
        exact .inr ⟨identity, bearing (by simp [attempt])⟩
      · -- nobody else became associated before this
        exact .inl (since.early rfl other (by simpa [same] using after))
    · intro other binds
      by_cases same : other = id
      · subst same
        exact ⟨fresh, by simp [association, attempt]⟩
      · have before : Binds start r other := by
          rcases binds with ⟨name, ⟨bears, differs⟩ | ⟨found, missing⟩⟩
          · rcases others other same with kept | ⟨taken, -⟩
            · exact ⟨name, .inl ⟨kept.symm.trans bears, differs⟩⟩
            · rw [taken] at bears
              cases bears
          · rw [index, mem_setEntry] at found
            rcases found with new | ⟨old, -⟩
            · exact absurd (congrArg Prod.snd new) same
            · exact ⟨name, .inr ⟨old, missing⟩⟩
        simpa [association, same] using since.news other before

theorem shifts (shifts : Relation.ReflTransGen Shift a b) (settled : Settled a.1 a.2)
    (since : Since start a.1 a.2) : Since start b.1 b.2 := by
  induction shifts with
  | refl => exact since
  | tail before shift ih => exact ih.shift shift (settled.shifts before)

end Since

theorem Settled.step {mayClose : ServerEvent → SessionId → Prop} {request : Request}
    {a b : Stage × Server} (step : Step mayClose request a b) (settled : Settled a.1 a.2.roster) :
    Settled b.1 b.2.roster :=
  settled.shifts (shifts_of_step step settled)

/-! ## Runs of requests -/

section Run

variable {srv : Server} {request : Request} {id : SessionId}

theorem settled_process (request : Request) (confined : srv.handlers.Confined fun _ _ => True)
    (settled : Settled .ready srv.roster) :
    Settled .ready (srv.process request).roster ∧
      Since srv.roster .over (srv.process request).roster := by
  have whole : Settled .over (srv.process request).roster ∧
      Since srv.roster .over (srv.process request).roster := by
    have path : Path (fun _ _ => True) request (.ready, srv) (.over, srv.process request) :=
      process_path confined
    refine path.preserves
      (P := fun stage later => Settled stage later.roster ∧ Since srv.roster stage later.roster) ?_
      ⟨settled, .refl _⟩
    rintro a b step ⟨settled, since⟩
    exact ⟨settled.step step, since.shifts (shifts_of_step step settled) settled⟩
  -- neither before nor after a request is there an attempt
  exact ⟨⟨whole.1.attempt, whole.1.unbound, whole.1.indexed⟩, whole.2⟩

/-- The server after requests were processed in order. -/
def processAll (srv : Server) (requests : List Request) : Server := requests.foldl process srv

theorem processAll_append (srv : Server) (requests more : List Request) :
    srv.processAll (requests ++ more) = (srv.processAll requests).processAll more := by
  simp only [processAll, List.foldl_append]

theorem settled_processAll (requests : List Request)
    (confined : srv.handlers.Confined fun _ _ => True)
    (settled : Settled .ready srv.roster) :
    (srv.processAll requests).handlers.Confined (fun _ _ => True) ∧
      Settled .ready (srv.processAll requests).roster := by
  induction requests generalizing srv with
  | nil => exact ⟨confined, settled⟩
  | cons request rest ih => exact ih (confined_process confined) (settled_process request confined settled).1

/-- Who is associated stays so. -/
theorem done_processAll (requests : List Request)
    (confined : srv.handlers.Confined fun _ _ => True)
    (settled : Settled .ready srv.roster) (done : srv.roster.association? id = some .done) :
    (srv.processAll requests).roster.association? id = some .done := by
  induction requests generalizing srv with
  | nil => exact done
  | cons request rest ih =>
    have next := settled_process request confined settled
    exact ih (confined_process confined) next.1 (next.2.kept id done)

/-- A request associates a session exactly if it binds an identity to it. -/
theorem done_iff_binds (confined : srv.handlers.Confined fun _ _ => True)
    (settled : Settled .ready srv.roster) :
    srv.roster.association? id = some .none ∧
        (srv.process request).roster.association? id = some .done ↔
      Binds srv.roster (srv.process request).roster id := by
  have since := (settled_process request confined settled).2
  constructor
  · rintro ⟨free, done⟩
    have unbound : srv.roster.bearing? id = none := settled.unbound id (by simp [free])
    rcases since.gained id done with before | ⟨identity, bears⟩
    · rw [free] at before
      cases before
    · exact ⟨identity, .inl ⟨bears, by simp [unbound]⟩⟩
  · intro binds
    rcases since.news id binds with ⟨unfinished, done⟩
    refine ⟨?_, done⟩
    -- a session that is there and not associated is free, as no attempt is under way
    cases here : srv.roster.association? id with
    | none =>
      have absent := since.absent id here
      rw [done] at absent
      cases absent
    | some state =>
      cases state with
      | none => rfl
      | doing => cases (settled.attempt id).mp here
      | done => exact absurd here unfinished

/-- A session that waits too long for its association is not associated. -/
theorem not_orphan_of_done {r : Roster} (done : r.association? id = some .done) (now : Instant) :
    id ∉ r.registeredWhere (·.isOrphanAt now) := by
  intro orphan
  rcases Option.map_eq_some_iff.mp done with ⟨s, hs, associated⟩
  simp [Roster.registeredWhere, hs, Session.isOrphanAt, associated] at orphan

/--
Requests are processed in any order, by handlers that answer, fail, panic and close sessions as
they like but do not associate them. No session is left in an attempt; who is associated stays so
and is no orphan; a session becomes associated in exactly those requests that bind an identity to
it, and there is at most one of these.
-/
theorem processAll_association (srv : Server) (confined : srv.handlers.Confined fun _ _ => True)
    (fresh : ∀ id s, srv.session? id = some s → s.association = .none ∧ s.identity? = none)
    (unindexed : srv.roster.byIdentity = []) (requests : List Request) (id : SessionId) :
    (srv.processAll requests).roster.association? id ≠ some .doing ∧
    ((srv.processAll requests).roster.association? id = some .done → ∀ more now,
      (srv.processAll (requests ++ more)).roster.association? id = some .done ∧
        id ∉ (srv.processAll (requests ++ more)).roster.registeredWhere (·.isOrphanAt now)) ∧
    (∀ request,
      (srv.processAll requests).roster.association? id = some .none ∧
          (srv.processAll (requests ++ [request])).roster.association? id = some .done ↔
        Binds (srv.processAll requests).roster (srv.processAll (requests ++ [request])).roster id) ∧
    ∀ request more later,
      Binds (srv.processAll requests).roster (srv.processAll (requests ++ [request])).roster id →
      ¬ Binds (srv.processAll (requests ++ request :: more)).roster
        (srv.processAll (requests ++ request :: more ++ [later])).roster id := by
  have start : Settled .ready srv.roster := by
    have unassociated : ∀ id, srv.roster.association? id = some .none ∨
        srv.roster.association? id = none := by
      intro id
      cases hs : srv.session? id with
      | none => exact .inr (congrArg (Option.map _) hs)
      | some s => exact .inl ((congrArg (Option.map _) hs).trans (congrArg some (fresh id s hs).1))
    refine ⟨?_, ?_, ?_⟩
    · intro id
      rcases unassociated id with free | absent
      · simp [free, Stage.attempt?]
      · simp [absent, Stage.attempt?]
    · intro id _
      refine Option.bind_eq_none_iff.mpr ?_
      intro s hs
      exact (fresh id s hs).2
    · intro identity id member
      simp [unindexed] at member
  rcases settled_processAll requests confined start with ⟨confined', settled⟩
  have next : ∀ request, srv.processAll (requests ++ [request]) =
      (srv.processAll requests).process request := by
    intro request
    rw [processAll_append]
    rfl
  refine ⟨?_, ?_, ?_, ?_⟩
  · intro attempt
    cases (settled.attempt id).mp attempt
  · intro done more now
    rw [processAll_append]
    have still := done_processAll more confined' settled done
    exact ⟨still, not_orphan_of_done still now⟩
  · intro request
    rw [next]
    exact done_iff_binds confined' settled
  · intro request more later binds
    rw [next] at binds
    -- the session is associated after the first, so none of the others can associate it
    have done := ((done_iff_binds confined' settled).mpr binds).2
    have following := settled_process request confined' settled
    have still := done_processAll more (confined_process confined') following.1 done
    have whole : srv.processAll (requests ++ request :: more) =
        ((srv.processAll requests).process request).processAll more := by
      rw [processAll_append]
      rfl
    rcases settled_processAll (requests ++ request :: more) confined start with
      ⟨confined'', settled''⟩
    rw [processAll_append srv (requests ++ request :: more)]
    intro again
    have free := ((done_iff_binds confined'' settled'').mpr again).1
    rw [whole, still] at free
    cases free

/-- The handler panics when it is first asked, and then names an identity and closes session 1. -/
def wavering : Server :=
  let roster : Roster := {}
  let session := { (roster.freshSession (some .loopback) 0).activate with transport := .webSocket {} }
  let handler : Handler := fun calls _ =>
    if calls = 0 then { outcome := .error .panicked }
    else { actions := [.close 1 .administrative], outcome := .ok (.identity (some "ann")) }
  { Server.create {} with
    roster := { roster with sessions := [session, session], registered := [1, 0] }
    handlers := ({} : HandlerTable).register .connectionEstablished handler }

/-- Session 0 asks twice, and its second request associates it. -/
theorem wavering_association :
    let request : Request := ⟨.session 0, .connectionRequest .empty, .webSocket⟩
    (wavering.processAll [request]).roster.association? 0 = some .none ∧
      Binds (wavering.processAll [request]).roster (wavering.processAll [request, request]).roster 0 ∧
      ∀ more now,
        0 ∉ (wavering.processAll ([request, request] ++ more)).roster.registeredWhere
          (·.isOrphanAt now) := by
  intro request
  have confined : wavering.handlers.Confined fun _ _ => True := by
    intro entry member calls event _ action performed
    rcases List.mem_singleton.mp member with rfl
    cases calls with
    | zero => cases performed
    | succ n =>
      rcases List.mem_singleton.mp performed with rfl
      exact trivial
  have fresh : ∀ id s, wavering.session? id = some s → s.association = .none ∧ s.identity? = none := by
    intro id s hs
    have member : s ∈ wavering.roster.sessions := List.mem_of_getElem? hs
    rcases List.mem_cons.mp member with rfl | others
    · exact ⟨rfl, rfl⟩
    · rcases List.mem_singleton.mp others with rfl
      exact ⟨rfl, rfl⟩
  have free : (wavering.processAll [request]).roster.association? 0 = some .none := rfl
  have done : (wavering.processAll [request, request]).roster.association? 0 = some .done := rfl
  have first := processAll_association wavering confined fresh rfl [request] 0
  have second := processAll_association wavering confined fresh rfl [request, request] 0
  exact ⟨free, (first.2.2.1 request).mp ⟨free, done⟩, fun more now => (second.2.1 done more now).2⟩

end Run

end Server

end SessionNet
