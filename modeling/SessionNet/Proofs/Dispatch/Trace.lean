import SessionNet.Proofs.Dispatch.Endings
import SessionNet.Proofs.Server.Operations

/-!
# The events about a session over a run

The events about one session are in order in every run in which requests reach the shards through
the dispatcher. The invariant says for one session how the progress of its events fits its standing,
and it counts the ends of the session beside that: the messages that wait may only be read by an
associated session, and what follows the last event would need an open one.
-/

namespace SessionNet

namespace Server

/-! ## How far the events have come -/

/-- How the progress of a session's events fits its standing. -/
structure Fits (id : SessionId) (stage : Stage) (r : Roster) (p : Progress) : Prop where
  unassociated : r.association? id ≠ some .done → ∀ identity, p ≠ .announced identity
  attempt : stage.attempt? = some id → p = .waiting
  /-- What was bound is still to be announced. -/
  due : ∀ identity, stage = .bound id identity →
    p = .waiting ∧ r.association? id = some .done ∧ r.bearing? id = some identity
  told : (∀ identity, stage ≠ .bound id identity) → r.association? id = some .done →
    r.isActive id = true → ∃ identity, p = .announced identity ∧ r.bearing? id = some identity

namespace Fits

variable {id other : SessionId} {stage stage' : Stage} {r r' : Roster} {srv srv' : Server}
variable {p : Progress} {identity : String}

theorem of_views (fits : Fits id stage r p)
    (hdone : r'.association? id = some .done ↔ r.association? id = some .done)
    (hbearing : r'.bearing? id = r.bearing? id)
    (hactive : r'.isActive id = true → r.isActive id = true)
    (hattempt : stage'.attempt? = some id → p = .waiting)
    (hbound : ∀ identity, stage' = .bound id identity ↔ stage = .bound id identity) :
    Fits id stage' r' p := by
  refine ⟨?_, hattempt, ?_, ?_⟩
  · rw [ne_eq, hdone]
    exact fits.unassociated
  · intro identity here
    rw [hdone, hbearing]
    exact fits.due identity ((hbound identity).mp here)
  · intro free
    rw [hdone, hbearing]
    intro done active
    exact fits.told (fun identity here => free identity ((hbound identity).mpr here)) done
      (hactive active)

theorem close (fits : Fits id stage r p) (other : SessionId) (reason : CloseReason) :
    Fits id stage (r.close other reason).2 p := by
  refine fits.of_views ?_ (Roster.bearing?_close reason) ?_ fits.attempt fun _ => .rfl
  · rw [Roster.association?_close]
  · rw [Roster.isActive_close]
    intro both
    exact (Bool.and_eq_true_iff.mp both).2

theorem sameStanding (fits : Fits id stage srv.roster p) (same : SameStanding srv srv') :
    Fits id stage srv'.roster p := by
  have thinned := Thinned.of_sameStanding same
  refine fits.of_views ?_ (thinned.bearing id) ?_ fits.attempt fun _ => .rfl
  · rw [thinned.association]
  · rw [same.isActive]
    exact fun active => active

/-- An attempt that begins or falls back changes nothing about who is associated. -/
theorem transition {source target : AssociationState} (fits : Fits id stage r p)
    (hsource : source ≠ .done) (htarget : target ≠ .done)
    (hattempt : stage'.attempt? = some id → p = .waiting)
    (hbound : ∀ identity, stage' = .bound id identity ↔ stage = .bound id identity) :
    Fits id stage' (r.transition other source target).2 p := by
  refine fits.of_views ?_ (Roster.bearing?_transition source target) ?_ hattempt hbound
  · rw [Roster.association?_transition]
    split
    · rename_i this
      simp [this.2, hsource, htarget]
    · exact .rfl
  · rw [Roster.isActive_transition]
    exact fun active => active

/-- The session of an attempt is bound, and others lose an identity only with their standing. -/
theorem bound {taker : SessionId} (fits : Fits id (.attempt taker) r p)
    (doing : r.association? taker = some .doing)
    (association : ∀ other, r'.association? other =
      if other = taker ∧ r.association? other = some .doing then some .done
      else r.association? other)
    (bearing : r'.bearing? taker = some identity)
    (others : ∀ other, other ≠ taker → r'.isActive other = true →
      r.isActive other = true ∧ r'.bearing? other = r.bearing? other) :
    Fits id (.bound taker identity) r' p := by
  by_cases same : id = taker
  · -- its success is due now, and nothing was announced before
    subst same
    have waiting : p = .waiting := fits.attempt rfl
    refine ⟨?_, fun _ => waiting, ?_, ?_⟩
    · intro _ name
      simp [waiting]
    · rintro _ ⟨⟩
      exact ⟨waiting, by simp [association, doing], bearing⟩
    · intro free
      exact absurd rfl (free identity)
  · have kept : r'.association? id = r.association? id := by simp [association, same]
    refine ⟨?_, ?_, ?_, ?_⟩
    · rw [kept]
      exact fits.unassociated
    · rintro ⟨⟩
    · rintro name here
      cases here
      exact absurd rfl same
    · intro _ done active
      rw [kept] at done
      rcases others id same active with ⟨before, bears⟩
      rw [bears]
      exact fits.told (fun _ here => by cases here) done before

end Fits

/-! ## One session over a run -/

/-- The events about a session are in order so far, and their progress fits the state. -/
structure Traced (owed : Prop) (id : SessionId) (hand? : Option Request) (stage : Stage)
    (srv : Server) (p : Progress) : Prop where
  passes : Progress.waiting.through (srv.eventsOf id) = some p
  counted : Counted owed id hand? srv p
  fits : Fits id stage srv.roster p

namespace Traced

variable {owed : Prop} {id : SessionId} {hand? hand?' : Option Request} {stage stage' : Stage}
variable {srv srv' : Server} {p q : Progress} {identity : String} {request : Request}
variable {mayClose : ServerEvent → SessionId → Prop} {event : ServerEvent}

/-- Nothing is over for a session that is open, and nothing announced before it is associated. -/
theorem waiting_of_active (traced : Traced owed id hand? stage srv p)
    (active : srv.roster.isActive id = true)
    (unassociated : srv.roster.association? id ≠ some .done) : p = .waiting := by
  have none := traced.counted.endings_of_active active
  cases p with
  | waiting => rfl
  | announced identity => exact absurd rfl (traced.fits.unassociated unassociated identity)
  | ended => simp [endings] at none

theorem sameStanding (traced : Traced owed id hand? stage srv p) (same : SameStanding srv srv') :
    Traced owed id hand? stage srv' p := by
  refine ⟨?_, traced.counted.sameStanding same, traced.fits.sameStanding same⟩
  rw [eventsOf, same.history]
  exact traced.passes

theorem eventsOf_close (srv : Server) (other : SessionId) (reason : CloseReason) :
    (srv.close other reason).2.eventsOf id = srv.eventsOf id := by
  rcases history_close srv other reason with same | grown
  · simp only [eventsOf, same]
  · have recorded : (srv.record (.closed other reason)).eventsOf id = srv.eventsOf id :=
      eventsOf_closed
    simpa only [eventsOf, grown, Server.record] using recorded

theorem close (traced : Traced owed id hand? stage srv p) (routed : Routed srv) (other : SessionId)
    (reason : CloseReason) : Traced owed id hand? stage (srv.close other reason).2 p := by
  refine ⟨?_, traced.counted.close routed other reason, ?_⟩
  · rw [eventsOf_close]
    exact traced.passes
  · rw [roster_close]
    exact traced.fits.close other reason

theorem drift {allowed : SessionId → Prop} (traced : Traced owed id hand? stage srv p)
    (routed : Routed srv) (drift : Drift allowed srv srv') : Traced owed id hand? stage srv' p := by
  refine (drift.preserves (P := fun srv => Routed srv ∧ Traced owed id hand? stage srv p) ?_ ?_
    ⟨routed, traced⟩).2
  · rintro srv id reason _ ⟨routed, traced⟩
    exact ⟨routed.close reason, traced.close routed id reason⟩
  · rintro srv srv' same ⟨routed, traced⟩
    exact ⟨routed.sameStanding same, traced.sameStanding same⟩

/-- An event about the session that may come now, and all that its handler does. -/
theorem emits_about (traced : Traced owed id hand? stage srv p) (routed : Routed srv)
    (about : event.about? = some id) (advances : p.advance event = some q)
    (counted : ∀ later, Counted owed id hand? later p → Counted owed id hand?' later q)
    (fits : Fits id stage' srv.roster q) (emits : Emits mayClose event srv srv') :
    Traced owed id hand?' stage' srv' q := by
  rcases emits with ⟨delivered, drift⟩
  have recorded : Routed (srv.record (.event event delivered)) := { routed with }
  have same : Counted owed id hand? (srv.record (.event event delivered)) p :=
    { traced.counted with }
  have here : Traced owed id hand?' stage' (srv.record (.event event delivered)) q := by
    refine ⟨?_, counted _ same, fits⟩
    rw [eventsOf_record, if_pos about, Progress.through_concat traced.passes, advances]
  exact here.drift recorded drift

/-- An event that changes nothing about the progress. -/
theorem emits (traced : Traced owed id hand? stage srv p) (routed : Routed srv)
    (admitted : event.about? = some id → p.advance event = some p)
    (emits : Emits mayClose event srv srv') : Traced owed id hand? stage srv' p := by
  by_cases about : event.about? = some id
  · exact traced.emits_about routed about (admitted about) (fun _ counted => counted) traced.fits
      emits
  · rcases emits with ⟨delivered, drift⟩
    have recorded : Routed (srv.record (.event event delivered)) := { routed with }
    have here : Traced owed id hand? stage (srv.record (.event event delivered)) p := by
      refine ⟨?_, { traced.counted with }, traced.fits⟩
      rw [eventsOf_record, if_neg about]
      exact traced.passes
    exact here.drift recorded drift

/-! ### Steps of a request -/

/-- Going on to another stage with nothing done. -/
theorem restage (traced : Traced owed id hand? stage srv p)
    (hhand : hand?' = hand? ∨ hand?' = none ∧ hand?.bind Request.ends? ≠ some id)
    (hattempt : stage'.attempt? = some id → p = .waiting)
    (hbound : ∀ identity, stage' = .bound id identity ↔ stage = .bound id identity) :
    Traced owed id hand?' stage' srv p where
  passes := traced.passes
  counted := traced.counted.of_views (.refl srv) rfl (fun _ => .inl) rfl hhand
  fits := traced.fits.of_views .rfl rfl (fun active => active) hattempt hbound

/-- An attempt begins or falls back. -/
theorem transition {source target : AssociationState} (traced : Traced owed id hand? stage srv p)
    (other : SessionId) (hsource : source ≠ .done) (htarget : target ≠ .done)
    (hattempt : stage'.attempt? = some id → p = .waiting)
    (hbound : ∀ identity, stage' = .bound id identity ↔ stage = .bound id identity) :
    Traced owed id hand? stage' (srv.transition other source target) p where
  passes := traced.passes
  counted := traced.counted.of_roster (.transition srv other (.inl hsource))
    (Roster.isActive_transition source target)
  fits := traced.fits.transition hsource htarget hattempt hbound

/-- The end that was in hand is reported. -/
theorem report {identity? : Option String} {reason : CloseReason}
    (traced : Traced owed id (some request) .ready srv p) (routed : Routed srv)
    (ends : request.ends? = some id)
    (emits : Emits mayClose (.sessionWillBeClosed id identity? reason) srv srv') :
    Traced owed id none .over srv' .ended := by
  have once := traced.counted.once
  have unfinished : p ≠ .ended := by
    rintro rfl
    simp [endings, ends] at once
  have advances : p.advance (.sessionWillBeClosed id identity? reason) = some .ended := by
    cases p with
    | ended => exact absurd rfl unfinished
    | waiting => rfl
    | announced _ => rfl
  refine traced.emits_about routed rfl advances ?_ ?_ emits
  · -- the end moves from the hand to the events
    intro later counted
    have endings : later.endings id none .ended = later.endings id (some request) p := by
      simp [Server.endings, ends, unfinished]
    refine ⟨?_, ?_, ?_, ?_, ?_⟩
    · rintro other (waits | here)
      · exact counted.fair other (.inl waits)
      · cases here
    · rw [endings]
      exact counted.once
    · rw [endings]
      exact counted.closed
    · rw [endings]
      exact counted.reported
    · rw [endings]
      exact counted.owed
  · refine ⟨?_, ?_, ?_, ?_⟩
    · rintro _ _ ⟨⟩
    · rintro ⟨⟩
    · rintro _ ⟨⟩
    · intro _ _ active
      have none := traced.counted.endings_of_active active
      simp [endings, ends] at none

/-- The identity that was bound is announced. -/
theorem announce (traced : Traced owed id none (.bound id identity) srv p) (routed : Routed srv)
    (about : event.about? = some id) (announced : event.announced? = some identity)
    (emits : Emits mayClose event srv srv') :
    Traced owed id none .over srv' (.announced identity) := by
  rcases traced.fits.due identity rfl with ⟨rfl, done, bears⟩
  have advances : Progress.waiting.advance event = some (.announced identity) := by
    cases event <;> simp_all [Progress.advance, ServerEvent.announced?]
  refine traced.emits_about routed about advances ?_ ?_ emits
  · intro later counted
    have endings : later.endings id none (.announced identity) = later.endings id none .waiting := by
      simp [Server.endings]
    refine ⟨counted.fair, ?_, ?_, ?_, ?_⟩
    · rw [endings]
      exact counted.once
    · rw [endings]
      exact counted.closed
    · rw [endings]
      exact counted.reported
    · rw [endings]
      exact counted.owed
  · refine ⟨fun unassociated => absurd done unassociated, ?_, ?_, ?_⟩
    · rintro ⟨⟩
    · rintro _ ⟨⟩
    · intro _ _ _
      exact ⟨identity, rfl, bears⟩

theorem takeOver {taker old : SessionId} (traced : Traced owed id none (.attempt taker) srv p)
    (settled : Settled (.attempt taker) srv.roster) (routed : Routed srv)
    (live : srv.liveHolder? identity taker = some old) :
    Traced owed id none (.bound taker identity) (srv.takeOver identity taker) p := by
  have doing : srv.roster.association? taker = some .doing := (settled.attempt taker).mpr rfl
  have differs := (liveHolder?_eq_some live).2.2
  refine ⟨?_, traced.counted.takeOver routed live, ?_⟩
  · rw [takeOver_eq live, eventsOf_close]
    exact traced.passes
  · refine traced.fits.bound doing (fun _ => association?_takeOver live) ?_ ?_
    · simp [bearing?_takeOver live, Ne.symm differs, doing]
    · intro other another active
      rw [isActive_takeOver live] at active
      have both : other ≠ old ∧ srv.roster.isActive other = true := by simpa using active
      exact ⟨both.2, by simp [bearing?_takeOver live, both.1, another]⟩

theorem associate {taker : SessionId} (traced : Traced owed id none (.attempt taker) srv p)
    (settled : Settled (.attempt taker) srv.roster)
    (success : (srv.roster.associate identity taker).1 = .success) :
    Traced owed id none (.bound taker identity)
      { srv with roster := (srv.roster.associate identity taker).2 } p := by
  have doing : srv.roster.association? taker = some .doing := (settled.attempt taker).mpr rfl
  have kept := Kept.associate srv identity taker
  -- whether the entry is counted makes no difference here
  have bound : ∀ r : Roster, r.sessions = srv.roster.sessions →
      (srv.roster.associate identity taker).2 = r.bind identity taker →
      Traced owed id none (.bound taker identity)
        { srv with roster := (srv.roster.associate identity taker).2 } p := by
    intro r same heq
    have association : ∀ other, r.association? other = srv.roster.association? other := by
      intro other
      simp only [Roster.association?, Roster.session?, same]
    have isActive : ∀ other, r.isActive other = srv.roster.isActive other := by
      intro other
      simp only [Roster.isActive, Roster.session?, same]
    have bearing : ∀ other, r.bearing? other = srv.roster.bearing? other := by
      intro other
      simp only [Roster.bearing?, Roster.session?, same]
    rw [heq] at kept ⊢
    refine ⟨traced.passes, traced.counted.of_roster kept ?_, traced.fits.bound doing ?_ ?_ ?_⟩
    · rw [Roster.isActive_bind, isActive]
    · intro other
      simp only [Roster.association?_bind, association]
    · simp [Roster.bearing?_bind, association, doing]
    · intro other another active
      rw [Roster.isActive_bind, isActive] at active
      exact ⟨active, by simp [Roster.bearing?_bind, another, bearing]⟩
  rcases Roster.associate_of_success success with ⟨_, -, -, heq⟩ | ⟨-, heq⟩
  · exact bound srv.roster rfl heq
  · exact bound { srv.roster with boundIdentities := srv.roster.boundIdentities + 1 } rfl heq

/-- Every step of a request keeps the events about every session in order. -/
theorem step {a b : Stage × Server} (step : Step mayClose request a b)
    (settled : Settled a.1 a.2.roster) (routed : Routed a.2)
    (traced : Traced owed id (a.1.hand? request) a.1 a.2 p) :
    ∃ q, Traced owed id (b.1.hand? request) b.1 b.2 q := by
  cases step with
  | skip silent =>
    exact ⟨p, traced.restage (.inr ⟨rfl, by simp [Stage.hand?, silent]⟩) (by simp [Stage.attempt?])
      (by simp)⟩
  | aside same => exact ⟨p, traced.sameStanding same⟩
  | remark foreign emits => exact ⟨p, traced.emits routed (by simp [foreign]) emits⟩
  | deliver sender kind hs active emits =>
    rename_i srv srv' reader s message transport
    have silent : request.ends? = none := by
      rcases kind with kind | ⟨kind, -⟩ <;> simp [Request.ends?, sender, kind]
    -- a message request is only made of an associated session, which has been told its identity
    have admitted :
        (ServerEvent.sessionReadMessage reader s.identity? transport message).about? = some id →
        p.advance (.sessionReadMessage reader s.identity? transport message) = some p := by
      rintro ⟨⟩
      have done : srv.roster.association? id = some .done := by
        rcases kind with kind | ⟨-, done⟩
        · exact traced.counted.fair request (.inr rfl) sender message kind
        · exact done
      have isActive : srv.roster.isActive id = true :=
        Roster.isActive_eq_true_iff.mpr ⟨s, hs, active⟩
      rcases traced.fits.told (fun _ here => by cases here) done isActive with
        ⟨identity, rfl, bears⟩
      have named : s.identity? = some identity := by
        have here : srv.roster.session? id = some s := hs
        simpa [Roster.bearing?, here] using bears
      simp [Progress.advance, named]
    have read := traced.emits routed admitted emits
    exact ⟨p, read.restage (.inr ⟨rfl, by simp [Stage.hand?, silent]⟩) (by simp [Stage.attempt?])
      (by simp)⟩
  | report ends emits =>
    rename_i srv srv' ended identity? reason
    by_cases same : ended = id
    · subst same
      exact ⟨.ended, traced.report routed ends emits⟩
    · -- the end of another session says nothing about this one
      have foreign : (ServerEvent.sessionWillBeClosed ended identity? reason).about? ≠ some id := by
        simpa [ServerEvent.about?] using same
      have told := traced.emits routed (fun about => absurd about foreign) emits
      exact ⟨p, told.restage (.inr ⟨rfl, by simp [Stage.hand?, ends, same]⟩)
        (by simp [Stage.attempt?]) (by simp)⟩
  | begin silent active free =>
    rename_i srv taker
    have taken : Traced owed id none .over srv p :=
      traced.restage (.inr ⟨rfl, by simp [Stage.hand?, silent]⟩) (by simp [Stage.attempt?]) (by simp)
    refine ⟨p, taken.transition taker (by decide) (by decide) ?_ (by simp)⟩
    -- an attempt begins for a free session, and nothing was announced to it
    rintro ⟨⟩
    exact traced.waiting_of_active active (by simp [free])
  | ask about question emits =>
    rename_i srv srv' taker event
    refine ⟨p, traced.emits routed ?_ emits⟩
    intro here
    rw [about] at here
    cases here
    -- while an attempt is under way every question is in order
    rw [traced.fits.attempt rfl]
    cases event <;> simp_all [Progress.advance, ServerEvent.isQuestion, ServerEvent.announced?]
  | takeOver live => exact ⟨p, traced.takeOver settled routed live⟩
  | associate success => exact ⟨p, traced.associate settled success⟩
  | already found _ => exact absurd found settled.not_found
  | refuse refused emits =>
    rename_i srv srv' taker identity result
    have fallen : Traced owed id none .over (srv.transition taker .doing .none) p :=
      traced.transition taker (by decide) (by decide) (by simp [Stage.attempt?]) (by simp)
    have routed' : Routed (srv.transition taker .doing .none) :=
      routed.of_kept (.transition srv taker (.inl (by decide))) routed.placed
    refine ⟨p, fallen.emits routed' ?_ emits⟩
    rintro ⟨⟩
    rw [traced.fits.attempt rfl]
    simp [Progress.advance, ServerEvent.announced?, refused]
  | announce about announced emits =>
    rename_i srv srv' taker identity event
    by_cases same : taker = id
    · subst same
      exact ⟨.announced identity, traced.announce routed about announced emits⟩
    · have foreign : event.about? ≠ some id := by simpa [about] using same
      have told := traced.emits routed (fun here => absurd here foreign) emits
      exact ⟨p, told.restage (.inl rfl) (by simp [Stage.attempt?]) (by simp [same])⟩
  | fallBack given =>
    rename_i srv stage taker
    rcases given with rfl | rfl
    · exact ⟨p, traced.transition taker (by decide) (by decide) (by simp [Stage.attempt?]) (by simp)⟩
    · exact ⟨p, traced.transition taker (by decide) (by decide) (by simp [Stage.attempt?]) (by simp)⟩
  | close other reason => exact ⟨p, traced.close routed other reason⟩

end Traced

/-! ## Runs -/

/-- What holds of a session between the operations of a run. -/
structure Ongoing (owed : Prop) (id : SessionId) (srv : Server) : Prop where
  confined : srv.handlers.Confined fun _ _ => True
  settled : Settled .over srv.roster
  routed : Routed srv
  traced : ∃ p, Traced owed id none .over srv p

namespace Ongoing

variable {owed : Prop} {id : SessionId} {srv srv' : Server}

/-- A new session has been in nothing yet. -/
theorem opening (ongoing : Ongoing owed id srv) (opened : Opened srv srv') :
    Ongoing owed id srv' := by
  rcases ongoing.traced with ⟨p, traced⟩
  have absent : srv.roster.standing? srv.roster.sessions.length = none := Roster.standing?_length
  have closed : srv'.roster.IsClosed id ↔ srv.roster.IsClosed id := by
    rw [Roster.isClosed_iff, Roster.isClosed_iff, opened.standing, opened.isActive]
    split
    · rename_i new
      simp [new, absent]
    · exact .rfl
  have endings : srv'.endings id none p = srv.endings id none p := by
    simp only [endings, opened.dispatcher]
  refine ⟨?_, opened.settled rfl ongoing.settled,
    ⟨opened.managed ongoing.routed.managed, ?_, ?_, ?_⟩, p, ?_, ⟨?_, ?_, ?_, ?_, ?_⟩,
    ⟨?_, ?_, ?_, ?_⟩⟩
  · rw [opened.handlers]
    exact ongoing.confined
  · exact opened.notifies.trans ongoing.routed.notifies
  · rw [opened.dispatcher]
    exact ongoing.routed.nonempty
  · rw [opened.dispatcher]
    exact ongoing.routed.placed
  · rw [eventsOf, opened.history]
    exact traced.passes
  · intro request here sender message kind
    rw [opened.dispatcher] at here
    exact opened.association_of_done (traced.counted.fair request here sender message kind)
  · rw [endings]
    exact traced.counted.once
  · rw [endings, closed]
    exact traced.counted.closed
  · rw [endings, closed, opened.dispatcher]
    exact traced.counted.reported
  · rw [endings, closed]
    exact traced.counted.owed
  · intro unassociated
    exact traced.fits.unassociated fun done => unassociated (opened.association_of_done done)
  · rintro ⟨⟩
  · rintro _ ⟨⟩
  · intro free done active
    rw [opened.association] at done
    rw [opened.isActive] at active
    rw [opened.bearing]
    split at done
    · cases done
    · rename_i old
      rw [if_neg old] at active
      exact traced.fits.told free done active

/-- A message is accepted as a message request only if its session is associated. -/
theorem accept {dispatcher : Dispatcher} {other : SessionId} {s : Session} {message : Message}
    {transport : TransportKind} (ongoing : Ongoing owed id srv) (hs : srv.session? other = some s)
    (accepted : srv.dispatcher.enqueue
      ⟨.session other, requestKind s.association message, transport⟩ = .ok dispatcher) :
    Ongoing owed id { srv with dispatcher } := by
  rcases ongoing.traced with ⟨p, traced⟩
  have nonempty := ongoing.routed.nonempty
  have same := Dispatcher.push_eq_ok accepted
  -- a message is no end, whatever it asks for
  have silent : Request.ends? ⟨.session other, requestKind s.association message, transport⟩ = none := by
    unfold requestKind
    split <;> rfl
  have fair : Request.Fair ⟨.session other, requestKind s.association message, transport⟩ srv.roster
      id := by
    rintro ⟨⟩ sent kind
    have here : srv.roster.session? id = some s := hs
    by_cases done : s.association = .done
    · exact (congrArg (Option.map _) here).trans (congrArg some done)
    · simp [requestKind, done] at kind
  have notices : dispatcher.notices id = srv.dispatcher.notices id := by
    rw [Dispatcher.notices_push nonempty accepted, silent]
    simp
  have kept : Kept srv { srv with dispatcher } := by
    rw [same.2]
    exact .of_update srv _ _
  refine ⟨ongoing.confined, ongoing.settled, ?_, p, traced.passes, ?_, traced.fits⟩
  · exact ongoing.routed.of_kept kept (ongoing.routed.placed.push accepted)
  · refine traced.counted.of_views kept rfl ?_ notices (.inl rfl)
    intro request member
    rcases Dispatcher.mem_waiting_push nonempty accepted member with before | rfl
    · exact .inl before
    · exact .inr fair

/-- The first request of a shard is taken in hand. -/
theorem taken {index : Nat} {queued : Queued} {dispatcher : Dispatcher} (ongoing : Ongoing owed id srv)
    (taken : srv.dispatcher.takeFrom index = some (queued, dispatcher)) :
    Routed { srv with dispatcher } ∧
      ∃ p, Traced owed id (some queued.request) .ready { srv with dispatcher } p := by
  rcases ongoing.traced with ⟨p, traced⟩
  have placed := ongoing.routed.placed
  rcases Dispatcher.takeFrom_eq_some taken with ⟨shard, rest, -, -, same⟩
  have kept : Kept srv { srv with dispatcher } := by
    rw [same]
    exact .of_update srv _ _
  -- what leaves the queue is in hand, so the sum stays
  have endings : ({ srv with dispatcher } : Server).endings id (some queued.request) p =
      srv.endings id none p := by
    have moved := Dispatcher.notices_takeFrom id placed taken
    simp only [Server.endings, moved, Option.bind_some, Option.bind_none]
    simp
  refine ⟨ongoing.routed.of_kept kept (placed.takeFrom taken), p, traced.passes,
    ⟨?_, ?_, ?_, ?_, ?_⟩, ?_⟩
  · rintro request (waits | here)
    · refine traced.counted.fair request (.inl ?_)
      rw [Dispatcher.waiting_takeFrom taken]
      split
      · exact List.mem_cons_of_mem _ waits
      · exact waits
    · rcases Option.some.inj here with rfl
      intro sender
      exact traced.counted.fair _ (.inl (Dispatcher.mem_waiting_of_takeFrom placed taken sender)) sender
  · rw [endings]
    exact traced.counted.once
  · rw [endings]
    exact traced.counted.closed
  · rw [endings, kept.phase]
    exact traced.counted.reported
  · rw [endings]
    exact traced.counted.owed
  · exact traced.fits.of_views .rfl rfl (fun active => active) (by simp [Stage.attempt?]) (by simp)

/-- A shard has its first request in hand while it processes it, and then it is done with it. -/
theorem shardStep (ongoing : Ongoing owed id srv) (index : Nat) :
    Ongoing owed id (srv.shardStep index) := by
  rcases shardStep_cases srv index with same | ⟨queued, dispatcher, after, taken, hafter, heq⟩
  · rwa [same]
  rcases ongoing.taken taken with ⟨routed, traced⟩
  have settled : Settled .ready srv.roster :=
    ⟨ongoing.settled.attempt, ongoing.settled.unbound, ongoing.settled.indexed⟩
  have path : Path (fun _ _ => True) queued.request (.ready, { srv with dispatcher }) (.over, after) := by
    rw [hafter]
    exact process_path ongoing.confined
  have start : ({ srv with dispatcher } : Server).handlers.Confined fun _ _ => True := ongoing.confined
  have confined : after.handlers.Confined fun _ _ => True := by
    rw [hafter]
    exact confined_process start
  have whole : Settled .over after.roster ∧ Routed after ∧ ∃ p, Traced owed id none .over after p := by
    refine path.preserves (P := fun stage later => Settled stage later.roster ∧ Routed later ∧
      ∃ p, Traced owed id (stage.hand? queued.request) stage later p) ?_ ⟨settled, routed, traced⟩
    rintro a b step ⟨settled, routed, p, traced⟩
    exact ⟨settled.step step, routed.step step, traced.step step settled routed⟩
  rcases whole with ⟨settled', routed', p, traced'⟩
  rw [heq]
  have kept : Kept after { after with dispatcher := after.dispatcher.finish index queued } :=
    .of_update after index _
  refine ⟨confined, settled', routed'.of_kept kept routed'.placed.finish, p, traced'.passes, ?_,
    traced'.fits⟩
  refine traced'.counted.of_views kept rfl ?_ Dispatcher.notices_finish (.inl rfl)
  intro request member
  rw [Dispatcher.waiting_finish] at member
  exact .inl member

theorem move (move : Move False srv srv') (ongoing : Ongoing owed id srv) : Ongoing owed id srv' := by
  rcases ongoing.traced with ⟨p, traced⟩
  cases move with
  | opening opened => exact ongoing.opening opened
  | aside same =>
    exact ⟨same.handlers _ ongoing.confined,
      ongoing.settled.shift (.thin rfl (fun early => early) (.of_sameStanding same)),
      ongoing.routed.sameStanding same, p, traced.sameStanding same⟩
  | accept hs accepted => exact ongoing.accept hs accepted
  | process _ never => exact never.elim
  | shardStep index => exact ongoing.shardStep index
  | close other reason =>
    refine ⟨?_, ?_, ongoing.routed.close reason, p, traced.close ongoing.routed other reason⟩
    · rw [handlers_close]
      exact ongoing.confined
    · rw [roster_close]
      exact ongoing.settled.shift (.thin rfl (fun early => early) (.close _ other reason))
  | turn forward =>
    refine ⟨ongoing.confined, ongoing.settled, { ongoing.routed with }, p, traced.passes, ?_,
      traced.fits⟩
    refine { traced.counted with reported := ?_ }
    intro accepting
    exact traced.counted.reported fun stopped => accepting (forward stopped)

end Ongoing

section Runs

variable {plan : ServerPlan} {shardKey : RequestSender → Nat} {handlers : HandlerTable}

theorem ongoing_blank (confined : handlers.Confined fun _ _ => True) (id : SessionId) :
    Ongoing False id (blank plan shardKey handlers) := by
  have empty : ∀ (index : Nat) (shard : Shard),
      (blank plan shardKey handlers).dispatcher.shards[index]? = some shard → shard.queued = [] := by
    intro index shard hshard
    have member : shard ∈ List.replicate (max 1 plan.shards) ({} : Shard) :=
      List.mem_of_getElem? hshard
    rw [List.eq_of_mem_replicate member]
  have waiting : (blank plan shardKey handlers).dispatcher.waiting id = [] := by
    unfold Dispatcher.waiting
    cases hshard : (blank plan shardKey handlers).dispatcher.shards[
        (blank plan shardKey handlers).dispatcher.shardOf (.session id)]? with
    | none => rfl
    | some shard => simp [empty _ shard hshard]
  have endings : (blank plan shardKey handlers).endings id none .waiting = 0 := by
    simp [Server.endings, Dispatcher.notices, waiting]
  have absent : ∀ other, (blank plan shardKey handlers).roster.session? other = none := by
    intro other
    exact List.getElem?_nil
  have notClosed : ¬ (blank plan shardKey handlers).roster.IsClosed id := by
    rintro ⟨s, hs, -⟩
    rw [absent] at hs
    cases hs
  refine ⟨confined, settled_blank rfl, ⟨?_, rfl, ?_, ?_⟩, .waiting, rfl, ⟨?_, ?_, ?_, ?_, ?_⟩,
    ⟨?_, ?_, ?_, ?_⟩⟩
  · intro other t ht
    simp [Roster.standing?, absent] at ht
  · show 0 < (List.replicate (max 1 plan.shards) ({} : Shard)).length
    rw [List.length_replicate]
    omega
  · intro index shard hshard queued member
    rw [empty index shard hshard] at member
    cases member
  · rintro request (waits | here)
    · rw [waiting] at waits
      cases waits
    · cases here
  · rw [endings]
    omega
  · rw [endings]
    omega
  · exact fun _ closed => absurd closed notClosed
  · exact False.elim
  · rintro _ _ ⟨⟩
  · rintro ⟨⟩
  · rintro _ ⟨⟩
  · intro _ done
    simp [Roster.association?, absent] at done

theorem ongoing_run {owed : Prop} {id : SessionId} {srv : Server} (ongoing : Ongoing owed id srv)
    {operations : List Operation} (routed : ∀ request, .process request ∉ operations) :
    Ongoing owed id (srv.run operations) :=
  run_preserves (fun _ _ move ongoing => ongoing.move move) routed srv ongoing

/--
In every run in which requests reach the shards through the dispatcher, whatever the handlers
answer, however they fail and whatever they close: the events about a session are in order, and if
the session was closed while the dispatcher accepted notices, its end has been reported exactly once
as soon as its shard has no more requests.
-/
theorem run_orderly (plan : ServerPlan) (shardKey : RequestSender → Nat) (handlers : HandlerTable)
    (confined : handlers.Confined fun _ _ => True) (operations : List Operation)
    (routed : ∀ request, .process request ∉ operations) (id : SessionId) :
    let srv := (blank plan shardKey handlers).run operations
    Orderly (srv.eventsOf id) ∧
    (srv.roster.IsClosed id → srv.dispatcher.phase ≠ .stopped →
      ∀ more, (∀ request, .process request ∉ more) →
        (srv.run more).dispatcher.waiting id = [] →
        (((srv.run more).eventsOf id).filter ServerEvent.isEnd).length = 1) := by
  intro srv
  have ongoing : Ongoing False id srv := ongoing_run (ongoing_blank confined id) routed
  rcases ongoing.traced with ⟨p, traced⟩
  refine ⟨Progress.orderly traced.passes, ?_⟩
  intro closed accepting more routed' drained
  -- from here on the one end is owed, whether the dispatcher is stopped later or not
  have counted : Counted True id none srv p :=
    { traced.counted with owed := fun _ => ⟨closed, traced.counted.reported accepting closed⟩ }
  have owing : Ongoing True id srv :=
    ⟨ongoing.confined, ongoing.settled, ongoing.routed, p, traced.passes, counted, traced.fits⟩
  rcases (ongoing_run owing routed').traced with ⟨q, later⟩
  have one := (later.counted.owed trivial).2
  have ends := Progress.length_ends later.passes
  simp only [endings, Dispatcher.notices, drained, List.countP_nil, Option.bind_none] at one
  simp only [reduceCtorEq, if_false, Nat.add_zero] at ends
  rw [ends]
  simpa using one

/-- The first question is answered with a panic, the second with an identity; a message closes. -/
def hesitant : HandlerTable :=
  let answer : Handler := fun calls _ =>
    if calls = 0 then { outcome := .error .panicked } else { outcome := .ok (.identity (some "ann")) }
  let close : Handler := fun _ event => { actions := [.close (event.session?.getD 0) .administrative] }
  (({} : HandlerTable).register .connectionEstablished answer).register .sessionReadMessage close

/-- A session asks twice and sends two messages, the first of which closes it. -/
def visit : List Operation :=
  [.openWebSocket {} .loopback, .submit 0 .empty .webSocket, .shardStep 0,
    .submit 0 .empty .webSocket, .shardStep 0, .submit 0 .empty .webSocket,
    .submit 0 .empty .webSocket, .shardStep 0]

theorem visit_orderly :
    Orderly (((blank {} RequestSender.number hesitant).run visit).eventsOf 0) ∧
      (((((blank {} RequestSender.number hesitant).run visit).run
        [.stop, .shardStep 0, .shardStep 0]).eventsOf 0).filter ServerEvent.isEnd).length = 1 ∧
      ((((blank {} RequestSender.number hesitant).run visit).run
        [.stop, .shardStep 0, .shardStep 0]).eventsOf 0).map ServerEvent.kind =
        [.reconnectionRequest, .connectionEstablished, .reconnectionRequest, .connectionEstablished,
          .associationResult, .sessionReadMessage, .sessionWillBeClosed] := by
  have confined : hesitant.Confined fun _ _ => True := by
    intro entry member calls event _ action performed
    simp only [hesitant, HandlerTable.register, List.mem_cons] at member
    rcases member with rfl | others
    · rw [List.mem_singleton.mp performed]
      exact trivial
    · rcases List.mem_filter.mp others with ⟨others, -⟩
      rcases List.mem_singleton.mp others with rfl
      cases calls <;> cases performed
  have routed : ∀ request, Operation.process request ∉ visit := by simp [visit]
  have run := run_orderly {} RequestSender.number hesitant confined visit routed 0
  have closed : ((blank {} RequestSender.number hesitant).run visit).roster.IsClosed 0 :=
    ⟨_, rfl, rfl⟩
  have accepting : ((blank {} RequestSender.number hesitant).run visit).dispatcher.phase ≠ .stopped := by
    decide
  exact ⟨run.1, run.2 closed accepting [.stop, .shardStep 0, .shardStep 0] (by simp) rfl, rfl⟩

end Runs

end Server

end SessionNet
