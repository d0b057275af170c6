import Mathlib.Data.List.Nodup
import SessionNet.Proofs.Dispatch.Keeping

/-!
# Live sessions in the identity index

A session is known to be live when its attempt begins, and then a handler is asked. If the handlers
asked on behalf of a session do not close that very session, the index of identities is exact while
requests are processed: it has an entry for each live session that bears an identity, and no other.
-/

namespace SessionNet

/-! ## Indexes with one entry for each key -/

section Index

variable {κ : Type} [BEq κ] [LawfulBEq κ]
variable {index : List (κ × SessionId)} {key : κ} {id holder : SessionId}

omit [BEq κ] [LawfulBEq κ] in
theorem nodup_of_keys (keys : (index.map Prod.fst).Nodup) : index.Nodup := List.Nodup.of_map _ keys

omit [BEq κ] [LawfulBEq κ] in
theorem holder_unique_of_keys (keys : (index.map Prod.fst).Nodup) (member : (key, id) ∈ index)
    (member' : (key, holder) ∈ index) : id = holder := by
  have same : (key, id) = (key, holder) := List.inj_on_of_nodup_map keys member member' rfl
  exact congrArg Prod.snd same

theorem lookup_of_mem (keys : (index.map Prod.fst).Nodup) (member : (key, id) ∈ index) :
    index.lookup key = some id := by
  cases found : index.lookup key with
  | none =>
    have missing := List.lookup_eq_none_iff.mp found (key, id) member
    simp at missing
  | some holder =>
    rw [holder_unique_of_keys keys (mem_of_lookup found) member]

theorem keys_setEntry (keys : (index.map Prod.fst).Nodup) :
    ((setEntry index key id).map Prod.fst).Nodup := by
  rw [setEntry, List.map_cons, List.nodup_cons]
  refine ⟨?_, keys.sublist (List.filter_sublist.map _)⟩
  intro member
  rcases List.mem_map.mp member with ⟨entry, hentry, same⟩
  simp [same] at hentry

theorem mem_removeEntry {entry : κ × SessionId} :
    entry ∈ removeEntry index key id ↔ entry ∈ index ∧ entry ≠ (key, id) := by
  rcases entry with ⟨k, v⟩
  by_cases same : k = key <;> simp [removeEntry, same]

/-- One entry gives way to the new one. -/
theorem length_setEntry_of_mem (keys : (index.map Prod.fst).Nodup) (member : (key, holder) ∈ index) :
    (setEntry index key id).length = index.length := by
  have same : (setEntry index key holder).Perm index := by
    refine (List.perm_ext_iff_of_nodup (nodup_of_keys (keys_setEntry keys)) (nodup_of_keys keys)).mpr ?_
    rintro ⟨k, v⟩
    rw [mem_setEntry]
    constructor
    · rintro (new | ⟨old, -⟩)
      · rwa [new]
      · exact old
    · intro old
      by_cases here : k = key
      · subst here
        exact .inl (Prod.ext rfl (holder_unique_of_keys keys old member))
      · exact .inr ⟨old, here⟩
  -- the new entry counts the same, whoever it leads to
  exact same.length_eq

theorem length_setEntry_of_absent (absent : index.lookup key = none) :
    (setEntry index key id).length = index.length + 1 := by
  have kept : index.filter (fun entry => !(entry.1 == key)) = index := by
    refine List.filter_eq_self.mpr ?_
    intro entry hentry
    have differs := List.lookup_eq_none_iff.mp absent entry hentry
    have sameless : key ≠ entry.1 := by simpa using differs
    simp [Ne.symm sameless]
  rw [setEntry, List.length_cons, kept]

theorem length_removeEntry (keys : (index.map Prod.fst).Nodup) (member : (key, id) ∈ index) :
    (removeEntry index key id).length = index.length - 1 := by
  have distinct : ((key, id) :: removeEntry index key id).Nodup := by
    refine List.nodup_cons.mpr ⟨?_, (nodup_of_keys keys).sublist List.filter_sublist⟩
    intro again
    exact (mem_removeEntry.mp again).2 rfl
  have same : ((key, id) :: removeEntry index key id).Perm index := by
    refine (List.perm_ext_iff_of_nodup distinct (nodup_of_keys keys)).mpr ?_
    intro entry
    rw [List.mem_cons, mem_removeEntry]
    constructor
    · rintro (rfl | ⟨old, -⟩)
      · exact member
      · exact old
    · intro old
      by_cases here : entry = (key, id)
      · exact .inl here
      · exact .inr ⟨old, here⟩
  have lengths := same.length_eq
  rw [List.length_cons] at lengths
  omega

end Index

/-- An event at which a handler may close a session: it is not asked on behalf of that one. -/
def ServerEvent.Spares (event : ServerEvent) (id : SessionId) : Prop :=
  event.isQuestion = true → event.about? ≠ some id

namespace Server

/-! ## An exact index -/

/-- The session on whose behalf an attempt is under way or an announcement is due. -/
def Stage.subject? : Stage → Option SessionId
  | .attempt id => some id
  | .bound id _ => some id
  | _ => none

/-- The index has an entry for each live session that bears an identity, and no other. -/
structure Live (stage : Stage) (srv : Server) : Prop where
  managed : ∀ id t, srv.roster.standing? id = some t → t.isManaged = true
  registered : ∀ id, id ∈ srv.roster.registered ↔ srv.roster.isActive id = true
  entries : ∀ identity id, (identity, id) ∈ srv.roster.byIdentity ↔
    srv.roster.isActive id = true ∧ srv.roster.bearing? id = some identity
  keys : (srv.roster.byIdentity.map Prod.fst).Nodup
  count : srv.roster.boundIdentities = srv.roster.byIdentity.length
  subject : ∀ id, stage.subject? = some id → srv.roster.isActive id = true
  /-- Whose end is recorded is closed. -/
  ended : ∀ id reason, .closed id reason ∈ srv.history →
    id < srv.roster.sessions.length ∧ srv.roster.isActive id = false

section Views

variable {srv : Server} {id old : SessionId} {identity : String}

/-- The session that lost its identity is closed and taken off the register; that ends no entry. -/
theorem takeOver_effects (live : srv.liveHolder? identity id = some old)
    (managed : ∀ t, srv.roster.standing? old = some t → t.isManaged = true) :
    (srv.takeOver identity id).roster.registered = srv.roster.registered.filter (· != old) ∧
      (srv.takeOver identity id).roster.boundIdentities = srv.roster.boundIdentities ∧
      (srv.takeOver identity id).history = .closed old .reconnected :: srv.history := by
  rcases session?_moved live with ⟨s, hs, hactive, disowned⟩
  have hmanaged : s.isManaged = true := managed s.standing (congrArg (Option.map _) hs)
  have closed := Roster.close_of_managed .reconnected disowned hactive hmanaged
  refine ⟨?_, ?_, ?_⟩
  · rw [takeOver_eq live, roster_close, closed.1]
    exact congrArg (List.filter _) Roster.registered_bind
  · rw [takeOver_eq live, roster_close, closed.2.2]
    exact Roster.boundIdentities_bind
  · rw [takeOver_eq live, close_of_managed disowned hactive hmanaged]
    exact history_reportClosed

end Views

namespace Live

variable {stage stage' : Stage} {srv srv' : Server} {id : SessionId} {identity : String}
variable {mayClose : ServerEvent → SessionId → Prop}

theorem managed_of_kept (live : Live stage srv) (kept : Kept srv srv') :
    ∀ id t, srv'.roster.standing? id = some t → t.isManaged = true := by
  intro id t' ht'
  rcases kept.standing_before ht' with ⟨t, ht, rel⟩
  rw [rel.managed]
  exact live.managed id t ht

/-- Only these views of a server count, and of a stage only whose it is. -/
theorem congr (live : Live stage srv) (kept : Kept srv srv')
    (hactive : ∀ id, srv'.roster.isActive id = srv.roster.isActive id)
    (hbearing : ∀ id, srv'.roster.bearing? id = srv.roster.bearing? id)
    (hregistered : srv'.roster.registered = srv.roster.registered)
    (hindex : srv'.roster.byIdentity = srv.roster.byIdentity)
    (hbound : srv'.roster.boundIdentities = srv.roster.boundIdentities)
    (hended : ∀ id reason, .closed id reason ∈ srv'.history → .closed id reason ∈ srv.history)
    (hsubject : ∀ id, stage'.subject? = some id → srv.roster.isActive id = true) :
    Live stage' srv' := by
  refine ⟨live.managed_of_kept kept, ?_, ?_, ?_, ?_, ?_, ?_⟩
  · intro id
    rw [hregistered, hactive]
    exact live.registered id
  · intro identity id
    rw [hindex, hactive, hbearing]
    exact live.entries identity id
  · rw [hindex]
    exact live.keys
  · rw [hbound, hindex]
    exact live.count
  · intro id here
    rw [hactive]
    exact hsubject id here
  · intro id reason recorded
    rw [kept.length, hactive]
    exact live.ended id reason (hended id reason recorded)

/-- A stage with fewer claims. -/
theorem weaken (live : Live stage srv) (fewer : ∀ id, stage'.subject? = some id →
    stage.subject? = some id) : Live stage' srv :=
  { live with subject := fun id here => live.subject id (fewer id here) }

theorem sameStanding (live : Live stage srv) (same : SameStanding srv srv') : Live stage srv' := by
  refine live.congr (.of_sameStanding same) same.isActive ?_ same.registered same.byIdentity
    same.boundIdentities ?_ live.subject
  · intro id
    simp only [Roster.bearing?_eq_standing, same.standing]
  · intro id reason recorded
    rwa [same.history] at recorded

theorem record (live : Live stage srv) (event : ServerEvent) (delivered : Bool) :
    Live stage (srv.record (.event event delivered)) := by
  refine live.congr (.record srv _) (fun _ => rfl) (fun _ => rfl) rfl rfl rfl ?_ live.subject
  intro id reason recorded
  simpa [Server.record] using recorded

theorem transition (live : Live stage srv) {source target : AssociationState}
    (forward : source ≠ .done ∨ target = .done)
    (subject : ∀ id, stage'.subject? = some id → srv.roster.isActive id = true) :
    Live stage' (srv.transition id source target) :=
  live.congr (.transition srv id forward) (fun _ => Roster.isActive_transition source target)
    (fun _ => Roster.bearing?_transition source target)
    (Roster.registered_transition source target) (Roster.byIdentity_transition source target)
    (Roster.boundIdentities_transition source target) (fun _ _ recorded => recorded) subject

/-- A live session that is closed takes its entry out of the index, and nothing else. -/
theorem entries_close {s : Session} (live : Live stage srv) (hs : srv.session? id = some s)
    (active : s.isActive = true) (managed : s.isManaged = true) (reason : CloseReason) :
    (∀ entry, entry ∈ (srv.roster.close id reason).2.byIdentity ↔
        entry ∈ srv.roster.byIdentity ∧ entry.2 ≠ id) ∧
      ((srv.roster.close id reason).2.byIdentity.map Prod.fst).Nodup ∧
      (srv.roster.close id reason).2.boundIdentities =
        (srv.roster.close id reason).2.byIdentity.length := by
  have closed := Roster.close_of_managed reason hs active managed
  have bears : srv.roster.bearing? id = s.identity? := congrArg (Option.bind · _) hs
  have isActive : srv.roster.isActive id = true := Roster.isActive_eq_true_iff.mpr ⟨s, hs, active⟩
  rw [closed.2.1, closed.2.2]
  cases hidentity : s.identity? with
  | none =>
    -- it has no entry to lose, because every entry names what its session bears
    simp only [Option.elim_none]
    refine ⟨?_, live.keys, live.count⟩
    rintro ⟨name, other⟩
    refine ⟨fun member => ⟨member, ?_⟩, fun member => member.1⟩
    rintro rfl
    have named := ((live.entries name other).mp member).2
    rw [bears, hidentity] at named
    cases named
  | some identity =>
    have member : (identity, id) ∈ srv.roster.byIdentity :=
      (live.entries identity id).mpr ⟨isActive, bears.trans hidentity⟩
    have found : srv.roster.findIdentity? identity = some id := lookup_of_mem live.keys member
    simp only [Option.elim_some, Roster.removeIdentity, found, if_true]
    refine ⟨?_, live.keys.sublist (List.filter_sublist.map _), ?_⟩
    · rintro ⟨name, other⟩
      rw [mem_removeEntry]
      refine and_congr_right fun present => not_congr ?_
      constructor
      · intro same
        exact congrArg Prod.snd same
      · rintro rfl
        have named := ((live.entries name other).mp present).2
        rw [bears, hidentity] at named
        rw [Option.some.inj named]
    · rw [length_removeEntry live.keys member, live.count]

/-- Closing a session that no attempt is about keeps the index exact. -/
theorem close (live : Live stage srv) (other : stage.subject? ≠ some id) (reason : CloseReason) :
    Live stage (srv.close id reason).2 := by
  cases hactive : srv.roster.isActive id with
  | false => rwa [close_of_not_active hactive]
  | true =>
    rcases Roster.isActive_eq_true_iff.mp hactive with ⟨s, hs, active⟩
    have managed : s.isManaged = true := live.managed id s.standing (congrArg (Option.map _) hs)
    have kept : Kept srv (srv.close id reason).2 := .close srv id reason
    -- index and count go with the one entry, the rest with the one session
    rcases live.entries_close hs active managed reason with ⟨entries, keys, count⟩
    refine ⟨live.managed_of_kept kept, ?_, ?_, ?_, ?_, ?_, ?_⟩
    · intro id'
      rw [roster_close, (Roster.close_of_managed reason hs active managed).1, Roster.isActive_close]
      simp [live.registered, and_comm]
    · intro identity id'
      rw [roster_close, entries, live.entries, Roster.isActive_close, Roster.bearing?_close]
      simp [and_comm, and_left_comm]
    · rwa [roster_close]
    · rwa [roster_close]
    · intro id' here
      rw [roster_close, Roster.isActive_close, live.subject id' here]
      have differs : id' ≠ id := by
        rintro rfl
        exact other here
      simp [differs]
    · intro id' reason' recorded
      rw [kept.length, roster_close, Roster.isActive_close]
      rw [close_of_managed hs active managed, history_reportClosed, List.mem_cons] at recorded
      rcases recorded with new | before
      · cases new
        exact ⟨(List.getElem?_eq_some_iff.mp hs).1, by simp⟩
      · have ended := live.ended id' reason' before
        simp [ended.1, ended.2]

/-- Handlers keep the index exact if they leave the session alone that an attempt is about. -/
theorem emits {event : ServerEvent} (live : Live stage srv) (emits : Emits mayClose event srv srv')
    (free : ∀ id, mayClose event id → stage.subject? ≠ some id) : Live stage srv' := by
  rcases emits with ⟨delivered, drift⟩
  refine drift.preserves (P := fun srv => Live stage srv) ?_ ?_ (live.record event delivered)
  · intro srv id reason allowed h
    exact h.close (free id allowed) reason
  · intro srv srv' same h
    exact h.sameStanding same

/-- A takeover keeps the index exact: the one entry of the identity now leads to the other session. -/
theorem takeOver {old : SessionId} (live : Live (.attempt id) srv)
    (settled : Settled (.attempt id) srv.roster) (held : srv.liveHolder? identity id = some old) :
    Live (.bound id identity) (srv.takeOver identity id) := by
  rcases liveHolder?_eq_some held with ⟨found, oldActive, differs⟩
  have active : srv.roster.isActive id = true := live.subject id rfl
  have doing : srv.roster.association? id = some .doing := (settled.attempt id).mpr rfl
  have unbound : srv.roster.bearing? id = none := settled.unbound id (by simp [doing])
  have member := Roster.mem_byIdentity_of_find found
  rcases takeOver_effects held (live.managed old) with ⟨hregistered, hbound, hhistory⟩
  have kept : Kept srv (srv.takeOver identity id) := .takeOver held
  refine ⟨live.managed_of_kept kept, ?_, ?_, ?_, ?_, ?_, ?_⟩
  · intro other
    rw [hregistered, isActive_takeOver held]
    simp [live.registered, and_comm]
  · intro name other
    rw [byIdentity_takeOver held, mem_setEntry, isActive_takeOver held, bearing?_takeOver held]
    by_cases isOld : other = old
    · subst isOld
      -- its only entry was that of the identity it lost
      have only : (name, other) ∈ srv.roster.byIdentity → name = identity := by
        intro entry
        have named := ((live.entries name other).mp entry).2
        have named' := ((live.entries identity other).mp member).2
        exact Option.some.inj (named.symm.trans named')
      simpa [differs] using only
    · by_cases isNew : other = id
      · subst isNew
        have missing : (name, other) ∉ srv.roster.byIdentity := by
          intro entry
          have named := ((live.entries name other).mp entry).2
          rw [unbound] at named
          cases named
        simpa [isOld, active, doing, missing] using eq_comm
      · have elsewhere : (name, other) ∈ srv.roster.byIdentity → name ≠ identity := by
          rintro entry rfl
          exact isOld (holder_unique_of_keys live.keys entry member)
        have same : (name, other) = (identity, id) ∨
            (name, other) ∈ srv.roster.byIdentity ∧ name ≠ identity ↔
            (name, other) ∈ srv.roster.byIdentity := by simpa [isNew] using elsewhere
        rw [same, live.entries]
        simp [isOld, isNew]
  · rw [byIdentity_takeOver held]
    exact keys_setEntry live.keys
  · rw [hbound, byIdentity_takeOver held, length_setEntry_of_mem live.keys member, live.count]
  · rintro _ ⟨⟩
    rw [isActive_takeOver held]
    simp [Ne.symm differs, active]
  · intro other reason recorded
    rw [kept.length, isActive_takeOver held]
    rw [hhistory, List.mem_cons] at recorded
    rcases recorded with new | before
    · cases new
      rcases Roster.isActive_eq_true_iff.mp oldActive with ⟨s, hs, -⟩
      exact ⟨(List.getElem?_eq_some_iff.mp hs).1, by simp⟩
    · have ended := live.ended other reason before
      simp [ended.1, ended.2]

/-- An identity that is bound is new, because every entry leads to a live session. -/
theorem associate (live : Live (.attempt id) srv) (settled : Settled (.attempt id) srv.roster)
    (success : (srv.roster.associate identity id).1 = .success) :
    Live (.bound id identity) { srv with roster := (srv.roster.associate identity id).2 } := by
  have active : srv.roster.isActive id = true := live.subject id rfl
  have doing : srv.roster.association? id = some .doing := (settled.attempt id).mpr rfl
  have unbound : srv.roster.bearing? id = none := settled.unbound id (by simp [doing])
  have kept := Kept.associate srv identity id
  rcases Roster.associate_of_success success with ⟨holder, found, inactive, -⟩ | ⟨absent, heq⟩
  · -- an entry of a session that is not live does not exist
    have held := (live.entries identity holder).mp (Roster.mem_byIdentity_of_find found)
    rw [inactive] at held
    cases held.1
  · rw [heq] at kept ⊢
    let counted : Roster := { srv.roster with boundIdentities := srv.roster.boundIdentities + 1 }
    have isActive : ∀ other, (counted.bind identity id).isActive other = srv.roster.isActive other :=
      fun _ => Roster.isActive_bind
    have missing : ∀ other, (identity, other) ∉ srv.roster.byIdentity := by
      intro other entry
      have found := lookup_of_mem live.keys entry
      rw [show srv.roster.byIdentity.lookup identity = none from absent] at found
      cases found
    refine ⟨live.managed_of_kept kept, ?_, ?_, ?_, ?_, ?_, ?_⟩
    · intro other
      have hregistered : (counted.bind identity id).registered = srv.roster.registered :=
        Roster.registered_bind
      rw [hregistered, isActive]
      exact live.registered other
    · intro name other
      have hbearing : (counted.bind identity id).bearing? other =
          if other = id ∧ (srv.roster.association? other).isSome then some identity
          else srv.roster.bearing? other := Roster.bearing?_bind
      rw [Roster.byIdentity_bind, mem_setEntry, isActive, hbearing]
      -- the session gets its first entry, and no other session had one for this identity
      by_cases isNew : other = id
      · subst isNew
        have unlisted : (name, other) ∉ srv.roster.byIdentity := by
          intro entry
          have named := ((live.entries name other).mp entry).2
          rw [unbound] at named
          cases named
        simpa [active, doing, unlisted] using eq_comm
      · have elsewhere : (name, other) ∈ srv.roster.byIdentity → name ≠ identity := by
          rintro entry rfl
          exact missing other entry
        have same : (name, other) = (identity, id) ∨
            (name, other) ∈ srv.roster.byIdentity ∧ name ≠ identity ↔
            (name, other) ∈ srv.roster.byIdentity := by simpa [isNew] using elsewhere
        rw [same, live.entries]
        simp [isNew]
    · rw [Roster.byIdentity_bind]
      exact keys_setEntry live.keys
    · rw [Roster.boundIdentities_bind, Roster.byIdentity_bind]
      rw [length_setEntry_of_absent (show counted.byIdentity.lookup identity = none from absent)]
      exact congrArg (· + 1) live.count
    · rintro _ ⟨⟩
      exact (isActive id).trans active
    · intro other reason recorded
      rw [kept.length]
      exact ⟨(live.ended other reason recorded).1,
        (isActive other).trans (live.ended other reason recorded).2⟩

/-- Handlers that are asked on behalf of a session leave that session open. -/
theorem step {request : Request} {a b : Stage × Server}
    (step : Step ServerEvent.Spares request a b) (settled : Settled a.1 a.2.roster)
    (live : Live a.1 a.2) : Live b.1 b.2 := by
  cases step with
  | skip => exact live.weaken (by simp [Stage.subject?])
  | aside same => exact live.sameStanding same
  | remark _ emits => exact live.emits emits (by simp [Stage.subject?])
  | deliver _ _ _ _ emits =>
    exact (live.emits emits (by simp [Stage.subject?])).weaken (by simp [Stage.subject?])
  | report _ emits =>
    exact (live.emits emits (by simp [Stage.subject?])).weaken (by simp [Stage.subject?])
  | begin _ active free =>
    refine live.transition (.inl (by decide)) ?_
    rintro _ ⟨⟩
    exact active
  | ask about question emits =>
    refine live.emits emits ?_
    rintro id allowed ⟨⟩
    exact allowed question about
  | takeOver held => exact live.takeOver settled held
  | associate success => exact live.associate settled success
  | already found _ => exact absurd found settled.not_found
  | refuse _ emits =>
    rename_i srv _ id _ _ _
    have fallen : Live .over (srv.transition id .doing .none) :=
      live.transition (.inl (by decide)) (by simp [Stage.subject?])
    exact fallen.emits emits (by simp [Stage.subject?])
  | announce _ _ emits =>
    -- the announcement is over once it is made, so its handler may close any session
    have announced : Live .over _ := live.weaken (by simp [Stage.subject?])
    exact announced.emits emits (by simp [Stage.subject?])
  | fallBack => exact live.transition (.inl (by decide)) (by simp [Stage.subject?])
  | close => exact live.close (by simp [Stage.subject?]) _

end Live

end Server

end SessionNet
