import SessionNet.Proofs.Session.Roster

/-!
# The standing of a session

Of everything that a session keeps, only a few fields decide who holds an identity and who is
closed. This module names those fields and says what each operation on the roster does to them, for
every session at once, and to the entries of the identity index.
-/

namespace SessionNet

/-- The part of a session that its association and its closing depend on. -/
structure Standing where
  association : AssociationState
  identity? : Option String
  isActive : Bool
  closeReason? : Option CloseReason
  isManaged : Bool
  deriving DecidableEq, Repr

def Session.standing (s : Session) : Standing :=
  ⟨s.association, s.identity?, s.isActive, s.closeReason?, s.isManaged⟩

namespace Standing

def transition (t : Standing) (source target : AssociationState) : Standing :=
  if t.association = source then { t with association := target } else t

/-- Bear an identity; an attempt under way is done. -/
def bind (t : Standing) (identity : String) : Standing :=
  ({ t with identity? := some identity } : Standing).transition .doing .done

def disown (t : Standing) : Standing := { t with identity? := none }

def close (t : Standing) (reason : CloseReason) : Standing :=
  if t.isActive then { t with isActive := false, closeReason? := t.closeReason? <|> some reason }
  else t

section Fields

variable {t : Standing} {source target : AssociationState} {reason : CloseReason} {identity : String}

theorem keeps_of_transition (t : Standing) (source target : AssociationState) :
    (t.transition source target).identity? = t.identity? ∧
      (t.transition source target).isActive = t.isActive ∧
      (t.transition source target).closeReason? = t.closeReason? ∧
      (t.transition source target).isManaged = t.isManaged := by
  unfold transition
  split <;> exact ⟨rfl, rfl, rfl, rfl⟩

theorem keeps_of_bind (t : Standing) (identity : String) :
    (t.bind identity).identity? = some identity ∧ (t.bind identity).isActive = t.isActive ∧
      (t.bind identity).closeReason? = t.closeReason? ∧
      (t.bind identity).isManaged = t.isManaged :=
  keeps_of_transition _ _ _

theorem transition_of_ne (differs : t.association ≠ source) : t.transition source target = t := by
  simp [transition, differs]

/-- Whatever an attempt falls back to, a session that is done stays so. -/
theorem association_transition_of_done (done : t.association = .done) (hsource : source ≠ .done) :
    (t.transition source target).association = .done := by
  have differs : t.association ≠ source := by
    intro same
    exact hsource (same.symm.trans done)
  simpa only [transition_of_ne differs] using done

theorem keeps_of_close (t : Standing) (reason : CloseReason) :
    (t.close reason).association = t.association ∧ (t.close reason).identity? = t.identity? ∧
      (t.close reason).isManaged = t.isManaged ∧ (t.close reason).isActive = false := by
  unfold close
  split
  · exact ⟨rfl, rfl, rfl, rfl⟩
  · rename_i inactive
    exact ⟨rfl, rfl, rfl, by simpa using inactive⟩

end Fields

end Standing

namespace Session

theorem standing_transition (s : Session) (source target : AssociationState) :
    (s.transition source target).2.standing = s.standing.transition source target := by
  unfold Session.transition Standing.transition
  by_cases same : s.association = source
  · simp [same, standing]
  · simp [same, standing]

theorem standing_bind (s : Session) (identity : String) :
    (({ s with identity? := some identity } : Session).transition .doing .done).2.standing =
      s.standing.bind identity :=
  standing_transition _ _ _

theorem standing_close (s : Session) (reason : CloseReason) :
    (if s.isActive then s.tearDown reason else s).standing = s.standing.close reason := by
  cases hactive : s.isActive <;> simp [hactive, standing, Standing.close, tearDown]

end Session

/-! ## Relations between two states of a session that may be missing -/

section Options

variable {α : Type} {R : α → α → Prop}

theorem rel_refl (hrefl : ∀ a, R a a) (o : Option α) : Option.Rel R o o := by
  cases o with
  | none => exact .none
  | some a => exact .some (hrefl a)

theorem rel_map {f : α → α} {o : Option α} (hmap : ∀ a, o = some a → R a (f a)) :
    Option.Rel R o (o.map f) := by
  cases o with
  | none => exact .none
  | some a => exact .some (hmap a rfl)

theorem rel_trans (htrans : ∀ a b c, R a b → R b c → R a c) {o p q : Option α}
    (first : Option.Rel R o p) (second : Option.Rel R p q) : Option.Rel R o q := by
  cases first with
  | none => exact second
  | some h =>
    cases second with
    | some h' => exact .some (htrans _ _ _ h h')

end Options

namespace Roster

/-- The standing of a session, registered or not. -/
def standing? (r : Roster) (id : SessionId) : Option Standing :=
  (r.session? id).map Session.standing

variable {r : Roster} {id other holder : SessionId} {identity name : String}

theorem isActive_eq_standing : r.isActive id = (r.standing? id).any (·.isActive) := by
  cases hs : r.session? id <;> simp [isActive, standing?, hs, Session.standing]

theorem association?_eq_standing : r.association? id = (r.standing? id).map (·.association) := by
  simp [association?, standing?, Session.standing, Function.comp_def]

/-! ## Standings after an operation -/

section Standings

/-- A change to one session shows in the standings as a change to its standing. -/
theorem standing?_update {f : Session → Session} {g : Standing → Standing}
    (shows : ∀ s, (f s).standing = g s.standing) :
    (r.update id f).standing? other =
      if other = id then (r.standing? other).map g else r.standing? other := by
  by_cases same : other = id
  · subst same
    simp [standing?, session?_update_self, Function.comp_def, shows]
  · simp [standing?, session?_update_of_ne same, same]

theorem standing?_update_keeping {f : Session → Session}
    (keeps : ∀ s, (f s).standing = s.standing) :
    (r.update id f).standing? other = r.standing? other := by
  have shown : (r.update id f).standing? other =
      if other = id then (r.standing? other).map fun t => t else r.standing? other :=
    standing?_update keeps
  simpa using shown

theorem standing?_transition (source target : AssociationState) :
    (r.transition id source target).2.standing? other =
      if other = id then (r.standing? other).map (·.transition source target)
      else r.standing? other := by
  rw [transition_eq_update]
  exact standing?_update fun s => s.standing_transition source target

theorem standing?_bind :
    (r.bind identity id).standing? other =
      if other = id then (r.standing? other).map (·.bind identity) else r.standing? other := by
  by_cases same : other = id
  · subst same
    simp only [standing?, session?_bind_self, Option.map_map, Function.comp_def,
      Session.standing_bind, if_true]
  · simp [standing?, session?_bind_of_ne same, same]

theorem standing?_disown :
    (r.update id fun s => { s with identity? := none }).standing? other =
      if other = id then (r.standing? other).map Standing.disown else r.standing? other :=
  standing?_update fun _ => rfl

theorem standing?_close (reason : CloseReason) :
    (r.close id reason).2.standing? other =
      if other = id then (r.standing? other).map (·.close reason) else r.standing? other := by
  by_cases same : other = id
  · subst same
    simp [standing?, session?_close_self, Function.comp_def, Session.standing_close]
  · simp [standing?, session?_close_of_ne same, same]

/-- A session to be registered becomes active, unless it was closed before. -/
theorem standing?_register {s : Session} :
    (r.register s).2.standing? other =
      if other = r.sessions.length then some s.activate.standing else r.standing? other := by
  by_cases same : other = r.sessions.length
  · subst same
    simp [standing?, session?_register_self]
  · simp [standing?, session?_register_of_ne same, same]

/-! ### Association states and identities -/

/-- The identity that a session bears, be it active or not. -/
def bearing? (r : Roster) (id : SessionId) : Option String :=
  (r.session? id).bind (·.identity?)

theorem bearing?_eq_standing : r.bearing? id = (r.standing? id).bind (·.identity?) := by
  simp [bearing?, standing?, Session.standing, Option.bind_map, Function.comp_def]

theorem association?_transition (source target : AssociationState) :
    (r.transition id source target).2.association? other =
      if other = id ∧ r.association? other = some source then some target
      else r.association? other := by
  simp only [association?_eq_standing, standing?_transition]
  by_cases same : other = id
  · subst same
    cases ht : r.standing? other with
    | none => simp
    | some t => by_cases hsource : t.association = source <;> simp [Standing.transition, hsource]
  · simp [same]

theorem association?_bind :
    (r.bind identity id).association? other =
      if other = id ∧ r.association? other = some .doing then some .done
      else r.association? other := by
  simp only [association?_eq_standing, standing?_bind]
  by_cases same : other = id
  · subst same
    cases ht : r.standing? other with
    | none => simp
    | some t =>
      by_cases hdoing : t.association = .doing <;> simp [Standing.bind, Standing.transition, hdoing]
  · simp [same]

theorem association?_disown :
    (r.update id fun s => { s with identity? := none }).association? other =
      r.association? other := by
  simp only [association?_eq_standing, standing?_disown]
  split
  · cases r.standing? other <;> rfl
  · rfl

theorem association?_close (reason : CloseReason) :
    (r.close id reason).2.association? other = r.association? other := by
  simp only [association?_eq_standing, standing?_close]
  split
  · cases ht : r.standing? other with
    | none => rfl
    | some t => simp [(Standing.keeps_of_close t reason).1]
  · rfl

theorem bearing?_transition (source target : AssociationState) :
    (r.transition id source target).2.bearing? other = r.bearing? other := by
  simp only [bearing?_eq_standing, standing?_transition]
  split
  · cases ht : r.standing? other with
    | none => rfl
    | some t => simp [(Standing.keeps_of_transition t source target).1]
  · rfl

/-- A session that is there bears the identity it is bound to. -/
theorem bearing?_bind :
    (r.bind identity id).bearing? other =
      if other = id ∧ (r.association? other).isSome then some identity else r.bearing? other := by
  simp only [bearing?_eq_standing, association?_eq_standing, standing?_bind]
  by_cases same : other = id
  · subst same
    cases ht : r.standing? other with
    | none => simp
    | some t => simp [(Standing.keeps_of_bind t identity).1]
  · simp [same]

theorem bearing?_disown :
    (r.update id fun s => { s with identity? := none }).bearing? other =
      if other = id then none else r.bearing? other := by
  simp only [bearing?_eq_standing, standing?_disown]
  split
  · cases r.standing? other <;> rfl
  · rfl

theorem bearing?_close (reason : CloseReason) :
    (r.close id reason).2.bearing? other = r.bearing? other := by
  simp only [bearing?_eq_standing, standing?_close]
  split
  · cases ht : r.standing? other with
    | none => rfl
    | some t => simp [(Standing.keeps_of_close t reason).2.1]
  · rfl

/-! ### Activity -/

theorem isActive_transition (source target : AssociationState) :
    (r.transition id source target).2.isActive other = r.isActive other := by
  simp only [isActive_eq_standing, standing?_transition]
  split
  · cases ht : r.standing? other with
    | none => rfl
    | some t => simp [(Standing.keeps_of_transition t source target).2.1]
  · rfl

theorem isActive_bind : (r.bind identity id).isActive other = r.isActive other := by
  simp only [isActive_eq_standing, standing?_bind]
  split
  · cases ht : r.standing? other with
    | none => rfl
    | some t => simp [(Standing.keeps_of_bind t identity).2.1]
  · rfl

theorem isActive_disown :
    (r.update id fun s => { s with identity? := none }).isActive other = r.isActive other := by
  simp only [isActive_eq_standing, standing?_disown]
  split
  · cases r.standing? other <;> rfl
  · rfl

theorem isActive_close (reason : CloseReason) :
    (r.close id reason).2.isActive other = (other != id && r.isActive other) := by
  simp only [isActive_eq_standing, standing?_close]
  by_cases same : other = id
  · subst same
    cases ht : r.standing? other with
    | none => simp
    | some t => simp [(Standing.keeps_of_close t reason).2.2.2]
  · simp [same]

theorem standing?_length : r.standing? r.sessions.length = none := by
  simp [standing?, session?]

end Standings

/-! ## The identity index after an operation -/

section Entries

theorem byIdentity_transition (source target : AssociationState) :
    (r.transition id source target).2.byIdentity = r.byIdentity := by
  rw [transition_eq_update]
  rfl

theorem boundIdentities_transition (source target : AssociationState) :
    (r.transition id source target).2.boundIdentities = r.boundIdentities := by
  rw [transition_eq_update]
  rfl

theorem registered_transition (source target : AssociationState) :
    (r.transition id source target).2.registered = r.registered := by
  rw [transition_eq_update]
  rfl

theorem byIdentity_bind : (r.bind identity id).byIdentity = setEntry r.byIdentity identity id := by
  rw [bind_eq]
  rfl

theorem boundIdentities_bind : (r.bind identity id).boundIdentities = r.boundIdentities := by
  rw [bind_eq]
  rfl

theorem registered_bind : (r.bind identity id).registered = r.registered := by
  rw [bind_eq]
  rfl

/-- Closing a managed session takes it off the register and gives up the entry of its identity. -/
theorem close_of_managed {s : Session} (reason : CloseReason) (hs : r.session? id = some s)
    (active : s.isActive = true) (managed : s.isManaged = true) :
    (r.close id reason).2.registered = r.registered.filter (· != id) ∧
      (r.close id reason).2.byIdentity = (s.identity?.elim r (r.removeIdentity id)).byIdentity ∧
      (r.close id reason).2.boundIdentities =
        (s.identity?.elim r (r.removeIdentity id)).boundIdentities := by
  have torn : ((r.releaseSlot s).update id fun s => s.tearDown reason).session? id =
      some (s.tearDown reason) := by
    have kept : (r.releaseSlot s).session? id = some s := by
      simpa only [session?, sessions_releaseSlot] using hs
    simp [session?_update_self, kept]
  have slot : (r.releaseSlot s).byIdentity = r.byIdentity ∧
      (r.releaseSlot s).boundIdentities = r.boundIdentities ∧
      (r.releaseSlot s).registered = r.registered := by
    unfold releaseSlot
    split <;> exact ⟨rfl, rfl, rfl⟩
  rcases slot with ⟨hindex, hbound, hregistered⟩
  simp only [close_of_active hs active, managed, if_true, remove_eq torn]
  have named : (s.tearDown reason).identity? = s.identity? := rfl
  -- `removeIdentity` reads and writes nothing but the entries and their number
  cases hidentity : s.identity? with
  | none =>
    simp only [named, hidentity, Option.elim_none, unlink, update]
    exact ⟨by rw [hregistered], hindex, hbound⟩
  | some identity =>
    simp only [named, hidentity, Option.elim_some, removeIdentity, findIdentity?, unlink, update,
      hindex, hbound, hregistered]
    by_cases held : r.byIdentity.lookup identity = some id
    · simp [held]
    · simp [held]

theorem close_of_unmanaged {s : Session} {reason : CloseReason} (hs : r.session? id = some s)
    (managed : s.isManaged = false) :
    (r.close id reason).2.registered = r.registered ∧
      (r.close id reason).2.byIdentity = r.byIdentity ∧
      (r.close id reason).2.boundIdentities = r.boundIdentities := by
  cases hactive : s.isActive with
  | false =>
    rw [close_of_not_active (by simp [isActive, hs, hactive])]
    exact ⟨rfl, rfl, rfl⟩
  | true =>
    simp only [close_of_active hs hactive, managed, Bool.false_eq_true, if_false, update, releaseSlot]
    split <;> exact ⟨rfl, rfl, rfl⟩

/-- Closing a session makes no entry. -/
theorem mem_byIdentity_of_close {reason : CloseReason} {entry : String × SessionId}
    (member : entry ∈ (r.close id reason).2.byIdentity) : entry ∈ r.byIdentity := by
  cases hactive : r.isActive id with
  | false => rwa [close_of_not_active hactive] at member
  | true =>
    rcases isActive_eq_true_iff.mp hactive with ⟨s, hs, active⟩
    cases hmanaged : s.isManaged with
    | false => rwa [(close_of_unmanaged hs hmanaged).2.1] at member
    | true =>
      rw [(close_of_managed reason hs active hmanaged).2.1] at member
      cases hidentity : s.identity? with
      | none => simpa [hidentity] using member
      | some identity =>
        simp only [hidentity, Option.elim_some, removeIdentity] at member
        split at member
        · exact (List.mem_filter.mp member).1
        · exact member

end Entries

/-! ## Results of an association -/

section Associate

/-- A success binds an identity without a live holder; without any it is counted as one more. -/
theorem associate_of_success (success : (r.associate identity id).1 = .success) :
    (∃ holder, r.findIdentity? identity = some holder ∧ r.isActive holder = false ∧
        (r.associate identity id).2 = r.bind identity id) ∨
      (r.findIdentity? identity = none ∧ (r.associate identity id).2 =
        ({ r with boundIdentities := r.boundIdentities + 1 } : Roster).bind identity id) := by
  unfold associate at success ⊢
  cases hfound : r.findIdentity? identity with
  | some holder =>
    simp only [hfound] at success ⊢
    by_cases same : holder = id
    · simp [same] at success
    · cases hactive : r.isActive holder with
      | true => simp [same, hactive] at success
      | false => exact .inl ⟨holder, rfl, hactive, by simp [same]⟩
  | none =>
    simp only [hfound] at success ⊢
    unfold claimIdentity? at success ⊢
    split at success
    · rename_i claimed hclaim
      split at hclaim
      · rcases Option.some.inj hclaim with rfl
        exact .inr ⟨trivial, rfl⟩
      · cases hclaim
    · cases success

theorem associate_of_already (already : (r.associate identity id).1 = .alreadyAssociated) :
    r.findIdentity? identity = some id ∧ (r.associate identity id).2 = r := by
  unfold associate at already ⊢
  cases hfound : r.findIdentity? identity with
  | some holder =>
    simp only [hfound] at already ⊢
    by_cases same : holder = id
    · exact ⟨by rw [same], by simp [same]⟩
    · cases hactive : r.isActive holder <;> simp [same, hactive] at already
  | none =>
    simp only [hfound] at already
    split at already <;> cases already

/-- A refused attempt falls back. -/
theorem associate_of_refused
    (refused : (r.associate identity id).1 = .duplicated ∨
      (r.associate identity id).1 = .limitReached) :
    (r.associate identity id).2 = (r.transition id .doing .none).2 := by
  unfold associate at refused ⊢
  cases hfound : r.findIdentity? identity with
  | some holder =>
    simp only [hfound] at refused ⊢
    by_cases same : holder = id
    · simp [same] at refused
    · cases hactive : r.isActive holder with
      | true => simp [same]
      | false => simp [same, hactive] at refused
  | none =>
    simp only [hfound] at refused ⊢
    split at refused <;> simp_all

/-- An association binds, with the identity counted or not, or falls back, or changes nothing. -/
theorem associate_preserves {P : Roster → Prop} (start : P r)
    (bound : ∀ r : Roster, P r → P (r.bind identity id))
    (fallen : ∀ r : Roster, P r → P (r.transition id .doing .none).2)
    (counted : ∀ (r : Roster) (count : Nat), P r → P { r with boundIdentities := count }) :
    P (r.associate identity id).2 := by
  cases result : (r.associate identity id).1 with
  | success =>
    rcases associate_of_success result with ⟨_, -, -, heq⟩ | ⟨-, heq⟩
    · rw [heq]
      exact bound r start
    · rw [heq]
      exact bound _ (counted r _ start)
  | alreadyAssociated => rwa [(associate_of_already result).2]
  | duplicated =>
    rw [associate_of_refused (.inl result)]
    exact fallen r start
  | limitReached =>
    rw [associate_of_refused (.inr result)]
    exact fallen r start

end Associate

end Roster

end SessionNet
