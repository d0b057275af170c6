import SessionNet.Proofs.Session.Accounts

/-!
# Slots and live sessions

A slot is taken for every connection that is admitted and given back when its session closes. Who
was admitted from where is told by the addresses of the admissions in order, because a session gets
its number in that order. So at any time the slots of an address are as many as the sessions that
were admitted from it and are still active.
-/

namespace SessionNet

/-- The number of times that an element stands in a list, by positions. -/
theorem count_eq_countP_range {α : Type} [BEq α] (l : List α) (a : α) :
    l.count a = (List.range l.length).countP fun i => l[i]? == some a := by
  induction l with
  | nil => rfl
  | cons b l ih =>
    rw [List.count_cons, ih, List.length_cons, List.range_succ_eq_map, List.countP_cons,
      List.countP_map]
    simp [Function.comp_def]

namespace ConnectionFilter

variable {f f' : ConnectionFilter} {ip other : IpAddress} {count : Nat}

/-- Whether a connection from an address is refused. -/
def Refuses (f : ConnectionFilter) (ip : IpAddress) : Prop :=
  f.isBanned ip = true ∨ 0 < f.maxPerAddress ∧ f.maxPerAddress ≤ f.connectionsFrom ip

/-- What is stored are the numbers of slots, as far as there are any. -/
def Tidy (f : ConnectionFilter) : Prop :=
  ∀ ip count, (ip, count) ∈ f.active ↔ f.connectionsFrom ip = count ∧ 0 < count

theorem reserve_of_refused (refused : f.Refuses ip) :
    f.reserve ip = .error (.connectionRefused ip.text) := by
  rcases refused with banned | ⟨limited, full⟩
  · simp [reserve, banned]
  · simp [reserve, limited, full]

theorem reserve_of_admitted (admitted : ¬f.Refuses ip) :
    f.reserve ip = .ok (f.setCount ip (f.connectionsFrom ip + 1)) := by
  unfold reserve
  rw [if_neg]
  simpa [Refuses] using admitted

theorem mem_setCount {n : Nat} :
    (other, n) ∈ (f.setCount ip count).active ↔
      if other = ip then count = n ∧ 0 < n else (other, n) ∈ f.active := by
  unfold setCount
  by_cases spent : count = 0
  · by_cases same : other = ip
    · simp [spent, same]
      omega
    · simp [spent, same]
  · by_cases same : other = ip
    · simp [spent, same]
      omega
    · simp [spent, same]

theorem Tidy.setCount (tidy : f.Tidy) (ip : IpAddress) (count : Nat) :
    (f.setCount ip count).Tidy := by
  intro other n
  rw [mem_setCount, connectionsFrom_setCount]
  split
  · rfl
  · exact tidy other n

theorem Tidy.reserve (tidy : f.Tidy) (reserved : f.reserve ip = .ok f') : f'.Tidy := by
  by_cases refused : f.Refuses ip
  · cases (reserve_of_refused refused).symm.trans reserved
  · cases (reserve_of_admitted refused).symm.trans reserved
    exact tidy.setCount ip _

/-- No address has more slots than the limit. -/
def Within (f : ConnectionFilter) : Prop :=
  0 < f.maxPerAddress → ∀ ip, f.connectionsFrom ip ≤ f.maxPerAddress

theorem Within.reserve (within : f.Within) (reserved : f.reserve ip = .ok f') : f'.Within := by
  by_cases refused : f.Refuses ip
  · cases (reserve_of_refused refused).symm.trans reserved
  · cases (reserve_of_admitted refused).symm.trans reserved
    intro limited other
    have limited' : 0 < f.maxPerAddress := limited
    rw [connectionsFrom_setCount]
    split
    · -- there was room for one more
      have room : ¬f.maxPerAddress ≤ f.connectionsFrom ip :=
        fun full => refused (.inr ⟨limited, full⟩)
      exact Nat.lt_of_not_le room
    · exact within limited other

theorem Within.release (within : f.Within) (ip : IpAddress) : (f.release ip).Within := by
  intro limited other
  rw [connectionsFrom_release]
  exact Nat.le_trans (Nat.sub_le _ _) (within limited other)

/-! ## Bans -/

theorem isBanned_ban (f : ConnectionFilter) (ip other : IpAddress) :
    (f.ban ip).isBanned other = (f.isBanned other || decide (other = ip)) := by
  unfold ban
  by_cases banned : f.isBanned ip = true
  · rw [if_pos banned]
    by_cases same : other = ip
    · simp [same, banned]
    · simp [same]
  · rw [if_neg banned]
    simp [isBanned, Bool.or_comm]

theorem isBanned_unban (f : ConnectionFilter) (ip other : IpAddress) :
    (f.unban ip).2.isBanned other = (f.isBanned other && decide (other ≠ ip)) := by
  by_cases same : other = ip
  · simp [unban, isBanned, same]
  · simp [unban, isBanned, same]

/-- A ban is no matter of slots. -/
theorem slots_ban (f : ConnectionFilter) (ip : IpAddress) :
    (f.ban ip).active = f.active ∧ (f.ban ip).maxPerAddress = f.maxPerAddress := by
  unfold ban
  split <;> exact ⟨rfl, rfl⟩

end ConnectionFilter

namespace Roster

variable {r r' : Roster} {limit : Nat} {bans : IpAddress → Bool} {origins : List IpAddress}
variable {id : SessionId} {ip : IpAddress} {reason : CloseReason}

/-- The live sessions that were admitted from an address, when the admissions so far were made from
`origins`. -/
def liveFrom (r : Roster) (origins : List IpAddress) (ip : IpAddress) : Nat :=
  (List.range origins.length).countP fun id => r.isActive id && origins[id]? == some ip

/-- What the slots of a roster have to do with its sessions, the limit and the bans. -/
structure Occupied (limit : Nat) (bans : IpAddress → Bool) (origins : List IpAddress)
    (r : Roster) : Prop where
  accounts : r.Accounts
  length : r.sessions.length = origins.length
  origin : ∀ id s, r.session? id = some s → s.isActive = true → s.slot? = origins[id]?
  tidy : r.filter.Tidy
  within : r.filter.Within
  maxPerAddress : r.filter.maxPerAddress = limit
  isBanned : ∀ ip, r.filter.isBanned ip = bans ip

namespace Occupied

theorem connectionsFrom_le (occupied : Occupied limit bans origins r) (limited : 0 < limit)
    (ip : IpAddress) : r.filter.connectionsFrom ip ≤ limit := by
  have within := occupied.within
  rw [ConnectionFilter.Within, occupied.maxPerAddress] at within
  exact within limited ip

/-- An address is refused if it is banned or has all the slots that it can have. -/
theorem refuses_iff (occupied : Occupied limit bans origins r) (ip : IpAddress) :
    r.filter.Refuses ip ↔ bans ip = true ∨ 0 < limit ∧ r.filter.connectionsFrom ip = limit := by
  unfold ConnectionFilter.Refuses
  rw [occupied.isBanned, occupied.maxPerAddress]
  constructor
  · rintro (banned | ⟨limited, full⟩)
    · exact .inl banned
    · exact .inr ⟨limited, Nat.le_antisymm (occupied.connectionsFrom_le limited ip) full⟩
  · rintro (banned | ⟨limited, full⟩)
    · exact .inl banned
    · exact .inr ⟨limited, Nat.le_of_eq full.symm⟩

theorem connectionsFrom (occupied : Occupied limit bans origins r) (ip : IpAddress) :
    r.filter.connectionsFrom ip = r.liveFrom origins ip := by
  rw [occupied.accounts.slots, count_eq_countP_range, List.length_map, occupied.length, liveFrom]
  refine List.countP_congr fun id member => ?_
  have inside : id < r.sessions.length := by
    rw [occupied.length]
    exact List.mem_range.mp member
  have hs : r.session? id = some r.sessions[id] := List.getElem?_eq_getElem inside
  have shown : (r.sessions.map Session.slot?)[id]? = some r.sessions[id].slot? := by
    rw [List.getElem?_map, List.getElem?_eq_getElem inside, Option.map_some]
  -- a live session has a slot of its address, and a closed one has none
  rw [shown]
  cases active : r.sessions[id].isActive with
  | true => simp [isActive, hs, active, occupied.origin id _ hs active]
  | false =>
    have inactive : r.isActive id = false := by simp [isActive, hs, active]
    obtain ⟨-, -, free⟩ := occupied.accounts.of_inactive hs inactive
    simp [inactive, free]

theorem continues (occupied : Occupied limit bans origins r) (continues : r.Continues r') :
    Occupied limit bans origins r' where
  accounts := occupied.accounts.continues continues
  length := continues.length.trans occupied.length
  origin id t ht active := by
    obtain ⟨s, hs, here⟩ := continues.before ht
    rw [here.slot]
    exact occupied.origin id s hs (here.active.symm.trans active)
  tidy := continues.filter ▸ occupied.tidy
  within := continues.filter ▸ occupied.within
  maxPerAddress := continues.filter ▸ occupied.maxPerAddress
  isBanned := continues.filter ▸ occupied.isBanned

end Occupied

/-- A closed session gives its slot back, and nothing else becomes of the filter. -/
theorem filter_close {s : Session} (hs : r.session? id = some s) (active : s.isActive = true)
    (managed : s.isManaged = true) (reason : CloseReason) :
    (r.close id reason).2.filter = s.slot?.elim r.filter r.filter.release := by
  rw [(close_transports reason hs active managed).1]
  unfold releaseSlot Session.slot?
  cases s.holdsSlot with
  | false => rfl
  | true => cases s.remote? <;> rfl

namespace Occupied

/-- What is closed has a slot of the address it was admitted from, whatever became of the address,
and gives it back. -/
theorem filter_close (occupied : Occupied limit bans origins r) (live : r.isActive id = true)
    (reason : CloseReason) :
    ∃ ip, origins[id]? = some ip ∧ 0 < r.filter.connectionsFrom ip ∧
      (r.close id reason).2.filter = r.filter.release ip := by
  obtain ⟨s, hs, active⟩ := isActive_eq_true_iff.mp live
  have inside : id < origins.length := by
    rw [← occupied.length]
    exact (List.getElem?_eq_some_iff.mp hs).1
  have origin : origins[id]? = some origins[id] := List.getElem?_eq_getElem inside
  have slot : s.slot? = some origins[id] := (occupied.origin id s hs active).trans origin
  refine ⟨origins[id], origin, ?_, ?_⟩
  · rw [occupied.accounts.slots, List.count_pos_iff, ← slot]
    exact List.mem_map_of_mem (List.mem_of_getElem? hs)
  · rw [Roster.filter_close hs active (occupied.accounts.intact id s hs).managed reason, slot,
      Option.elim_some]

theorem close (occupied : Occupied limit bans origins r) (id : SessionId) (reason : CloseReason) :
    Occupied limit bans origins (r.close id reason).2 := by
  cases live : r.isActive id with
  | false => rwa [close_of_not_active live]
  | true =>
    obtain ⟨s, hs, active⟩ := isActive_eq_true_iff.mp live
    obtain ⟨ip, -, -, filter⟩ := occupied.filter_close live reason
    refine ⟨occupied.accounts.close id reason, ?_, ?_, ?_, ?_, ?_, ?_⟩
    · rw [sessions_close hs active, List.length_modify, occupied.length]
    · intro other t ht open'
      by_cases same : other = id
      · -- who has just been closed is not live
        subst same
        rw [session?_close_self, hs] at ht
        simp only [Option.map_some, active, if_true, Option.some.injEq] at ht
        subst ht
        cases open'
      · rw [session?_close_of_ne same] at ht
        exact occupied.origin other t ht open'
    · rw [filter]
      exact occupied.tidy.setCount ip _
    · rw [filter]
      exact occupied.within.release ip
    · rw [filter]
      exact occupied.maxPerAddress
    · rw [filter]
      exact occupied.isBanned

theorem opening (occupied : Occupied limit bans origins r) {s : Session} (fresh : s.Opened ip)
    (reserved : r.filter.reserve ip = .ok r'.filter) (sessions : r'.sessions = r.sessions ++ [s])
    (registered : r'.registered = r.sessions.length :: r.registered) :
    Occupied limit bans (origins ++ [ip]) r' := by
  have settings : r'.filter.maxPerAddress = r.filter.maxPerAddress ∧
      r'.filter.banned = r.filter.banned := by
    by_cases refused : r.filter.Refuses ip
    · cases (ConnectionFilter.reserve_of_refused refused).symm.trans reserved
    · have taken := Except.ok.inj
        ((ConnectionFilter.reserve_of_admitted refused).symm.trans reserved)
      rw [← taken]
      exact ⟨rfl, rfl⟩
  refine ⟨occupied.accounts.opening fresh reserved sessions registered, ?_, ?_,
    occupied.tidy.reserve reserved, occupied.within.reserve reserved,
    settings.1.trans occupied.maxPerAddress, ?_⟩
  · rw [sessions, List.length_append, List.length_append, occupied.length]
    rfl
  · intro id t ht active
    rw [session?_of_append sessions] at ht
    split at ht
    · rename_i new
      rcases Option.some.inj ht with rfl
      rw [fresh.slot, new, occupied.length, List.getElem?_concat_length]
    · have inside : id < origins.length := by
        rw [← occupied.length]
        exact (List.getElem?_eq_some_iff.mp ht).1
      rw [List.getElem?_append_left inside]
      exact occupied.origin id t ht active
  · intro other
    rw [ConnectionFilter.isBanned, settings.2]
    exact occupied.isBanned other

theorem of_bans (occupied : Occupied limit bans origins r) {bans' : IpAddress → Bool}
    (same : ∀ ip, bans ip = bans' ip) : Occupied limit bans' origins r :=
  { occupied with isBanned := fun ip => (occupied.isBanned ip).trans (same ip) }

/-- Other bans leave all the rest as it is. -/
theorem refilter (occupied : Occupied limit bans origins r) {f : ConnectionFilter}
    (slots : f.active = r.filter.active ∧ f.maxPerAddress = r.filter.maxPerAddress) :
    Occupied limit f.isBanned origins { r with filter := f } := by
  have same : ∀ ip, f.connectionsFrom ip = r.filter.connectionsFrom ip := by
    intro ip
    rw [ConnectionFilter.connectionsFrom, slots.1, ConnectionFilter.connectionsFrom]
  refine ⟨⟨occupied.accounts.intact, occupied.accounts.registered, ?_⟩, occupied.length,
    occupied.origin, ?_, ?_, slots.2.trans occupied.maxPerAddress, fun _ => rfl⟩
  · intro ip
    rw [same]
    exact occupied.accounts.slots ip
  · intro ip count
    rw [slots.1, same]
    exact occupied.tidy ip count
  · intro limited ip
    have limited' : 0 < f.maxPerAddress := limited
    rw [same, slots.2]
    rw [slots.2] at limited'
    exact occupied.within limited' ip

end Occupied

end Roster

end SessionNet
