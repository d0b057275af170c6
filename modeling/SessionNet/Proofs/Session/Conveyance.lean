import Mathlib.Logic.Relation
import SessionNet.Proofs.Session.Secondary

/-!
# How conveyance ids are given out

A counter of 32 bits runs past zero and past the ids in use, and wraps around. It finds an id as long
as there is one, however many sessions have a datagram path.
-/

namespace SessionNet

namespace Roster

/-! ## The search for an id -/

/-- The ids that a counter shows in so many steps. -/
def ahead : (steps : Nat) → (counter : UInt32) → List UInt32
  | 0, _ => []
  | steps + 1, counter => counter :: ahead steps (counter + 1)

/-- An id that may be given out is neither zero nor in use. -/
def vacant (inUse : UInt32 → Bool) (key : UInt32) : Bool := key != 0 && !inUse key

section Search

variable {inUse : UInt32 → Bool} {steps granted : Nat} {counter key next : UInt32}

theorem vacant_iff : vacant inUse key = true ↔ key ≠ 0 ∧ inUse key = false := by
  simp [vacant]

@[simp] theorem length_ahead (steps : Nat) (counter : UInt32) :
    (ahead steps counter).length = steps := by
  induction steps generalizing counter with
  | zero => rfl
  | succ steps ih => rw [ahead, List.length_cons, ih]

theorem add_ofNat_add_one (counter : UInt32) (i : Nat) :
    counter + UInt32.ofNat i + 1 = counter + UInt32.ofNat (i + 1) := by
  rw [UInt32.add_assoc, UInt32.ofNat_add]
  rfl

theorem add_one_add_ofNat (counter : UInt32) (i : Nat) :
    counter + 1 + UInt32.ofNat i = counter + UInt32.ofNat (i + 1) := by
  rw [UInt32.add_assoc, UInt32.add_comm 1, ← UInt32.add_assoc, add_ofNat_add_one]

theorem ahead_eq_map (steps : Nat) (counter : UInt32) :
    ahead steps counter = (List.range steps).map fun i => counter + UInt32.ofNat i := by
  induction steps generalizing counter with
  | zero => rfl
  | succ steps ih =>
    rw [ahead, ih, List.range_succ_eq_map, List.map_cons, List.map_map]
    congr 1
    · exact (UInt32.add_zero counter).symm
    · exact List.map_congr_left fun i _ => add_one_add_ofNat counter i

/-- A counter goes on where it stands after the first steps. -/
theorem ahead_add (steps more : Nat) (counter : UInt32) :
    ahead (steps + more) counter =
      ahead steps counter ++ ahead more (counter + UInt32.ofNat steps) := by
  induction steps generalizing counter with
  | zero =>
    rw [Nat.zero_add]
    exact congrArg (ahead more) (UInt32.add_zero counter).symm
  | succ steps ih =>
    rw [Nat.add_right_comm, ahead, ih, add_one_add_ofNat]
    rfl

/-- A full turn of the counter shows every id. -/
theorem mem_ahead (counter key : UInt32) : key ∈ ahead UInt32.size counter := by
  rw [ahead_eq_map]
  refine List.mem_map.mpr
    ⟨(key - counter).toNat, List.mem_range.mpr (key - counter).toNat_lt_size, ?_⟩
  rw [UInt32.ofNat_toNat, UInt32.add_comm, UInt32.sub_add_cancel]

/-- A search finds the first vacant id, and the counter goes on behind it. -/
theorem searchConveyance_eq (steps : Nat) (counter : UInt32) :
    searchConveyance inUse steps counter =
      ((ahead steps counter).find? (vacant inUse)).map fun key => (key, key + 1) := by
  induction steps generalizing counter with
  | zero => rfl
  | succ steps ih =>
    rw [searchConveyance, ahead, List.find?_cons]
    cases free : vacant inUse counter with
    | true => exact if_pos free
    | false => exact (if_neg (ne_true_of_eq_false free)).trans (ih (counter + 1))

/-- A search passes over what is not vacant, and ends at the first vacant id. -/
theorem searchConveyance_eq_some_iff :
    searchConveyance inUse granted counter = some (key, next) ↔
      ∃ passed < granted, (ahead passed counter).filter (vacant inUse) = [] ∧
        key = counter + UInt32.ofNat passed ∧ vacant inUse key = true ∧ next = key + 1 := by
  rw [searchConveyance_eq, Option.map_eq_some_iff]
  constructor
  · rintro ⟨found, first, same⟩
    cases same
    obtain ⟨free, before, after, shown, missed⟩ := List.find?_eq_some_iff_append.mp first
    have length := congrArg List.length shown
    rw [length_ahead, List.length_append, List.length_cons] at length
    -- the ids before the first vacant one are those of a shorter way
    rw [length, ahead_add] at shown
    obtain ⟨passed, found⟩ := List.append_inj shown (length_ahead _ _)
    refine ⟨before.length, by omega, ?_, (List.cons.inj found).1.symm, free, rfl⟩
    rw [passed]
    exact List.filter_eq_nil_iff.mpr fun key member => by simpa using missed key member
  · rintro ⟨passed, below, missed, rfl, free, rfl⟩
    obtain ⟨rest, rfl⟩ := Nat.exists_eq_add_of_lt below
    have missed : (ahead passed counter).find? (vacant inUse) = none :=
      List.find?_eq_none.mpr (List.filter_eq_nil_iff.mp missed)
    refine ⟨_, ?_, rfl⟩
    rw [Nat.add_assoc, ahead_add, List.find?_append, missed, ahead, List.find?_cons, free]
    rfl

/-- In a full turn a search finds an id, if any is free. -/
theorem exists_searchConveyance (counter : UInt32)
    (free : ∃ key, key ≠ 0 ∧ inUse key = false) :
    ∃ result, searchConveyance inUse UInt32.size counter = some result := by
  obtain ⟨key, free⟩ := free
  have hit : ((ahead UInt32.size counter).find? (vacant inUse)).isSome = true :=
    List.find?_isSome.mpr ⟨key, mem_ahead counter key, vacant_iff.mpr free⟩
  obtain ⟨found, first⟩ := Option.isSome_iff_exists.mp hit
  exact ⟨_, by rw [searchConveyance_eq, first]; rfl⟩

end Search

variable {r r' r'' : Roster} {id other : SessionId} {key : UInt32}

theorem conveyanceInUse_eq_false : r.conveyanceInUse key = false ↔ r.findConveyance? key = none := by
  simp [conveyanceInUse]

/-- A request moves the counter behind the first vacant id. -/
theorem nextConveyance_eq_some_iff :
    r.nextConveyance? = some (key, r') ↔
      ∃ passed < UInt32.size,
        (ahead passed r.conveyanceCounter).filter (vacant r.conveyanceInUse) = [] ∧
        key = r.conveyanceCounter + UInt32.ofNat passed ∧ vacant r.conveyanceInUse key = true ∧
        r' = { r with conveyanceCounter := key + 1 } := by
  constructor
  · intro next
    obtain ⟨⟨found, counter⟩, search, same⟩ := Option.map_eq_some_iff.mp next
    cases same
    obtain ⟨passed, below, missed, shown, free, rfl⟩ := searchConveyance_eq_some_iff.mp search
    exact ⟨passed, below, missed, shown, free, rfl⟩
  · rintro ⟨passed, below, missed, shown, free, rfl⟩
    exact Option.map_eq_some_iff.mpr ⟨(key, key + 1),
      searchConveyance_eq_some_iff.mpr ⟨passed, below, missed, shown, free, rfl⟩, rfl⟩

/-- The next id is neither zero nor in use, and nothing but the counter moves. -/
theorem nextConveyance_eq_some (next : r.nextConveyance? = some (key, r')) :
    key ≠ 0 ∧ r.findConveyance? key = none ∧ r' = { r with conveyanceCounter := key + 1 } := by
  obtain ⟨passed, -, -, -, free, rfl⟩ := nextConveyance_eq_some_iff.mp next
  obtain ⟨nonzero, unused⟩ := vacant_iff.mp free
  exact ⟨nonzero, conveyanceInUse_eq_false.mp unused, rfl⟩

theorem sameWiring_nextConveyance (next : r.nextConveyance? = some (key, r')) :
    SameWiring r r' := by
  obtain ⟨-, -, rfl⟩ := nextConveyance_eq_some next
  exact ⟨fun _ => rfl, rfl, rfl⟩

theorem exists_nextConveyance (free : ∃ key, key ≠ 0 ∧ r.findConveyance? key = none) :
    ∃ key r', r.nextConveyance? = some (key, r') := by
  obtain ⟨key, nonzero, unused⟩ := free
  obtain ⟨⟨key, counter⟩, found⟩ := exists_searchConveyance r.conveyanceCounter
    ⟨key, nonzero, conveyanceInUse_eq_false.mpr unused⟩
  exact ⟨key, _, Option.map_eq_some_iff.mpr ⟨_, found, rfl⟩⟩

/-! ## Rewiring -/

/-- What happens to the channels of a roster as long as it gives out every conveyance id itself. -/
inductive Rewiring : Roster → Roster → Prop
  | aside {r r' : Roster} (same : SameWiring r r') : Rewiring r r'
  | register (r : Roster) {s : Session} (unclosed : s.closeReason? = none)
      (managed : s.isManaged = true) (pathless : s.datagram? = none) (tunnelless : s.tunnel? = none) :
      Rewiring r (r.register s).2
  | close (r : Roster) (id : SessionId) (reason : CloseReason) : Rewiring r (r.close id reason).2
  | grant {r r' r'' : Roster} {id : SessionId} {peer : DatagramPeer} {key : UInt32}
      (next : r.nextConveyance? = some (key, r'))
      (added : r'.addDatagram id ⟨peer, key⟩ = .ok r'') : Rewiring r r''
  | tunnel {r r' : Roster} {id : SessionId} {channel : TunnelChannel}
      (added : r.addTunnel id channel = .ok r') : Rewiring r r'

/-- A sequence of rewirings. -/
abbrev Rewirings : Roster → Roster → Prop := Relation.ReflTransGen Rewiring

/-- Wherever an entry leads, a rewiring keeps it in order. -/
theorem Wired.rewiring (wired : ∀ id, r.Wired id) (rewiring : Rewiring r r') (id : SessionId) :
    r'.Wired id := by
  cases rewiring with
  | aside same => exact same.wired (wired id)
  | register unclosed managed _ _ => exact Wired.register wired unclosed managed id
  | close closed reason => exact Wired.close wired closed reason id
  | grant next added =>
    exact Wired.addDatagram (fun other => (sameWiring_nextConveyance next).wired (wired other))
      added id
  | tunnel added => exact Wired.addTunnel wired added id

theorem Wired.rewirings (wired : ∀ id, r.Wired id) (rewirings : Rewirings r r') (id : SessionId) :
    r'.Wired id := by
  induction rewirings generalizing id with
  | refl => exact wired id
  | tail _ last ih => exact Wired.rewiring ih last id

/-- Entries and datagram paths fit together: whoever is live is found by the id of its path, which is
not zero, and whoever is found is live and has the path. -/
structure Conveyed (r : Roster) : Prop where
  wired : ∀ id, r.Wired id
  findable : r.FindableBy .datagram
  nonzero : ∀ id key, r.Carries .datagram id key → key ≠ 0

namespace Conveyed

/-- No two live sessions have the same conveyance id. -/
theorem unique (conveyed : r.Conveyed) (one : r.Carries .datagram id key)
    (two : r.Carries .datagram other key) : id = other :=
  Option.some.inj ((conveyed.findable id key one).symm.trans
    (conveyed.findable other key two))

theorem sameWiring (conveyed : r.Conveyed) (same : SameWiring r r') : r'.Conveyed where
  wired id := same.wired (conveyed.wired id)
  findable := conveyed.findable.sameWiring same
  nonzero id key held := conveyed.nonzero id key ((carries_congr (same.wiring id)).mp held)

theorem register (conveyed : r.Conveyed) {s : Session} (unclosed : s.closeReason? = none)
    (managed : s.isManaged = true) (pathless : s.datagram? = none) (tunnelless : s.tunnel? = none) :
    (r.register s).2.Conveyed where
  wired := Wired.rewiring conveyed.wired (.register r unclosed managed pathless tunnelless)
  findable := conveyed.findable.register pathless tunnelless
  nonzero id key held := conveyed.nonzero id key (held.of_register pathless tunnelless)

theorem close (conveyed : r.Conveyed) (id : SessionId) (reason : CloseReason) :
    (r.close id reason).2.Conveyed := by
  refine ⟨Wired.rewiring conveyed.wired (.close r id reason),
    conveyed.findable.close conveyed.wired id reason, ?_⟩
  intro other key held
  cases active : r.isActive id with
  | false =>
    rw [close_of_not_active active] at held
    exact conveyed.nonzero other key held
  | true => exact conveyed.nonzero other key (held.of_close active).2

/-- An id without an entry is that of no live session, so nobody loses one. -/
theorem grant (conveyed : r.Conveyed) {peer : DatagramPeer}
    (next : r.nextConveyance? = some (key, r'))
    (added : r'.addDatagram id ⟨peer, key⟩ = .ok r'') : r''.Conveyed := by
  obtain ⟨nonzero, unused, -⟩ := nextConveyance_eq_some next
  have same := sameWiring_nextConveyance next
  have counted := conveyed.sameWiring same
  have given := given_addDatagram added
  refine ⟨Wired.rewiring conveyed.wired (.grant next added), counted.findable.given given ?_, ?_⟩
  · intro other _ held
    have found : r.findConveyance? key = some other :=
      conveyed.findable other key ((carries_congr (same.wiring other)).mp held)
    rw [unused] at found
    cases found
  · intro other name held
    by_cases self : other = id
    · subst self
      exact given.own name held ▸ nonzero
    · exact counted.nonzero other name ((carries_congr (given.others other self)).mp held)

/-- A tunnel concerns no datagram path. -/
theorem tunnel (conveyed : r.Conveyed) {channel : TunnelChannel}
    (added : r.addTunnel id channel = .ok r') : r'.Conveyed := by
  have given := given_addTunnel added
  refine ⟨Wired.rewiring conveyed.wired (.tunnel added),
    conveyed.findable.given_other given nofun, ?_⟩
  intro other key held
  by_cases self : other = id
  · subst self
    exact conveyed.nonzero other key (given.carries .datagram nofun key held)
  · exact conveyed.nonzero other key ((carries_congr (given.others other self)).mp held)

theorem rewiring (conveyed : r.Conveyed) (rewiring : Rewiring r r') : r'.Conveyed := by
  cases rewiring with
  | aside same => exact conveyed.sameWiring same
  | register unclosed managed pathless tunnelless =>
    exact conveyed.register unclosed managed pathless tunnelless
  | close id reason => exact conveyed.close id reason
  | grant next added => exact conveyed.grant next added
  | tunnel added => exact conveyed.tunnel added

/-- Entries and datagram paths fit together as long as the roster gives out the conveyance ids itself. -/
theorem rewirings (conveyed : r.Conveyed) (rewirings : Rewirings r r') : r'.Conveyed := by
  induction rewirings with
  | refl => exact conveyed
  | tail _ last ih => exact ih.rewiring last

/-- A roster without sessions. -/
theorem of_no_sessions (sessions : r.sessions = []) (conveyances : r.byConveyance = [])
    (tunnels : r.byTunnel = []) : r.Conveyed := by
  have absent : ∀ id, r.wiring? id = none := by simp [wiring?, session?, sessions]
  have none : ∀ kind id key, ¬ r.Carries kind id key := by
    rintro kind id key ⟨w, hw, -⟩
    rw [absent] at hw
    cases hw
  refine ⟨fun id => ⟨?_, ?_, ?_, ?_⟩, fun id key held => absurd held (none .datagram id key),
    fun id key held => absurd held (none .datagram id key)⟩
  · simp [absent]
  · simp [absent]
  · simp [conveyances]
  · simp [tunnels]

end Conveyed

end Roster

end SessionNet
