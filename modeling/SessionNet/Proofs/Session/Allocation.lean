import Mathlib.Data.Finset.Card
import Mathlib.Data.List.Nodup
import SessionNet.Proofs.Session.Conveyance

/-!
# How long a search for a conveyance id takes

The counter passes over zero and the ids in use. A search therefore takes at most one step for each
of these and one for the id that it finds, whether or not it wraps around on the way. The ids of one
request after another are exactly the vacant ones among those that the counter has shown. They repeat
only after a full turn of the counter, and a full turn gives out every vacant id.
-/

namespace SessionNet

namespace Roster

section Search

variable {inUse : UInt32 → Bool} {used : Finset UInt32} {steps passed granted : Nat}
  {counter : UInt32}

/-! ## The ids that a counter shows -/

/-- Within one turn a counter shows no id twice. -/
theorem nodup_ahead (turn : steps ≤ UInt32.size) (counter : UInt32) :
    (ahead steps counter).Nodup := by
  rw [ahead_eq_map]
  refine List.Nodup.map_on ?_ List.nodup_range
  intro i hi j hj same
  have hi : i < UInt32.size := Nat.lt_of_lt_of_le (List.mem_range.mp hi) turn
  have hj : j < UInt32.size := Nat.lt_of_lt_of_le (List.mem_range.mp hj) turn
  have same := congrArg UInt32.toNat ((UInt32.add_right_inj counter).mp same)
  rwa [UInt32.toNat_ofNat_of_lt' hi, UInt32.toNat_ofNat_of_lt' hj] at same

theorem ahead_succ (steps : Nat) (counter : UInt32) :
    ahead (steps + 1) counter = ahead steps counter ++ [counter + UInt32.ofNat steps] :=
  ahead_add steps 1 counter

/-- Within one turn all but zero and the ids in use are vacant. -/
theorem le_length_vacant (turn : steps ≤ UInt32.size)
    (covers : ∀ key, key ≠ 0 → inUse key = true → key ∈ used) (counter : UInt32) :
    steps ≤ ((ahead steps counter).filter (vacant inUse)).length + (used.card + 1) := by
  have distinct : ((ahead steps counter).filter (!vacant inUse ·)).Nodup :=
    (nodup_ahead turn counter).filter _
  have covered : ((ahead steps counter).filter (!vacant inUse ·)).toFinset ⊆ insert 0 used := by
    intro key member
    have taken := (List.mem_filter.mp (List.mem_toFinset.mp member)).2
    by_cases zero : key = 0
    · exact Finset.mem_insert.mpr (.inl zero)
    · exact Finset.mem_insert_of_mem (covers key zero (by simpa [vacant, zero] using taken))
  have skipped : ((ahead steps counter).filter (!vacant inUse ·)).length ≤ used.card + 1 := calc
    _ = ((ahead steps counter).filter (!vacant inUse ·)).toFinset.card :=
      (List.toFinset_card_of_nodup distinct).symm
    _ ≤ (insert 0 used).card := Finset.card_le_card covered
    _ ≤ used.card + 1 := Finset.card_insert_le 0 used
  have shown := List.length_eq_length_filter_add (l := ahead steps counter) (vacant inUse)
  rw [length_ahead] at shown
  omega

/-! ## The length of a search -/

/-- A search takes as many steps as it takes, however many it is granted. -/
theorem searchConveyance_of_passed (missed : (ahead passed counter).filter (vacant inUse) = [])
    (free : vacant inUse (counter + UInt32.ofNat passed) = true) (granted : Nat) :
    searchConveyance inUse granted counter =
      if passed + 1 ≤ granted then
        some (counter + UInt32.ofNat passed, counter + UInt32.ofNat passed + 1)
      else none := by
  split
  case isTrue enough =>
    exact searchConveyance_eq_some_iff.mpr ⟨passed, enough, missed, rfl, free, rfl⟩
  case isFalse short =>
    apply Option.eq_none_iff_forall_ne_some.mpr
    rintro ⟨key, next⟩ found
    obtain ⟨sooner, below, -, rfl, hit, -⟩ := searchConveyance_eq_some_iff.mp found
    obtain ⟨rest, rfl⟩ := Nat.exists_eq_add_of_lt (show sooner < passed by omega)
    rw [Nat.add_assoc, ahead_add, ahead, List.filter_append, List.filter_cons_of_pos hit] at missed
    simp at missed

/-- With few enough ids in use a search is over after one step for each of them and two more. -/
theorem exists_passed (few : used.card + 2 ≤ UInt32.size)
    (covers : ∀ key, key ≠ 0 → inUse key = true → key ∈ used) (counter : UInt32) :
    ∃ passed < used.card + 2, (ahead passed counter).filter (vacant inUse) = [] ∧
      vacant inUse (counter + UInt32.ofNat passed) = true := by
  have many := le_length_vacant few covers counter
  cases found : searchConveyance inUse (used.card + 2) counter with
  | some result =>
    obtain ⟨passed, below, missed, shown, free, -⟩ := searchConveyance_eq_some_iff.mp found
    exact ⟨passed, below, missed, shown ▸ free⟩
  | none =>
    rw [searchConveyance_eq, Option.map_eq_none_iff, List.find?_eq_none] at found
    rw [List.filter_eq_nil_iff.mpr found, List.length_nil] at many
    omega

end Search

/-! ## One request -/

variable {r r' r'' : Roster} {keys : List UInt32} {key : UInt32} {steps : Nat}

/-- The ids other than zero that have an entry. -/
def conveyancesInUse (r : Roster) : Finset UInt32 := (r.byConveyance.map Prod.fst).toFinset.erase 0

theorem mem_conveyancesInUse (key : UInt32) (nonzero : key ≠ 0)
    (taken : r.conveyanceInUse key = true) : key ∈ r.conveyancesInUse := by
  obtain ⟨id, entry⟩ := Option.isSome_iff_exists.mp taken
  have held : key ∈ r.byConveyance.map Prod.fst := List.mem_map.mpr ⟨_, mem_of_lookup entry, rfl⟩
  exact Finset.mem_erase.mpr ⟨nonzero, List.mem_toFinset.mpr held⟩

/-! ## One request after another -/

/-- The ids that were given out one after another while the index stayed as it was. Whatever else
happens in between leaves the counter alone. -/
inductive Issued (r : Roster) : List UInt32 → Roster → Prop
  | start : Issued r [] r
  | aside {r' r'' : Roster} {keys : List UInt32} (issued : Issued r keys r')
      (index : r''.byConveyance = r'.byConveyance)
      (counter : r''.conveyanceCounter = r'.conveyanceCounter) : Issued r keys r''
  | next {r' r'' : Roster} {keys : List UInt32} {key : UInt32} (issued : Issued r keys r')
      (next : r'.nextConveyance? = some (key, r'')) : Issued r (keys ++ [key]) r''

/-- After so many steps of the counter the vacant ids among those it has shown were given out, the
one of the last step included. -/
structure Passed (r : Roster) (steps : Nat) (keys : List UInt32) (r' : Roster) : Prop where
  index : r'.byConveyance = r.byConveyance
  counter : r'.conveyanceCounter = r.conveyanceCounter + UInt32.ofNat steps
  given : keys = (ahead steps r.conveyanceCounter).filter (vacant r.conveyanceInUse)
  last : ∀ before, steps = before + 1 →
    vacant r.conveyanceInUse (r.conveyanceCounter + UInt32.ofNat before) = true

namespace Passed

theorem start (r : Roster) : Passed r 0 [] r where
  index := rfl
  counter := (UInt32.add_zero r.conveyanceCounter).symm
  given := rfl
  last := nofun

theorem inUse_eq (passed : Passed r steps keys r') : r'.conveyanceInUse = r.conveyanceInUse := by
  funext key
  rw [conveyanceInUse, conveyanceInUse, findConveyance?, findConveyance?, passed.index]

/-- A request goes on from where the last one has led the counter. -/
theorem next (passed : Passed r steps keys r') (next : r'.nextConveyance? = some (key, r'')) :
    ∃ steps', Passed r steps' (keys ++ [key]) r'' := by
  obtain ⟨more, -, missed, shown, free, rfl⟩ := nextConveyance_eq_some_iff.mp next
  rw [passed.inUse_eq] at missed free
  have place : key = r.conveyanceCounter + UInt32.ofNat (steps + more) := by
    rw [shown, passed.counter, UInt32.ofNat_add, UInt32.add_assoc]
  refine ⟨steps + (more + 1), passed.index, ?_, ?_, ?_⟩
  · rw [← Nat.add_assoc, ← add_ofNat_add_one, ← place]
  · rw [ahead_add, ← passed.counter, ahead_succ, ← shown, List.filter_append, List.filter_append,
      ← passed.given, missed, List.filter_cons_of_pos free]
    rfl
  · intro before same
    obtain rfl : before = steps + more := by omega
    rwa [← place]

/-- As long as there are ids for all requests the counter has not gone beyond one turn. -/
theorem within_turn (passed : Passed r steps keys r')
    (room : keys.length + r.conveyancesInUse.card < UInt32.size) : steps ≤ UInt32.size := by
  by_contra beyond
  obtain ⟨rest, rfl⟩ := Nat.exists_eq_add_of_lt (Nat.lt_of_not_le beyond)
  -- the full turn gave out every vacant id, and the last step one more
  have turn := le_length_vacant (Nat.le_refl _) (mem_conveyancesInUse (r := r)) r.conveyanceCounter
  have given := congrArg List.length passed.given
  rw [ahead_succ, ahead_add, List.filter_append, List.filter_append,
    List.filter_cons_of_pos (passed.last _ rfl), List.length_append, List.length_append,
    List.length_cons] at given
  omega

theorem nodup (passed : Passed r steps keys r')
    (room : keys.length + r.conveyancesInUse.card < UInt32.size) : keys.Nodup := by
  rw [passed.given]
  exact (nodup_ahead (passed.within_turn room) _).filter _

end Passed

theorem Issued.passed (issued : Issued r keys r') : ∃ steps, Passed r steps keys r' := by
  induction issued with
  | start => exact ⟨0, .start r⟩
  | aside _ index counter ih =>
    obtain ⟨steps, passed⟩ := ih
    exact ⟨steps, index.trans passed.index, counter.trans passed.counter, passed.given, passed.last⟩
  | next _ next ih =>
    obtain ⟨steps, passed⟩ := ih
    exact passed.next next

theorem conveyancesInUse_congr (index : r'.byConveyance = r.byConveyance) :
    r'.conveyancesInUse = r.conveyancesInUse := by
  rw [conveyancesInUse, index, ← conveyancesInUse]

theorem exists_next (few : r.conveyancesInUse.card < UInt32.size - 1) :
    ∃ steps key, steps ≤ r.conveyancesInUse.card + 2 ∧
      (∀ granted, searchConveyance r.conveyanceInUse granted r.conveyanceCounter =
        if steps ≤ granted then some (key, key + 1) else none) ∧
      r.nextConveyance? =
        some (key, { r with conveyanceCounter := r.conveyanceCounter + UInt32.ofNat steps }) ∧
      key ≠ 0 ∧ r.findConveyance? key = none := by
  obtain ⟨passed, below, missed, free⟩ :=
    exists_passed (by omega) (mem_conveyancesInUse (r := r)) r.conveyanceCounter
  have ends := searchConveyance_of_passed missed free
  obtain ⟨nonzero, unused⟩ := vacant_iff.mp free
  refine ⟨passed + 1, _, below, ends, ?_, nonzero, conveyanceInUse_eq_false.mp unused⟩
  rw [← add_ofNat_add_one]
  exact nextConveyance_eq_some_iff.mpr ⟨passed, by omega, missed, rfl, free, rfl⟩

/-- As many requests as there are vacant ids are all answered. -/
theorem exists_issued (n : Nat) (room : n + r.conveyancesInUse.card < UInt32.size) :
    ∃ keys r', r.Issued keys r' ∧ keys.length = n := by
  induction n with
  | zero => exact ⟨[], r, .start, rfl⟩
  | succ n ih =>
    obtain ⟨keys, r', issued, rfl⟩ := ih (by omega)
    obtain ⟨steps, passed⟩ := issued.passed
    have few : r'.conveyancesInUse.card < UInt32.size - 1 := by
      rw [conveyancesInUse_congr passed.index]
      omega
    obtain ⟨_, key, -, -, next, -⟩ := exists_next few
    exact ⟨_, _, issued.next next, List.length_append⟩

/--
Wherever the counter stands, and also if it wraps around, a request for a conveyance id ends after
at most two steps more than there are ids in use, with an id that is neither zero nor in the index.
How many steps a search is granted makes no difference beyond that, so it needs no bound. While the
index stays as it is, at most as many requests as there are vacant ids are all answered, with ids
that are all different.
-/
theorem nextConveyance_returns (r : Roster) :
    (r.conveyancesInUse.card < UInt32.size - 1 →
      ∃ steps key, steps ≤ r.conveyancesInUse.card + 2 ∧
        (∀ granted, searchConveyance r.conveyanceInUse granted r.conveyanceCounter =
          if steps ≤ granted then some (key, key + 1) else none) ∧
        r.nextConveyance? =
          some (key, { r with conveyanceCounter := r.conveyanceCounter + UInt32.ofNat steps }) ∧
        key ≠ 0 ∧ r.findConveyance? key = none) ∧
      ∀ n, n + r.conveyancesInUse.card < UInt32.size →
        (∃ keys r', r.Issued keys r' ∧ keys.length = n) ∧
        ∀ keys r', r.Issued keys r' → keys.length = n → keys.Nodup := by
  refine ⟨exists_next, fun n room => ⟨exists_issued n room, ?_⟩⟩
  rintro keys r' issued rfl
  obtain ⟨steps, passed⟩ := issued.passed
  exact passed.nodup room

/-- A roster whose counter is about to wrap around, with the last id and the first one in use. -/
def worn : Roster := { byConveyance := [(4294967295, 0), (1, 1)], conveyanceCounter := 4294967295 }

/-- The search passes the last id, zero and the first id, which takes as many steps as it may. -/
theorem nextConveyance_returns_around :
    worn.conveyancesInUse.card = 2 ∧
      searchConveyance worn.conveyanceInUse 3 worn.conveyanceCounter = none ∧
      (∃ steps key, steps ≤ 4 ∧
        (∀ granted, searchConveyance worn.conveyanceInUse granted worn.conveyanceCounter =
          if steps ≤ granted then some (key, key + 1) else none) ∧
        worn.nextConveyance? =
          some (key, { worn with conveyanceCounter := 4294967295 + UInt32.ofNat steps }) ∧
        key ≠ 0 ∧ worn.findConveyance? key = none) ∧
      (∃ keys r', worn.Issued keys r' ∧ keys.length = 4294967293) ∧
      ∀ keys r', worn.Issued keys r' → keys.length = 4294967293 → keys.Nodup := by
  have card : worn.conveyancesInUse.card = 2 := by decide
  obtain ⟨returns, distinct⟩ := nextConveyance_returns worn
  rw [card] at returns distinct
  exact ⟨card, by decide, returns (by decide), distinct 4294967293 (by decide)⟩

end Roster

end SessionNet
