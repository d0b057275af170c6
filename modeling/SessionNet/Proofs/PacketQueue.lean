import SessionNet.PacketQueue
import Mathlib.Data.List.Perm.Basic
import Mathlib.Data.List.Nodup

/-!
# The order and the contents of a packet queue

A queue is used through `put`, `take` and `clear`. Its packets stand in strictly ascending order of
their ids, whatever the order in which they were offered, so an id is queued at most once and the
next packet taken is the oldest one. A packet admitted under an id that is queued takes the place of
the other packet, which is then neither taken nor cleared; packets are conserved as long as no id
is offered twice. A queue without room refuses every packet as one too many, and so may a policy
that is asked while there is room, but none of those defined here does.
-/

namespace SessionNet

open scoped List

namespace QueuePolicy

/-- Call every queue full. -/
def admitNone : QueuePolicy := ⟨fun _ _ => .error .full⟩

/-- To call a queue full is left to the queue. -/
theorem apply_ne_full {policy : QueuePolicy}
    (provided : policy = acceptAll ∨ ∃ threshold, policy = shedding threshold) (usage : QueueUsage)
    (packet : Packet) : policy.apply usage packet ≠ .error .full := by
  obtain rfl | ⟨threshold, rfl⟩ := provided
  · exact nofun
  · dsimp only [shedding]
    split <;> exact nofun

/-- Whatever the threshold, shedding spares the packets that must be delivered. -/
theorem shedding_of_mustDeliver (threshold : UInt32) (usage : QueueUsage) {packet : Packet}
    (must : packet.priority.mustDeliver = true) :
    (shedding threshold).apply usage packet = .ok () := by
  simp [shedding, must]

end QueuePolicy

namespace PacketQueue

/-! ### Insertion -/

section Insertion

variable {packet other : Packet} {packets : List Packet}

/-- The packets stand in ascending order of their ids, each id once. -/
def Ascending (packets : List Packet) : Prop := packets.Pairwise (·.id < ·.id)

theorem Ascending.nodup_ids (ascending : Ascending packets) : (packets.map (·.id)).Nodup :=
  List.pairwise_map.mpr (ascending.imp Nat.ne_of_lt)

/-- What is found after an insertion was there before or is the packet inserted. -/
theorem eq_or_mem_of_mem_insertSorted (member : other ∈ insertSorted packet packets) :
    other = packet ∨ other ∈ packets := by
  induction packets with
  | nil => exact .inl (List.mem_singleton.mp member)
  | cons first rest ih =>
    unfold insertSorted at member
    split at member
    · exact List.mem_cons.mp member
    · split at member
      · exact (List.mem_cons.mp member).imp_right (List.mem_cons_of_mem first)
      · rcases List.mem_cons.mp member with rfl | later
        · exact .inr List.mem_cons_self
        · exact (ih later).imp_right (List.mem_cons_of_mem first)

/-- An insertion keeps the order. -/
theorem Ascending.insertSorted (ascending : Ascending packets) :
    Ascending (insertSorted packet packets) := by
  induction packets with
  | nil => exact List.pairwise_singleton _ _
  | cons first rest ih =>
    obtain ⟨least, sorted⟩ := List.pairwise_cons.mp ascending
    unfold PacketQueue.insertSorted
    split
    case isTrue below =>
      refine List.pairwise_cons.mpr ⟨fun other member => ?_, ascending⟩
      rcases List.mem_cons.mp member with rfl | later
      · exact below
      · exact Nat.lt_trans below (least other later)
    case isFalse notBelow =>
      split
      case isTrue same =>
        exact List.pairwise_cons.mpr ⟨fun other later => same ▸ least other later, sorted⟩
      case isFalse different =>
        refine List.pairwise_cons.mpr ⟨fun other member => ?_, ih sorted⟩
        rcases eq_or_mem_of_mem_insertSorted member with rfl | later
        · omega
        · exact least other later

/-- A packet with a new id is added to the others. -/
theorem insertSorted_perm_of_fresh (fresh : ∀ other ∈ packets, other.id ≠ packet.id) :
    insertSorted packet packets ~ packet :: packets := by
  induction packets with
  | nil => exact List.Perm.refl _
  | cons first rest ih =>
    have different : packet.id ≠ first.id := (fresh first List.mem_cons_self).symm
    have others := ih fun other later => fresh other (List.mem_cons_of_mem first later)
    rw [insertSorted, if_neg different]
    split
    · exact List.Perm.refl _
    · exact (others.cons first).trans (List.Perm.swap packet first rest)

/-- A packet newer than all others goes to the end. -/
theorem insertSorted_of_last (last : ∀ other ∈ packets, other.id < packet.id) :
    insertSorted packet packets = packets ++ [packet] := by
  induction packets with
  | nil => rfl
  | cons first rest ih =>
    have above : first.id < packet.id := last first List.mem_cons_self
    have others := ih fun other later => last other (List.mem_cons_of_mem first later)
    simp only [insertSorted, Nat.lt_asymm above, Nat.ne_of_gt above, if_false, others,
      List.cons_append]

/-- A packet with the id of a queued one takes its place. -/
theorem insertSorted_eq_map_of_queued (ascending : Ascending packets) (queued : other ∈ packets)
    (same : other.id = packet.id) :
    insertSorted packet packets =
      packets.map fun old => if old.id = packet.id then packet else old := by
  induction packets with
  | nil => cases queued
  | cons first rest ih =>
    obtain ⟨least, sorted⟩ := List.pairwise_cons.mp ascending
    unfold insertSorted
    rcases List.mem_cons.mp queued with rfl | later
    · -- the ids after the one replaced are greater, so nothing else changes
      have others : rest.map (fun old => if old.id = packet.id then packet else old) = rest := by
        refine List.map_congr_left (fun old later => if_neg ?_) |>.trans (List.map_id rest)
        exact same ▸ (Nat.ne_of_lt (least old later)).symm
      rw [if_neg (same ▸ Nat.lt_irrefl _), if_pos same.symm, List.map_cons, if_pos same, others]
    · have above : first.id < packet.id := same ▸ least other later
      rw [if_neg (Nat.lt_asymm above), if_neg (Nat.ne_of_gt above), List.map_cons,
        if_neg (Nat.ne_of_lt above), ih sorted later]

/-- An insertion adds one packet at most. -/
theorem length_insertSorted_le :
    (insertSorted packet packets).length ≤ packets.length + 1 := by
  induction packets with
  | nil => exact Nat.le_refl _
  | cons first rest ih =>
    unfold insertSorted
    split
    · exact Nat.le_refl _
    · split
      · exact Nat.le_succ _
      · exact Nat.succ_le_succ ih

end Insertion

/-! ### One operation -/

section Operation

variable {q queue : PacketQueue} {packet : Packet} {fault : QueueFault}

/-- Without room the policy is not asked. -/
theorem put_of_full (full : q.capacity ≤ q.length) : q.put packet = .error .full := by
  simp [put, isFull, full]

/-- A packet is admitted if there is room and the policy agrees. -/
theorem put_eq_ok : q.put packet = .ok queue ↔
    q.length < q.capacity ∧ q.policy.apply q.usage packet = .ok () ∧
      queue = { q with packets := insertSorted packet q.packets } := by
  unfold put isFull
  rcases Nat.lt_or_ge q.length q.capacity with room | full
  · cases asked : q.policy.apply q.usage packet with
    | error fault => simp [Nat.not_le.mpr room]
    | ok => simp [Nat.not_le.mpr room, room, eq_comm]
  · simp [full, Nat.not_lt.mpr full]

/-- With room the policy alone refuses packets. -/
theorem put_eq_error_of_room (room : q.length < q.capacity) :
    q.put packet = .error fault ↔ q.policy.apply q.usage packet = .error fault := by
  unfold put isFull
  cases q.policy.apply q.usage packet <;> simp [Nat.not_le.mpr room]

/-- A packet is one too many for want of room, or because the policy says so. -/
theorem put_eq_full : q.put packet = .error .full ↔
    q.capacity ≤ q.length ∨ q.policy.apply q.usage packet = .error .full := by
  rcases Nat.lt_or_ge q.length q.capacity with room | full
  · rw [put_eq_error_of_room room]
    exact ⟨.inr, Or.rec (fun full => absurd room (Nat.not_lt.mpr full)) id⟩
  · exact iff_of_true (put_of_full full) (.inl full)

/-- Only the want of room keeps out a packet that must be delivered. -/
theorem put_of_mustDeliver {threshold : UInt32} (shedding : q.policy = .shedding threshold)
    (must : packet.priority.mustDeliver = true) (refused : q.put packet = .error fault) :
    fault = .full := by
  rcases Nat.lt_or_ge q.length q.capacity with room | full
  · have asked := (put_eq_error_of_room room).mp refused
    rw [shedding, QueuePolicy.shedding_of_mustDeliver threshold q.usage must] at asked
    cases asked
  · rw [put_of_full full] at refused
    cases refused
    rfl

/-- What a packet admitted does to the contents: it takes the place of the one with its id, and is
added if there is none. -/
theorem packets_of_put (ascending : Ascending q.packets)
    (admitted : q.put packet = .ok queue) :
    (∀ old ∈ q.packets, old.id = packet.id →
      queue.packets = q.packets.map (fun other => if other.id = packet.id then packet else other) ∧
        queue.length = q.length) ∧
    ((∀ old ∈ q.packets, old.id ≠ packet.id) → queue.packets ~ packet :: q.packets) := by
  obtain ⟨-, -, rfl⟩ := put_eq_ok.mp admitted
  refine ⟨fun old queued same => ?_, insertSorted_perm_of_fresh⟩
  have replaced := insertSorted_eq_map_of_queued ascending queued same
  exact ⟨replaced, (congrArg List.length replaced).trans (List.length_map ..)⟩

theorem take_eq_none : q.take = none ↔ q.packets = [] := by
  cases packets : q.packets <;> simp [take, packets]

theorem take_eq_some : q.take = some (packet, queue) ↔
    q.packets = packet :: queue.packets ∧ queue = { q with packets := queue.packets } := by
  unfold take
  cases q.packets with
  | nil => simp
  | cons first rest =>
    constructor
    · intro taken
      cases taken
      exact ⟨rfl, rfl⟩
    · rintro ⟨packets, same⟩
      cases packets
      rw [same]

end Operation

end PacketQueue

/-! ### Every use of a queue -/

/-- What is done to a queue. -/
inductive QueueOperation where
  | put (packet : Packet)
  | take
  | clear

namespace QueueOperation

/-- The packet offered. -/
def offered? : QueueOperation → Option Packet
  | .put packet => some packet
  | .take | .clear => none

/-- The packets offered, in order. -/
def offers (operations : List QueueOperation) : List Packet := operations.filterMap offered?

end QueueOperation

/-- A queue in use, with the packets it admitted and those that left it, each in order. -/
structure QueueHistory where
  queue : PacketQueue
  admitted : List Packet := []
  taken : List Packet := []
  cleared : List Packet := []

namespace QueueHistory

open PacketQueue QueueOperation

def step (h : QueueHistory) : QueueOperation → QueueHistory
  | .put packet =>
    match h.queue.put packet with
    | .error _ => h
    | .ok queue => { h with queue, admitted := h.admitted ++ [packet] }
  | .take =>
    match h.queue.take with
    | none => h
    | some (packet, queue) => { h with queue, taken := h.taken ++ [packet] }
  | .clear => { h with queue := h.queue.clear.2, cleared := h.cleared ++ h.queue.packets }

def run (h : QueueHistory) (operations : List QueueOperation) : QueueHistory :=
  operations.foldl step h

/-- A new queue. -/
def start (capacity : Nat) (policy : QueuePolicy) : QueueHistory where
  queue := { capacity, policy }

variable {h : QueueHistory} {capacity : Nat} {policy : QueuePolicy}

/-- What holds of a queue at all times. -/
structure Sound (capacity : Nat) (policy : QueuePolicy) (h : QueueHistory) : Prop where
  sameCapacity : h.queue.capacity = capacity
  samePolicy : h.queue.policy = policy
  ascending : Ascending h.queue.packets
  bounded : h.queue.length ≤ capacity

theorem sound_start (capacity : Nat) (policy : QueuePolicy) :
    (start capacity policy).Sound capacity policy :=
  ⟨rfl, rfl, List.Pairwise.nil, Nat.zero_le _⟩

theorem Sound.step (sound : h.Sound capacity policy) (operation : QueueOperation) :
    (h.step operation).Sound capacity policy := by
  cases operation with
  | put packet =>
    cases offered : h.queue.put packet with
    | error fault => simpa only [QueueHistory.step, offered] using sound
    | ok queue =>
      simp only [QueueHistory.step, offered]
      obtain ⟨room, -, rfl⟩ := put_eq_ok.mp offered
      refine ⟨sound.sameCapacity, sound.samePolicy, sound.ascending.insertSorted, ?_⟩
      exact Nat.le_trans length_insertSorted_le (sound.sameCapacity ▸ room)
  | take =>
    cases next : h.queue.take with
    | none => simpa only [QueueHistory.step, next] using sound
    | some pair =>
      simp only [QueueHistory.step, next]
      obtain ⟨packet, queue⟩ := pair
      obtain ⟨packets, rest⟩ := take_eq_some.mp next
      have ascending := sound.ascending
      have bounded := sound.bounded
      rw [packets] at ascending
      rw [PacketQueue.length, packets, List.length_cons] at bounded
      refine ⟨rest ▸ sound.sameCapacity, rest ▸ sound.samePolicy, ?_, Nat.le_of_succ_le bounded⟩
      exact (List.pairwise_cons.mp ascending).2
  | clear => exact ⟨sound.sameCapacity, sound.samePolicy, List.Pairwise.nil, Nat.zero_le _⟩

theorem Sound.run (sound : h.Sound capacity policy) (operations : List QueueOperation) :
    (h.run operations).Sound capacity policy := by
  induction operations generalizing h with
  | nil => exact sound
  | cons operation rest ih => exact ih (sound.step operation)

/-- Every packet admitted has left the queue or is still there. -/
def Conserved (h : QueueHistory) : Prop :=
  h.admitted ~ h.taken ++ h.cleared ++ h.queue.packets

/-- An operation conserves packets unless it offers an id that was admitted before. -/
theorem Conserved.step (conserved : h.Conserved) (operation : QueueOperation)
    (fresh : ∀ packet, operation.offered? = some packet →
      ∀ other ∈ h.admitted, other.id ≠ packet.id) :
    (h.step operation).Conserved := by
  cases operation with
  | put packet =>
    cases offered : h.queue.put packet with
    | error fault => simpa only [QueueHistory.step, offered] using conserved
    | ok queue =>
      simp only [QueueHistory.step, offered]
      obtain ⟨-, -, rfl⟩ := put_eq_ok.mp offered
      have unqueued : ∀ other ∈ h.queue.packets, other.id ≠ packet.id := fun other member =>
        fresh packet rfl other (conserved.mem_iff.mpr (List.mem_append_right _ member))
      calc h.admitted ++ [packet]
        _ ~ (h.taken ++ h.cleared ++ h.queue.packets) ++ [packet] := conserved.append_right _
        _ = (h.taken ++ h.cleared) ++ (h.queue.packets ++ [packet]) := List.append_assoc ..
        _ ~ (h.taken ++ h.cleared) ++ insertSorted packet h.queue.packets :=
          ((List.perm_append_singleton packet _).trans
            (insertSorted_perm_of_fresh unqueued).symm).append_left _
  | take =>
    cases next : h.queue.take with
    | none => simpa only [QueueHistory.step, next] using conserved
    | some pair =>
      simp only [QueueHistory.step, next]
      obtain ⟨packet, queue⟩ := pair
      obtain ⟨packets, -⟩ := take_eq_some.mp next
      unfold Conserved at conserved
      rw [packets] at conserved
      calc h.admitted
        _ ~ (h.taken ++ h.cleared) ++ packet :: queue.packets := conserved
        _ ~ packet :: ((h.taken ++ h.cleared) ++ queue.packets) := List.perm_middle
        _ = packet :: (h.taken ++ (h.cleared ++ queue.packets)) := by rw [List.append_assoc]
        _ ~ h.taken ++ packet :: (h.cleared ++ queue.packets) := List.perm_middle.symm
        _ = (h.taken ++ [packet]) ++ h.cleared ++ queue.packets := by simp
  | clear =>
    change h.admitted ~ h.taken ++ (h.cleared ++ h.queue.packets) ++ []
    rw [List.append_nil, ← List.append_assoc]
    exact conserved

theorem admitted_step (h : QueueHistory) (operation : QueueOperation) :
    (h.step operation).admitted = h.admitted ∨
      ∃ packet, operation.offered? = some packet ∧
        (h.step operation).admitted = h.admitted ++ [packet] := by
  cases operation with
  | put packet =>
    cases offered : h.queue.put packet with
    | error fault => exact .inl (by simp only [step, offered])
    | ok queue => exact .inr ⟨packet, rfl, by simp only [step, offered]⟩
  | take => cases next : h.queue.take <;> exact .inl (by simp only [step, next])
  | clear => exact .inl rfl

/-- Packets are conserved as long as no id is offered twice. -/
theorem Conserved.run {operations : List QueueOperation} (conserved : h.Conserved)
    (distinct : ((h.admitted ++ offers operations).map (·.id)).Nodup) :
    (h.run operations).Conserved := by
  induction operations generalizing h with
  | nil => exact conserved
  | cons operation rest ih =>
    cases offer : operation.offered? with
    | none =>
      have offered : offers (operation :: rest) = offers rest := List.filterMap_cons_none offer
      refine ih (conserved.step operation fun packet some => ?_) ?_
      · rw [offer] at some
        cases some
      · rcases admitted_step h operation with same | ⟨packet, some, -⟩
        · rwa [same, ← offered]
        · rw [offer] at some
          cases some
    | some packet =>
      have offered : offers (operation :: rest) = packet :: offers rest :=
        List.filterMap_cons_some offer
      rw [offered] at distinct
      refine ih (conserved.step operation fun other some old member same => ?_) ?_
      · rw [offer] at some
        cases some
        rw [List.map_append, List.nodup_append] at distinct
        exact distinct.2.2 old.id (List.mem_map_of_mem member) _
          (List.mem_map_of_mem List.mem_cons_self) same
      · rcases admitted_step h operation with same | ⟨other, some, more⟩
        · rw [same]
          have fewer := (List.sublist_cons_self packet (offers rest)).append_left h.admitted
          exact distinct.sublist (fewer.map _)
        · rw [offer] at some
          cases some
          rw [more, List.append_assoc]
          exact distinct

/-- As long as nothing is offered, the packets taken are the oldest of those queued, in order. -/
theorem taken_run_of_no_offers {between : List QueueOperation} (unoffered : offers between = []) :
    ∃ taken, taken <+: h.queue.packets ∧ (h.run between).taken = h.taken ++ taken := by
  induction between generalizing h with
  | nil => exact ⟨[], List.nil_prefix, (List.append_nil _).symm⟩
  | cons operation rest ih =>
    cases operation with
    | put packet => cases unoffered
    | take =>
      have run : h.run (.take :: rest) = (h.step .take).run rest := rfl
      cases next : h.queue.take with
      | none =>
        have same : h.step .take = h := by simp only [step, next]
        rw [run, same]
        exact ih unoffered
      | some pair =>
        obtain ⟨packet, queue⟩ := pair
        obtain ⟨packets, -⟩ := take_eq_some.mp next
        have stepped : h.step .take = { h with queue, taken := h.taken ++ [packet] } := by
          simp only [step, next]
        obtain ⟨later, oldest, taken⟩ := @ih (h.step .take) unoffered
        rw [stepped] at oldest taken
        refine ⟨packet :: later, packets ▸ (List.prefix_cons_inj packet).mpr oldest, ?_⟩
        rw [run, stepped, taken, List.append_assoc, List.singleton_append]
    | clear =>
      obtain ⟨later, oldest, taken⟩ := @ih (h.step .clear) unoffered
      cases List.prefix_nil.mp oldest
      exact ⟨[], List.nil_prefix, taken⟩

/-- The law of packet queues, for every capacity, policy and use: the size and the ids; who is
refused and why, where a policy may call a queue with room full but none of those defined here does;
what a packet admitted replaces; which packet is taken; that packets offered under distinct ids are
conserved; and the order in which packets leave. -/
theorem run_lawful (capacity : Nat) (policy : QueuePolicy) (operations : List QueueOperation) :
    let h := (start capacity policy).run operations
    (h.queue.length ≤ capacity ∧ (h.queue.packets.map (·.id)).Nodup) ∧
    (∀ packet,
      (capacity ≤ h.queue.length → ∀ other : QueuePolicy,
        { h.queue with policy := other }.put packet = .error .full) ∧
      (h.queue.length < capacity → ∀ fault,
        h.queue.put packet = .error fault ↔ policy.apply h.queue.usage packet = .error fault) ∧
      (h.queue.put packet = .error .full ↔
        capacity ≤ h.queue.length ∨ policy.apply h.queue.usage packet = .error .full) ∧
      ((policy = .acceptAll ∨ ∃ threshold, policy = .shedding threshold) →
        (h.queue.put packet = .error .full ↔ capacity ≤ h.queue.length)) ∧
      (∀ fault, h.queue.put packet = .error fault → h.step (.put packet) = h) ∧
      (∀ threshold fault, policy = .shedding threshold → packet.priority.mustDeliver = true →
        h.queue.put packet = .error fault → fault = .full) ∧
      ∀ queue, h.queue.put packet = .ok queue →
        (∀ old ∈ h.queue.packets, old.id = packet.id →
          queue.packets =
              h.queue.packets.map (fun other => if other.id = packet.id then packet else other) ∧
            queue.length = h.queue.length) ∧
        ((∀ old ∈ h.queue.packets, old.id ≠ packet.id) →
          queue.packets ~ packet :: h.queue.packets)) ∧
    (h.queue.take = none ↔ h.queue.packets = []) ∧
    (∀ packet queue, h.queue.take = some (packet, queue) →
      h.queue.packets = packet :: queue.packets ∧ ∀ other ∈ queue.packets, packet.id < other.id) ∧
    (((offers operations).map (·.id)).Nodup →
      h.admitted ~ h.taken ++ h.cleared ++ h.queue.packets) ∧
    ∀ between, offers between = [] → ∃ taken,
      (h.run between).taken = h.taken ++ taken ∧ taken.Pairwise (·.id < ·.id) := by
  intro h
  have sound : h.Sound capacity policy := (sound_start capacity policy).run operations
  have full : ∀ packet, h.queue.put packet = .error .full ↔
      capacity ≤ h.queue.length ∨ policy.apply h.queue.usage packet = .error .full := by
    intro packet
    rw [put_eq_full, sound.sameCapacity, sound.samePolicy]
  refine ⟨⟨sound.bounded, sound.ascending.nodup_ids⟩,
    fun packet => ⟨?_, ?_, full packet, ?_, ?_, ?_, ?_⟩, take_eq_none, ?_, ?_, ?_⟩
  · intro full other
    exact put_of_full (sound.sameCapacity ▸ full)
  · intro room fault
    exact sound.samePolicy ▸ put_eq_error_of_room (sound.sameCapacity ▸ room)
  · intro provided
    rw [full, or_iff_left (QueuePolicy.apply_ne_full provided h.queue.usage packet)]
  · intro fault refused
    simp only [step, refused]
  · intro threshold fault shedding must refused
    exact put_of_mustDeliver (sound.samePolicy.trans shedding) must refused
  · intro queue admitted
    exact packets_of_put sound.ascending admitted
  · intro packet queue taken
    obtain ⟨packets, -⟩ := take_eq_some.mp taken
    have ascending := sound.ascending
    rw [packets] at ascending
    exact ⟨packets, (List.pairwise_cons.mp ascending).1⟩
  · intro distinct
    exact Conserved.run (List.Perm.refl []) distinct
  · intro between unoffered
    obtain ⟨taken, oldest, same⟩ := taken_run_of_no_offers (h := h) unoffered
    exact ⟨taken, same, sound.ascending.sublist oldest.sublist⟩

/-- Two packets offered in the wrong order fill a queue of two: a third one is refused, as there is
no room, and they are taken in order. -/
theorem run_lawful_pair :
    let later : Packet := { id := 2, payload := [] }
    let earlier : Packet := { id := 1, payload := [] }
    let third : Packet := { id := 3, payload := [] }
    let h := (start 2 .acceptAll).run [.put later, .put earlier]
    h.queue.put third = .error .full ∧
      (h.queue.put third = .error .full ↔ 2 ≤ h.queue.length) ∧ h.step (.put third) = h ∧
      [later, earlier] ~ [] ++ [] ++ [earlier, later] ∧
      ∃ taken, (h.run [.take, .take]).taken = [] ++ taken ∧ taken.Pairwise (·.id < ·.id) := by
  intro later earlier third h
  obtain ⟨-, admission, -, -, conserved, ordered⟩ :=
    run_lawful 2 .acceptAll [.put later, .put earlier]
  obtain ⟨unasked, -, -, full, kept, -⟩ := admission third
  have refused : h.queue.put third = .error .full := unasked (by decide) .acceptAll
  refine ⟨refused, full (.inl rfl), kept .full refused, ?_, ?_⟩
  · exact conserved (by decide)
  · exact ordered [.take, .take] rfl

/-- A policy that calls every queue full is believed though there is room; and at a usage of 50
percent a packet is shed, so that it does not take the place of the one queued under its id. -/
theorem refused_despite_room :
    let packet : Packet := { id := 1, payload := [], priority := .nonGuaranteed }
    let unused := start 1 .admitNone
    let half := (start 2 (.shedding 0x42480000)).run [.put packet]
    (unused.queue.put packet = .error .full ∧ ¬ 1 ≤ unused.queue.length) ∧
      half.queue.packets = [packet] ∧ ¬ 2 ≤ half.queue.length ∧
      half.queue.put packet = .error (.shed 1 0x42480000) :=
  ⟨⟨rfl, by decide⟩, by decide, by decide, rfl⟩

end QueueHistory

end SessionNet
