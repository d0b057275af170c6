import SessionNet.Proofs.Dispatch.Notices

/-!
# Accounts of the shards

A ledger keeps what the shards accepted, what each of them has in hand and what they processed. It
balances with a dispatcher if, on every shard, the requests that were processed, the one in hand and
those that wait are the accepted ones in their order, and if each bounded one that is in hand or
waits holds a permit.
-/

namespace SessionNet

namespace Dispatcher

variable {d d' : Dispatcher} {index other : Nat} {queued : Queued} {log : List Queued}

/-- The dispatcher with a request at the end of its shard. -/
def append (d : Dispatcher) (queued : Queued) : Dispatcher :=
  d.update (d.shardOf queued.request.sender) fun shard =>
    { queued := shard.queued ++ [queued]
      permitsInUse := shard.permitsInUse + queued.bounded.toNat }

/-- The dispatcher with requests at the ends of their shards, one after the other. -/
def appendAll (d : Dispatcher) (queued : List Queued) : Dispatcher := queued.foldl append d

/-- The requests that wait on a shard, oldest first. -/
def queuedOn (d : Dispatcher) (index : Nat) : List Queued := (d.shards[index]?).elim [] (·.queued)

/-- The permits of a shard that are in use. -/
def permitsOn (d : Dispatcher) (index : Nat) : Nat := (d.shards[index]?).elim 0 (·.permitsInUse)

/-- The requests of a log that belong on a shard. -/
def share (d : Dispatcher) (index : Nat) (log : List Queued) : List Queued :=
  log.filter fun queued => d.shardOf queued.request.sender = index

/-- A request is appended to its shard or refused. -/
theorem push_eq_append {request : Request} {bounded : Bool} :
    d.push request bounded =
      if d.phase = .stopped then .error (.shutdown .dispatcher)
      else if bounded && d.isSaturated (d.shardOf request.sender) then
        .error (.requestQueueFull (d.shardOf request.sender))
      else .ok (d.append ⟨request, bounded⟩) := rfl

/-- Unless the dispatcher is stopped or a permit is missing, a request is appended. -/
theorem append_of_push {request : Request} {bounded : Bool}
    (pushed : d.push request bounded = .ok d') :
    d.phase ≠ .stopped ∧ (bounded = true → d.isSaturated (d.shardOf request.sender) = false) ∧
      d' = d.append ⟨request, bounded⟩ := by
  rw [push_eq_append] at pushed
  split at pushed
  · cases pushed
  · rename_i accepting
    split at pushed
    · cases pushed
    · rename_i unsaturated
      cases pushed
      refine ⟨accepting, ?_, rfl⟩
      rintro rfl
      simpa using unsaturated

theorem phase_appendAll (queued : List Queued) (d : Dispatcher) :
    (d.appendAll queued).phase = d.phase := by
  induction queued generalizing d with
  | nil => rfl
  | cons first rest ih => exact ih (d.append first)

theorem length_appendAll (queued : List Queued) (d : Dispatcher) :
    (d.appendAll queued).shards.length = d.shards.length := by
  induction queued generalizing d with
  | nil => rfl
  | cons first rest ih => exact (ih (d.append first)).trans (List.length_modify _ _ _)

/-! ### What a change of one shard leaves alone -/

/-- Whatever is read off the shards, a change of one of them shows there only. -/
theorem elim_shard_update {α : Type} {f : Shard → Shard} (absent : α) (view : Shard → α) :
    ((d.update index f).shards[other]?).elim absent view =
      if index = other then (d.shards[index]?).elim absent fun shard => view (f shard)
      else (d.shards[other]?).elim absent view := by
  rw [shard_update]
  split
  · rename_i same
    rw [same]
    cases d.shards[other]? <;> rfl
  · rfl

theorem queuedOn_update {f : Shard → Shard} :
    (d.update index f).queuedOn other =
      if index = other then (d.shards[index]?).elim [] fun shard => (f shard).queued
      else d.queuedOn other :=
  elim_shard_update [] (·.queued)

theorem permitsOn_update {f : Shard → Shard} :
    (d.update index f).permitsOn other =
      if index = other then (d.shards[index]?).elim 0 fun shard => (f shard).permitsInUse
      else d.permitsOn other :=
  elim_shard_update 0 (·.permitsInUse)

/-- Which requests belong on a shard depends on the number of the shards and on the key. -/
theorem share_congr (length : d'.shards.length = d.shards.length)
    (key : d'.shardKey = d.shardKey) : d'.share index log = d.share index log := by
  rw [share, share]
  congr 1
  funext queued
  rw [shardOf, shardOf, length, key]

theorem share_update {f : Shard → Shard} :
    (d.update index f).share other log = d.share other log :=
  share_congr (List.length_modify _ _ _) rfl

theorem share_append (first second : List Queued) :
    d.share index (first ++ second) = d.share index first ++ d.share index second :=
  List.filter_append _ _

theorem share_singleton :
    d.share index [queued] = if d.shardOf queued.request.sender = index then [queued] else [] := by
  simp only [share, List.filter_cons, List.filter_nil, decide_eq_true_eq]

/-! ### Appending, taking and finishing -/

theorem queuedOn_append (nonempty : 0 < d.shards.length) :
    (d.append queued).queuedOn index = d.queuedOn index ++ d.share index [queued] := by
  rw [append, queuedOn_update, share_singleton]
  split
  · rename_i here
    rcases shard_of_nonempty nonempty queued.request.sender with ⟨shard, hshard⟩
    simp [queuedOn, ← here, hshard]
  · exact (List.append_nil _).symm

theorem queuedOn_appendAll (nonempty : 0 < d.shards.length) (log : List Queued) :
    (d.appendAll log).queuedOn index = d.queuedOn index ++ d.share index log := by
  induction log generalizing d with
  | nil => exact (List.append_nil _).symm
  | cons first rest ih =>
    have nonempty' : 0 < (d.append first).shards.length :=
      Nat.lt_of_lt_of_eq nonempty (List.length_modify _ _ _).symm
    have later : (d.appendAll (first :: rest)).queuedOn index = _ := ih nonempty'
    have same : (d.append first).share index rest = d.share index rest := share_update
    rw [later, queuedOn_append nonempty, same, List.append_assoc, ← share_append,
      List.singleton_append]

theorem waiting_eq_queuedOn (d : Dispatcher) (id : SessionId) :
    d.waiting id = (d.queuedOn (d.shardOf (.session id))).map (·.request) := by
  unfold waiting queuedOn
  cases d.shards[d.shardOf (.session id)]? <;> rfl

theorem shardOf_appendAll (log : List Queued) (d : Dispatcher) (sender : RequestSender) :
    (d.appendAll log).shardOf sender = d.shardOf sender := by
  induction log generalizing d with
  | nil => rfl
  | cons first rest ih => exact (ih (d.append first)).trans (shardOf_update sender)

theorem waiting_appendAll (nonempty : 0 < d.shards.length) (log : List Queued) (id : SessionId) :
    (d.appendAll log).waiting id =
      d.waiting id ++ (d.share (d.shardOf (.session id)) log).map (·.request) := by
  rw [waiting_eq_queuedOn, shardOf_appendAll, queuedOn_appendAll nonempty, List.map_append,
    waiting_eq_queuedOn]

theorem permitsOn_append (nonempty : 0 < d.shards.length) :
    (d.append queued).permitsOn index =
      d.permitsOn index + (d.share index [queued]).countP (·.bounded) := by
  rw [append, permitsOn_update, share_singleton]
  split
  · rename_i here
    rcases shard_of_nonempty nonempty queued.request.sender with ⟨shard, hshard⟩
    cases hbounded : queued.bounded <;> simp [permitsOn, ← here, hshard, hbounded]
  · rfl

theorem queuedOn_takeFrom (taken : d.takeFrom index = some (queued, d')) :
    d.queuedOn other = if index = other then queued :: d'.queuedOn index else d'.queuedOn other := by
  rcases takeFrom_eq_some taken with ⟨shard, rest, hshard, hqueued, rfl⟩
  rw [queuedOn_update, queuedOn_update, if_pos rfl, hshard]
  split
  · rename_i same
    rw [← same, queuedOn, hshard]
    exact hqueued
  · rfl

theorem takeFrom_eq_none_iff : d.takeFrom index = none ↔ d.queuedOn index = [] := by
  unfold takeFrom queuedOn
  cases d.shards[index]? with
  | none => simp
  | some shard => cases hqueued : shard.queued <;> simp [hqueued]

theorem permitsOn_takeFrom (taken : d.takeFrom index = some (queued, d')) :
    d'.permitsOn other = d.permitsOn other := by
  rcases takeFrom_eq_some taken with ⟨shard, rest, hshard, hqueued, rfl⟩
  rw [permitsOn_update]
  split
  · rename_i same
    rw [← same, permitsOn]
  · rfl

theorem queuedOn_finish : (d.finish index queued).queuedOn other = d.queuedOn other := by
  rw [finish, queuedOn_update]
  split
  · rename_i same
    rw [← same, queuedOn]
  · rfl

theorem permitsOn_finish :
    (d.finish index queued).permitsOn other =
      d.permitsOn other - if index = other then queued.bounded.toNat else 0 := by
  rw [finish, permitsOn_update]
  split
  · rename_i same
    rw [← same, permitsOn]
    cases d.shards[index]? with
    | none => exact (Nat.zero_sub _).symm
    | some shard => rfl
  · rfl

theorem share_takeFrom (taken : d.takeFrom index = some (queued, d')) :
    d'.share other log = d.share other log := by
  rcases takeFrom_eq_some taken with ⟨shard, rest, -, -, rfl⟩
  exact share_update

theorem frame_takeFrom (taken : d.takeFrom index = some (queued, d')) :
    d'.shards.length = d.shards.length ∧ d'.capacity = d.capacity ∧ d'.phase = d.phase := by
  rcases takeFrom_eq_some taken with ⟨shard, rest, -, -, rfl⟩
  exact ⟨List.length_modify _ _ _, rfl, rfl⟩

/-! ### Until nothing waits -/

theorem sum_modify {shards : List Shard} {f : Shard → Shard} {shard : Shard}
    (here : shards[index]? = some shard) :
    ((shards.modify index f).map fun shard => shard.queued.length).foldr (· + ·) 0 +
        shard.queued.length =
      (shards.map fun shard => shard.queued.length).foldr (· + ·) 0 + (f shard).queued.length := by
  induction shards generalizing index with
  | nil => cases here
  | cons first rest ih =>
    cases index with
    | zero =>
      rcases Option.some.inj here with rfl
      simp only [List.modify_zero_cons, List.map_cons, List.foldr_cons]
      omega
    | succ index =>
      have others := ih here
      simp only [List.modify_succ_cons, List.map_cons, List.foldr_cons]
      omega

theorem pending_update {f : Shard → Shard} {shard : Shard} (here : d.shards[index]? = some shard) :
    (d.update index f).pending + shard.queued.length = d.pending + (f shard).queued.length :=
  sum_modify here

theorem pending_takeFrom (taken : d.takeFrom index = some (queued, d')) :
    d.pending = d'.pending + 1 := by
  rcases takeFrom_eq_some taken with ⟨shard, rest, hshard, hqueued, rfl⟩
  have summed := pending_update (f := fun shard => { shard with queued := rest }) hshard
  rw [hqueued, List.length_cons] at summed
  dsimp only at summed
  omega

theorem pending_finish : (d.finish index queued).pending = d.pending := by
  unfold finish
  cases hshard : d.shards[index]? with
  | none => rw [update, List.modify_eq_self (List.getElem?_eq_none_iff.mp hshard)]
  | some shard => exact Nat.add_right_cancel (pending_update hshard)

theorem queuedOn_of_pending_eq_zero (none : d.pending = 0) (index : Nat) : d.queuedOn index = [] := by
  cases taken : d.takeFrom index with
  | none => exact takeFrom_eq_none_iff.mp taken
  | some next =>
    have counted := pending_takeFrom taken
    omega

theorem queuedOn_of_busyShard?_eq_none (idle : d.busyShard? = none) (index : Nat) :
    d.queuedOn index = [] := by
  unfold queuedOn
  cases hshard : d.shards[index]? with
  | none => rfl
  | some shard =>
    have free := List.findIdx?_eq_none_iff.mp idle shard (List.mem_of_getElem? hshard)
    simpa using free

theorem takeFrom_of_busyShard? (busy : d.busyShard? = some index) :
    ∃ queued d', d.takeFrom index = some (queued, d') := by
  rcases List.findIdx?_eq_some_iff_getElem.mp busy with ⟨inside, waiting, -⟩
  cases taken : d.takeFrom index with
  | some next => exact ⟨next.1, next.2, rfl⟩
  | none =>
    have empty := takeFrom_eq_none_iff.mp taken
    rw [queuedOn, List.getElem?_eq_getElem inside] at empty
    simp [show d.shards[index].queued = [] from empty] at waiting

/-- A shard is saturated when all of its permits are in use. -/
theorem isSaturated_iff (nonempty : 0 < d.shards.length) (sender : RequestSender) :
    d.isSaturated (d.shardOf sender) = true ↔ d.capacity ≤ d.permitsOn (d.shardOf sender) := by
  rcases shard_of_nonempty nonempty sender with ⟨shard, hshard⟩
  simp [isSaturated, permitsOn, hshard]

end Dispatcher

/-- What the shards accepted, have in hand and processed; the logs are oldest first. -/
structure Ledger where
  accepted : List Queued := []
  inHand : Nat → Option Queued := fun _ => none
  processed : List Queued := []

namespace Ledger

variable {ledger : Ledger} {d d' : Dispatcher} {index : Nat} {queued : Queued}

/-- The requests that are to be processed by a shard: the one in hand, and those that wait. -/
def remaining (ledger : Ledger) (d : Dispatcher) (index : Nat) : List Queued :=
  (ledger.inHand index).toList ++ d.queuedOn index

/-- The requests of a log that one sender made. -/
def ofSender (sender : RequestSender) (log : List Queued) : List Queued :=
  log.filter fun queued => queued.request.sender = sender

/-- How many bounded requests a shard has accepted and not processed. -/
def outstanding (ledger : Ledger) (d : Dispatcher) (index : Nat) : Nat :=
  (d.share index ledger.accepted).countP (·.bounded) -
    (d.share index ledger.processed).countP (·.bounded)

def accept (ledger : Ledger) (queued : List Queued) : Ledger :=
  { ledger with accepted := ledger.accepted ++ queued }

/-- A shard has a request in hand, or none. -/
def hold (ledger : Ledger) (index : Nat) (queued? : Option Queued) : Ledger :=
  { ledger with inHand := fun other => if other = index then queued? else ledger.inHand other }

/-- A shard has processed the request it had in hand. -/
def finish (ledger : Ledger) (index : Nat) (queued : Queued) : Ledger :=
  { ledger.hold index none with processed := ledger.processed ++ [queued] }

/-- Whether a ledger is right about a dispatcher. -/
structure Balances (ledger : Ledger) (d : Dispatcher) : Prop where
  nonempty : 0 < d.shards.length
  kept : ∀ index, d.share index ledger.processed ++ ledger.remaining d index =
    d.share index ledger.accepted
  permits : ∀ index, d.permitsOn index = (ledger.remaining d index).countP (·.bounded)
  within : ∀ index, d.permitsOn index ≤ d.capacity

namespace Balances

/-- The permits in use are those of the bounded requests that are not yet processed. -/
theorem outstanding_eq (balances : ledger.Balances d) (index : Nat) :
    ledger.outstanding d index = d.permitsOn index := by
  have counted := congrArg (List.countP (·.bounded)) (balances.kept index)
  rw [List.countP_append, ← balances.permits] at counted
  rw [outstanding, ← counted, Nat.add_sub_cancel_left]

/-- A bounded request is refused just when its shard holds as many as it has permits. -/
theorem enqueue_eq (balances : ledger.Balances d) (accepting : d.phase ≠ .stopped)
    (request : Request) :
    d.enqueue request =
      if ledger.outstanding d (d.shardOf request.sender) = d.capacity then
        .error (.requestQueueFull (d.shardOf request.sender))
      else .ok (d.append ⟨request, true⟩) := by
  have saturated : d.isSaturated (d.shardOf request.sender) = true ↔
      ledger.outstanding d (d.shardOf request.sender) = d.capacity := by
    rw [Dispatcher.isSaturated_iff balances.nonempty, balances.outstanding_eq]
    exact ⟨Nat.le_antisymm (balances.within _), fun same => Nat.le_of_eq same.symm⟩
  rw [Dispatcher.enqueue, Dispatcher.push_eq_append, if_neg accepting, Bool.true_and]
  simp only [saturated]

/-- What a shard is to process belongs there. -/
theorem shardOf_remaining (balances : ledger.Balances d)
    (member : queued ∈ ledger.remaining d index) : d.shardOf queued.request.sender = index := by
  have accepted : queued ∈ d.share index ledger.accepted := by
    rw [← balances.kept index]
    exact List.mem_append_right _ member
  exact of_decide_eq_true (List.mem_filter.mp accepted).2

/-- Each request of a sender is processed once, in the order in which they were accepted. -/
theorem kept_of_sender (balances : ledger.Balances d) (sender : RequestSender) :
    ofSender sender ledger.processed ++
        ofSender sender (ledger.remaining d (d.shardOf sender)) =
      ofSender sender ledger.accepted := by
  have shared : ∀ log, ofSender sender (d.share (d.shardOf sender) log) = ofSender sender log := by
    intro log
    rw [ofSender, ofSender, Dispatcher.share, List.filter_filter]
    congr 1
    funext queued
    by_cases same : queued.request.sender = sender <;> simp [same]
  calc ofSender sender ledger.processed ++ ofSender sender (ledger.remaining d (d.shardOf sender))
      = ofSender sender (d.share (d.shardOf sender) ledger.processed ++
          ledger.remaining d (d.shardOf sender)) := by
        rw [← shared, ofSender, ofSender, ofSender, List.filter_append]
    _ = ofSender sender (d.share (d.shardOf sender) ledger.accepted) := by
        rw [balances.kept]
    _ = ofSender sender ledger.accepted := shared _

/-- A ledger is right about every dispatcher with the same shards. -/
theorem of_shards (balances : ledger.Balances d) (shards : d'.shards = d.shards)
    (capacity : d'.capacity = d.capacity) (key : d'.shardKey = d.shardKey) : ledger.Balances d' := by
  have queuedOn : d'.queuedOn = d.queuedOn := by
    funext index
    rw [Dispatcher.queuedOn, Dispatcher.queuedOn, shards]
  have permitsOn : d'.permitsOn = d.permitsOn := by
    funext index
    rw [Dispatcher.permitsOn, Dispatcher.permitsOn, shards]
  have share : d'.share = d.share := by
    funext index log
    exact Dispatcher.share_congr (congrArg List.length shards) key
  refine ⟨by rw [shards]; exact balances.nonempty, ?_, ?_, ?_⟩
  · simpa only [remaining, queuedOn, share] using balances.kept
  · simpa only [remaining, queuedOn, permitsOn] using balances.permits
  · simpa only [permitsOn, capacity] using balances.within

theorem create (shards capacity : Nat) (shardKey : RequestSender → Nat) :
    ({} : Ledger).Balances (.create shards capacity shardKey) := by
  have fresh : ∀ index : Nat, (Dispatcher.create shards capacity shardKey).shards[index]? = none ∨
      (Dispatcher.create shards capacity shardKey).shards[index]? = some {} := by
    intro index
    rw [Dispatcher.create, List.getElem?_replicate]
    split
    · exact .inr rfl
    · exact .inl rfl
  have empty : ∀ index, (Dispatcher.create shards capacity shardKey).queuedOn index = [] := by
    intro index
    rcases fresh index with absent | present
    · rw [Dispatcher.queuedOn, absent]; rfl
    · rw [Dispatcher.queuedOn, present]; rfl
  have unused : ∀ index, (Dispatcher.create shards capacity shardKey).permitsOn index = 0 := by
    intro index
    rcases fresh index with absent | present
    · rw [Dispatcher.permitsOn, absent]; rfl
    · rw [Dispatcher.permitsOn, present]; rfl
  refine ⟨?_, ?_, ?_, ?_⟩
  · rw [Dispatcher.create, List.length_replicate]
    exact Nat.lt_of_lt_of_le Nat.zero_lt_one (Nat.le_max_left 1 shards)
  · intro index
    simp [remaining, empty, Dispatcher.share]
  · intro index
    simp [remaining, empty, unused]
  · intro index
    rw [unused]
    exact Nat.zero_le _

theorem append (balances : ledger.Balances d)
    (admitted : queued.bounded = true → d.isSaturated (d.shardOf queued.request.sender) = false) :
    (ledger.accept [queued]).Balances (d.append queued) where
  nonempty := by
    rw [Dispatcher.append, Dispatcher.update, List.length_modify]
    exact balances.nonempty
  kept index := by
    have share : ∀ log, (d.append queued).share index log = d.share index log :=
      fun _ => Dispatcher.share_update
    have before := balances.kept index
    rw [remaining] at before ⊢
    simp only [share, accept, Dispatcher.queuedOn_append balances.nonempty,
      Dispatcher.share_append, ← before, List.append_assoc]
  permits index := by
    have before := balances.permits index
    rw [remaining] at before ⊢
    simp only [accept, Dispatcher.queuedOn_append balances.nonempty,
      Dispatcher.permitsOn_append balances.nonempty, before, List.countP_append, Nat.add_assoc]
  within index := by
    have before := balances.within index
    rw [Dispatcher.permitsOn_append balances.nonempty, Dispatcher.share_singleton]
    split
    · rename_i here
      -- a notice takes no permit, and a bounded request was admitted because one was left
      cases hbounded : queued.bounded with
      | false =>
        rw [List.countP_singleton, if_neg (ne_true_of_eq_false hbounded)]
        exact before
      | true =>
        have saturated := Dispatcher.isSaturated_iff balances.nonempty queued.request.sender
        rw [admitted hbounded, here] at saturated
        rw [List.countP_singleton, if_pos hbounded]
        exact Nat.lt_of_not_le fun full => Bool.false_ne_true (saturated.mpr full)
    · exact before

theorem take (balances : ledger.Balances d) (free : ledger.inHand index = none)
    (taken : d.takeFrom index = some (queued, d')) :
    (ledger.hold index (some queued)).Balances d' := by
  rcases Dispatcher.frame_takeFrom taken with ⟨length, capacity, -⟩
  -- what is taken off the queue is in hand, so what is to be processed is the same
  have same : ∀ other,
      (ledger.hold index (some queued)).remaining d' other = ledger.remaining d other := by
    intro other
    rw [remaining, remaining, Dispatcher.queuedOn_takeFrom taken, hold]
    by_cases here : other = index
    · subst here
      simp [free]
    · simp [here, Ne.symm here]
  refine ⟨length ▸ balances.nonempty, ?_, ?_, ?_⟩
  · intro other
    rw [same, Dispatcher.share_takeFrom taken, Dispatcher.share_takeFrom taken]
    exact balances.kept other
  · intro other
    rw [same, Dispatcher.permitsOn_takeFrom taken]
    exact balances.permits other
  · intro other
    rw [Dispatcher.permitsOn_takeFrom taken, capacity]
    exact balances.within other

theorem finish (balances : ledger.Balances d) (hand : ledger.inHand index = some queued) :
    (ledger.finish index queued).Balances (d.finish index queued) := by
  have belongs : d.shardOf queued.request.sender = index :=
    balances.shardOf_remaining (by simp [remaining, hand])
  have share : ∀ other log, (d.finish index queued).share other log = d.share other log :=
    fun _ _ => Dispatcher.share_update
  -- what was in hand is the first of what was to be processed
  have next : ∀ other, ledger.remaining d other =
      (if index = other then [queued] else []) ++
        (ledger.finish index queued).remaining (d.finish index queued) other := by
    intro other
    rw [remaining, remaining, Dispatcher.queuedOn_finish, Ledger.finish, hold]
    by_cases here : other = index
    · subst here
      simp [hand]
    · simp [here, Ne.symm here]
  refine ⟨?_, ?_, ?_, ?_⟩
  · rw [Dispatcher.finish, Dispatcher.update, List.length_modify]
    exact balances.nonempty
  · intro other
    have before := balances.kept other
    rw [next] at before
    have ended : d.share other (ledger.finish index queued).processed =
        d.share other ledger.processed ++ if index = other then [queued] else [] := by
      rw [Ledger.finish, Dispatcher.share_append, Dispatcher.share_singleton, belongs]
    rw [share, share, ended, List.append_assoc]
    exact before
  · intro other
    have before := balances.permits other
    rw [next, List.countP_append] at before
    rw [Dispatcher.permitsOn_finish, before]
    split
    · cases hbounded : queued.bounded <;> simp [hbounded]
    · simp
  · intro other
    rw [Dispatcher.permitsOn_finish]
    exact Nat.le_trans (Nat.sub_le _ _) (balances.within other)

end Balances

/-! ## Turns -/

/-- The turns that a shard has made use of: one to take each request, and one to process it. -/
def progress (ledger : Ledger) (d : Dispatcher) (index : Nat) : Nat :=
  2 * (d.share index ledger.processed).length + (ledger.inHand index).toList.length

/-- The turns that a shard needs for the requests that it has. -/
def work (ledger : Ledger) (d : Dispatcher) (index : Nat) : Nat :=
  2 * (d.queuedOn index).length + (ledger.inHand index).toList.length

/-- With the turns that it still needs, a shard will have processed all that it accepted. -/
theorem Balances.progress_add_work (balances : ledger.Balances d) (index : Nat) :
    ledger.progress d index + ledger.work d index = 2 * (d.share index ledger.accepted).length := by
  have kept := congrArg List.length (balances.kept index)
  rw [List.length_append, remaining, List.length_append] at kept
  unfold progress work
  omega

theorem progress_take {other : Nat} (free : ledger.inHand index = none)
    (taken : d.takeFrom index = some (queued, d')) :
    (ledger.hold index (some queued)).progress d' other =
      ledger.progress d other + if index = other then 1 else 0 := by
  rw [progress, progress, Dispatcher.share_takeFrom taken, hold]
  by_cases here : other = index
  · subst here
    simp [free]
  · simp [here, Ne.symm here]

theorem Balances.progress_finish {other : Nat} (balances : ledger.Balances d)
    (hand : ledger.inHand index = some queued) :
    (ledger.finish index queued).progress (d.finish index queued) other =
      ledger.progress d other + if index = other then 1 else 0 := by
  have belongs : d.shardOf queued.request.sender = index :=
    balances.shardOf_remaining (by simp [remaining, hand])
  have share : ∀ log, (d.finish index queued).share other log = d.share other log :=
    fun _ => Dispatcher.share_update
  rw [progress, progress, share, Ledger.finish, Dispatcher.share_append,
    Dispatcher.share_singleton, belongs, hold]
  by_cases here : other = index
  · subst here
    simp [hand]
    omega
  · simp [here, Ne.symm here]

/-! ## Dealings -/

/-- One thing that befalls the requests of a dispatcher. -/
inductive Dealing : Ledger × Dispatcher → Ledger × Dispatcher → Prop
  /-- A request is accepted; a bounded one is if there is a permit for it. -/
  | accept {ledger : Ledger} {d : Dispatcher} {queued : Queued} (accepting : d.phase ≠ .stopped)
      (admitted : queued.bounded = true → d.isSaturated (d.shardOf queued.request.sender) = false) :
      Dealing (ledger, d) (ledger.accept [queued], d.append queued)
  | take {ledger : Ledger} {d d' : Dispatcher} {index : Nat} {queued : Queued}
      (free : ledger.inHand index = none) (taken : d.takeFrom index = some (queued, d')) :
      Dealing (ledger, d) (ledger.hold index (some queued), d')
  | finish {ledger : Ledger} {d : Dispatcher} {index : Nat} {queued : Queued}
      (hand : ledger.inHand index = some queued) :
      Dealing (ledger, d) (ledger.finish index queued, d.finish index queued)
  | start {ledger : Ledger} {d : Dispatcher} : Dealing (ledger, d) (ledger, d.start)

/-- Any number of dealings. -/
abbrev Dealings : Ledger × Dispatcher → Ledger × Dispatcher → Prop :=
  Relation.ReflTransGen Dealing

/-- Notices are accepted whatever permits are in use. -/
theorem dealings_appendAll (accepting : d.phase ≠ .stopped) {notices : List Queued}
    (unbounded : ∀ queued ∈ notices, queued.bounded = false) :
    Dealings (ledger, d) (ledger.accept notices, d.appendAll notices) := by
  induction notices generalizing ledger d with
  | nil =>
    rw [show ledger.accept [] = ledger by rw [accept, List.append_nil]]
    exact .refl
  | cons first rest ih =>
    have free := unbounded first (List.mem_cons_self ..)
    have here : Dealing (ledger, d) (ledger.accept [first], d.append first) :=
      .accept accepting fun bounded => absurd (free.symm.trans bounded) Bool.false_ne_true
    have others : Dealings (ledger.accept [first], d.append first)
        ((ledger.accept [first]).accept rest, (d.append first).appendAll rest) :=
      ih accepting fun queued member => unbounded queued (List.mem_cons_of_mem _ member)
    rw [show (ledger.accept [first]).accept rest = ledger.accept (first :: rest) by
      simp only [accept, List.append_assoc, List.singleton_append]] at others
    exact .head here others

/-- What dealings leave alone and what they keep. -/
structure Follows (a b : Ledger × Dispatcher) : Prop where
  length : b.2.shards.length = a.2.shards.length
  capacity : b.2.capacity = a.2.capacity
  key : b.2.shardKey = a.2.shardKey
  running : a.2.phase = .running → b.2.phase = .running
  stopped : b.2.phase = .stopped ↔ a.2.phase = .stopped
  accepted : a.1.accepted <+: b.1.accepted
  /-- A dispatcher that is stopped accepts nothing. -/
  closed : a.2.phase = .stopped → b.1.accepted = a.1.accepted
  balances : a.1.Balances a.2 → b.1.Balances b.2

namespace Follows

variable {a b c : Ledger × Dispatcher}

theorem refl (a : Ledger × Dispatcher) : Follows a a :=
  ⟨rfl, rfl, rfl, id, Iff.rfl, List.prefix_refl _, fun _ => rfl, id⟩

theorem trans (first : Follows a b) (second : Follows b c) : Follows a c where
  length := second.length.trans first.length
  capacity := second.capacity.trans first.capacity
  key := second.key.trans first.key
  running := second.running ∘ first.running
  stopped := second.stopped.trans first.stopped
  accepted := first.accepted.trans second.accepted
  closed stopped := (second.closed (first.stopped.mpr stopped)).trans (first.closed stopped)
  balances := second.balances ∘ first.balances

theorem of_dealing (dealing : Dealing a b) : Follows a b := by
  cases dealing with
  | accept accepting admitted =>
    exact ⟨List.length_modify _ _ _, rfl, rfl, id, Iff.rfl, List.prefix_append _ _,
      fun stopped => absurd stopped accepting, fun balances => balances.append admitted⟩
  | take free taken =>
    rcases Dispatcher.takeFrom_eq_some taken with ⟨_, _, -, -, rfl⟩
    exact ⟨List.length_modify _ _ _, rfl, rfl, id, Iff.rfl, List.prefix_refl _, fun _ => rfl,
      fun balances => balances.take free taken⟩
  | finish hand =>
    exact ⟨List.length_modify _ _ _, rfl, rfl, id, Iff.rfl, List.prefix_refl _, fun _ => rfl,
      fun balances => balances.finish hand⟩
  | @start ledger d =>
    unfold Dispatcher.start
    split
    · rename_i idle
      refine ⟨rfl, rfl, rfl, fun _ => rfl, ?_, List.prefix_refl _, fun _ => rfl,
        fun balances => balances.of_shards rfl rfl rfl⟩
      simp [idle]
    · exact .refl _

theorem of_dealings (dealings : Dealings a b) : Follows a b := by
  induction dealings with
  | refl => exact .refl a
  | tail _ dealing ih => exact ih.trans (of_dealing dealing)

/-- The requests of each shard stay there. -/
theorem share (follows : Follows a b) (index : Nat) (log : List Queued) :
    b.2.share index log = a.2.share index log :=
  Dispatcher.share_congr follows.length follows.key

theorem share_accepted (follows : Follows a b) (index : Nat) :
    a.2.share index a.1.accepted <+: b.2.share index b.1.accepted := by
  rw [follows.share]
  exact follows.accepted.filter _

end Follows

end Ledger

end SessionNet
