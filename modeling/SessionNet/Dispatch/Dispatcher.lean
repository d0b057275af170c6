import SessionNet.Dispatch.Event
import SessionNet.Error

/-!
# The request dispatcher

Requests are spread over shards by their sender, so the requests of one sender stay in order. A
bounded request holds a permit of its shard from its acceptance until it has been processed; a
notice, such as that of a session's end, needs none. Once stopped, the dispatcher accepts nothing.
-/

namespace SessionNet

/-- A request on a shard, and whether it holds a permit. -/
structure Queued where
  request : Request
  bounded : Bool
  deriving BEq, Repr

/-- The requests of a shard, oldest first, and the permits in use. -/
structure Shard where
  queued : List Queued := []
  permitsInUse : Nat := 0
  deriving BEq, Repr

/-- How far a stage has come. -/
inductive StagePhase where
  | idle
  | running
  | stopped
  deriving DecidableEq, Repr

/-- The shards and the rule that spreads requests over them. -/
structure Dispatcher where
  shards : List Shard
  /-- Permits of each shard. -/
  capacity : Nat
  shardKey : RequestSender → Nat
  phase : StagePhase := .idle

namespace Dispatcher

/-- A dispatcher with at least one shard and at least one permit for each. -/
def create (shards capacity : Nat) (shardKey : RequestSender → Nat) : Dispatcher :=
  { shards := List.replicate (max 1 shards) {}, capacity := max 1 capacity, shardKey }

/-- The number of shards that accept requests. -/
def shardCount (d : Dispatcher) : Nat := if d.phase = .stopped then 0 else d.shards.length

def shardOf (d : Dispatcher) (sender : RequestSender) : Nat := d.shardKey sender % d.shards.length

def update (d : Dispatcher) (index : Nat) (f : Shard → Shard) : Dispatcher :=
  { d with shards := d.shards.modify index f }

/-- Whether a shard has no permit left. -/
def isSaturated (d : Dispatcher) (index : Nat) : Bool :=
  (d.shards[index]?).any fun shard => d.capacity ≤ shard.permitsInUse

/-- Hand a request to its shard. -/
def push (d : Dispatcher) (request : Request) (bounded : Bool) : Except NetError Dispatcher :=
  let index := d.shardOf request.sender
  if d.phase = .stopped then .error (.shutdown .dispatcher)
  else if bounded && d.isSaturated index then .error (.requestQueueFull index)
  else
    .ok (d.update index fun shard =>
      { queued := shard.queued ++ [⟨request, bounded⟩]
        permitsInUse := shard.permitsInUse + bounded.toNat })

/-- Hand over a request that needs a permit. -/
def enqueue (d : Dispatcher) (request : Request) : Except NetError Dispatcher := d.push request true

/-- Hand over a notice, which needs no permit. -/
def enqueueNotice (d : Dispatcher) (request : Request) : Except NetError Dispatcher :=
  d.push request false

/-- Take the oldest request off a shard; its permit stays in use. -/
def takeFrom (d : Dispatcher) (index : Nat) : Option (Queued × Dispatcher) :=
  match d.shards[index]? with
  | none => none
  | some shard =>
    match shard.queued with
    | [] => none
    | first :: rest => some (first, d.update index fun shard => { shard with queued := rest })

/-- Give back the permit of a processed request. -/
def finish (d : Dispatcher) (index : Nat) (queued : Queued) : Dispatcher :=
  d.update index fun shard =>
    { shard with permitsInUse := shard.permitsInUse - queued.bounded.toNat }

def busyShard? (d : Dispatcher) : Option Nat := d.shards.findIdx? fun shard => !shard.queued.isEmpty

/-- The number of requests on all shards. -/
def pending (d : Dispatcher) : Nat :=
  (d.shards.map fun shard => shard.queued.length).foldr (· + ·) 0

/-- Start the shards, once. -/
def start (d : Dispatcher) : Dispatcher :=
  if d.phase = .idle then { d with phase := .running } else d

/-- Drop all requests that are left. -/
def discard (d : Dispatcher) : Dispatcher := { d with shards := d.shards.map fun _ => {} }

end Dispatcher

end SessionNet
