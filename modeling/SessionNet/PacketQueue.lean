import SessionNet.Error
import SessionNet.Number.Text
import SessionNet.Packet

/-!
# Packet queues

A bounded queue of packets in order of their ids. A packet is admitted if there is room and the
queue's policy agrees; otherwise the queue stays as it is. Usage is a percentage in single
precision.
-/

namespace SessionNet

/-- Why a packet was not admitted. -/
inductive QueueFault where
  | full
  | shed (packet : Nat) (usage : UInt32)
  deriving DecidableEq, Repr

namespace QueueFault

/-- The text shown for a refusal. -/
def message : QueueFault → String
  | .full => "packet queue is full"
  | .shed packet usage =>
    "packet " ++ Number.natText packet ++ " shed at " ++ Number.onePlace .single usage.toNat
      ++ "% usage"

/-- The refusal as a failure of the operation that offered the packet. -/
def toError : QueueFault → NetError
  | .full => .queueFull
  | .shed packet usage => .policyViolation packet usage

end QueueFault

/-- How full a queue is when a packet is offered. -/
structure QueueUsage where
  length : Nat
  capacity : Nat
  deriving DecidableEq, Repr

/-- The number 100 in single precision. -/
def hundred : UInt32 := 0x42c80000

/-- The share of the capacity in use, in percent; a queue without room counts as full. -/
def QueueUsage.percentage (u : QueueUsage) : UInt32 :=
  if u.capacity = 0 then hundred
  else
    let single := Number.Floating.single
    let share := single.divMagnitude (single.ofNat u.length) (single.ofNat u.capacity)
    UInt32.ofNat (single.mulMagnitude share hundred.toNat)

/-- An admission rule, asked once there is room. -/
structure QueuePolicy where
  apply : QueueUsage → Packet → Except QueueFault Unit

namespace QueuePolicy

/-- Admit every packet. -/
def acceptAll : QueuePolicy := ⟨fun _ _ => .ok ()⟩

/-- A threshold brought between 0 and 100; NaN and negative zero stay as they are. -/
def clampThreshold (threshold : UInt32) : UInt32 :=
  let single := Number.Floating.single
  if single.lt threshold.toNat 0 then 0
  else if single.lt hundred.toNat threshold.toNat then hundred
  else threshold

/-- From a threshold on, admit only packets that must be delivered. -/
def shedding (threshold : UInt32) : QueuePolicy :=
  let threshold := clampThreshold threshold
  ⟨fun usage packet =>
    let percent := usage.percentage
    if Number.Floating.single.le threshold.toNat percent.toNat && !packet.priority.mustDeliver then
      .error (.shed packet.id percent)
    else .ok ()⟩

/-- The threshold of 90 percent. -/
def defaultThreshold : UInt32 := 0x42b40000

/-- Shedding from 90 percent on. -/
def standard : QueuePolicy := shedding defaultThreshold

end QueuePolicy

/-- A bounded queue; the packets are in strictly ascending order of their ids. -/
structure PacketQueue where
  capacity : Nat
  policy : QueuePolicy
  packets : List Packet := []

namespace PacketQueue

/-- Packets with `packet` added or, if its id is already there, put in place of the other one. -/
def insertSorted (packet : Packet) : List Packet → List Packet
  | [] => [packet]
  | first :: rest =>
    if packet.id < first.id then packet :: first :: rest
    else if packet.id = first.id then packet :: rest
    else first :: insertSorted packet rest

def length (q : PacketQueue) : Nat := q.packets.length

def isEmpty (q : PacketQueue) : Bool := q.packets.isEmpty

def isFull (q : PacketQueue) : Bool := q.capacity ≤ q.length

/-- How full the queue is. -/
def usage (q : PacketQueue) : QueueUsage := ⟨q.length, q.capacity⟩

/-- Admit a packet or say why not. -/
def put (q : PacketQueue) (packet : Packet) : Except QueueFault PacketQueue :=
  if q.isFull then .error .full
  else
    match q.policy.apply q.usage packet with
    | .error fault => .error fault
    | .ok () => .ok { q with packets := insertSorted packet q.packets }

/-- Take the packet with the least id. -/
def take (q : PacketQueue) : Option (Packet × PacketQueue) :=
  match q.packets with
  | [] => none
  | packet :: rest => some (packet, { q with packets := rest })

/-- Drop all packets, with their number. -/
def clear (q : PacketQueue) : Nat × PacketQueue := (q.length, { q with packets := [] })

def describe (q : PacketQueue) : String :=
  "PacketQueue \x7b len: " ++ Number.natText q.length ++ ", capacity: "
    ++ Number.natText q.capacity ++ " \x7d"

end PacketQueue

end SessionNet
