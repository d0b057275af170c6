import SessionNet.Proofs.Session.Passes

/-!
# Partial writes lose, repeat and interleave nothing

A stream takes as much as it likes of what is offered, blocks, or interrupts. Whatever it does, the
bytes on the wire and the rest that is pending are together the encodings of the packets taken off
the queue, one behind the other. Packets may arrive between any two passes. Budgets are arbitrary, so
a pass into which packets arrive is a sequence of shorter ones.
-/

namespace SessionNet

/-! ## Streams that take bytes or block -/

/-- Whatever a stream does, it takes bytes from the front, and what it leaves is the rest. -/
theorem offer_prefix (script : List WriteOutcome) :
    ∀ (bytes taken : Bytes) (calls : Nat), ∃ fresh left,
      (offer script bytes taken calls).taken = taken ++ fresh ∧ fresh ++ left = bytes ∧
      ∀ written, (offer script bytes taken calls).result = .ok written →
        written.rest?.getD [] = left := by
  -- the induction is on the script, because an interruption uses up nothing else
  induction script with
  | nil =>
    intro bytes taken calls
    unfold offer
    split
    · rename_i empty
      exact ⟨[], [], by simp, by simp [empty], by rintro written ⟨⟩; rfl⟩
    · exact ⟨bytes, [], rfl, by simp, by rintro written ⟨⟩; rfl⟩
  | cons outcome script ih =>
    intro bytes taken calls
    unfold offer
    split
    · rename_i empty
      exact ⟨[], [], by simp, by simp [empty], by rintro written ⟨⟩; rfl⟩
    · cases outcome with
      | blocks => exact ⟨[], bytes, by simp, rfl, by rintro written ⟨⟩; rfl⟩
      | interrupted => exact ih bytes taken (calls + 1)
      | fails detail => exact ⟨[], bytes, by simp, rfl, by rintro written ⟨⟩⟩
      | takes count =>
        cases count with
        | zero => exact ⟨[], bytes, by simp, rfl, by rintro written ⟨⟩⟩
        | succ count =>
          rcases ih (bytes.drop (count + 1)) (taken ++ bytes.take (count + 1)) (calls + 1) with
            ⟨fresh, left, took, split, kept⟩
          refine ⟨bytes.take (count + 1) ++ fresh, left, ?_, ?_, kept⟩
          · simpa only [List.append_assoc] using took
          · rw [List.append_assoc, split, List.take_append_drop]

/-- An outcome of an attempt that is no failure. -/
def WriteOutcome.Benign : WriteOutcome → Prop
  | .takes count => 0 < count
  | .blocks => True
  | .interrupted => True
  | .fails _ => False

/-- A stream of which no write is going to fail. -/
def Stream.Benign (stream : Stream) : Prop := ∀ outcome ∈ stream.script, outcome.Benign

/-- A stream that does not fail leaves what it did not take, if that is anything. -/
theorem offer_of_benign {script : List WriteOutcome} (benign : ∀ outcome ∈ script, outcome.Benign) :
    ∀ (bytes taken : Bytes) (calls : Nat), ∃ rest?,
      (offer script bytes taken calls).result =
        .ok ⟨(offer script bytes taken calls).taken.length, rest?⟩ ∧
      (∀ outcome ∈ (offer script bytes taken calls).script, outcome.Benign) ∧ rest? ≠ some [] := by
  induction script with
  | nil =>
    intro bytes taken calls
    unfold offer
    split
    · exact ⟨none, rfl, benign, nofun⟩
    · exact ⟨none, by rw [List.length_append], benign, nofun⟩
  | cons outcome script ih =>
    intro bytes taken calls
    have first : outcome.Benign := benign outcome (List.mem_cons_self ..)
    have others : ∀ outcome ∈ script, outcome.Benign :=
      fun outcome member => benign outcome (List.mem_cons_of_mem _ member)
    unfold offer
    split
    · exact ⟨none, rfl, benign, nofun⟩
    · rename_i nonempty
      cases outcome with
      | blocks => exact ⟨some bytes, rfl, others, fun empty => nonempty (Option.some.inj empty)⟩
      | interrupted => exact ih others bytes taken (calls + 1)
      | fails detail => exact False.elim first
      | takes count =>
        cases count with
        | zero => exact absurd first (Nat.lt_irrefl 0)
        | succ count => exact ih others _ _ _

/-- A packet for the stream that can be encoded, whatever the nonce. -/
def Packet.Streamable (codec : CodecConfig) (packet : Packet) : Prop :=
  packet.transport ≠ .udp ∧ ∀ nonce, ∃ bytes, codec.encodePacket nonce packet = .ok bytes

namespace Session

/-- The bytes on the wire of a session's stream. -/
def wire (s : Session) : Bytes :=
  match s.transport with
  | .socket stream => stream.wire
  | _ => []

/-- What is left of the packet written in part. -/
def remainder (s : Session) : Bytes := s.pending?.elim [] (·.rest)

/-- Bytes of a packet went to a stream, and those it did not take are pending. -/
structure Streamed (s t : Session) (stream : Stream) (bytes : Bytes) : Prop where
  transport : ∃ script fresh,
    t.transport = .socket { stream with script, wire := stream.wire ++ fresh } ∧
    (∀ outcome ∈ script, outcome.Benign) ∧ fresh ++ t.remainder = bytes ∧
    t.counters.bytesWritten = s.counters.bytesWritten + fresh.length
  packets : t.counters.packetsWritten + t.pending?.toList.length = s.counters.packetsWritten + 1
  pending : ∀ pending, t.pending? = some pending → pending.rest ≠ []
  queue : t.queue = s.queue

theorem streamed_writePacketBytes {s : Session} {stream : Stream}
    (transport : s.transport = .socket stream) (benign : stream.Benign) (clear : s.pending? = none)
    (packet : Packet) (bytes : Bytes) :
    ∃ t, s.writePacketBytes packet bytes = (t, .ok t.pending?.isNone) ∧
      s.Streamed t stream bytes := by
  rcases offer_prefix stream.script bytes [] 0 with ⟨fresh, left, took, split, unwritten⟩
  rcases offer_of_benign benign bytes [] 0 with ⟨rest?, result, kept, blocked⟩
  have whole : fresh ++ rest?.getD [] = bytes := unwritten _ result ▸ split
  rw [took, List.nil_append] at result
  have round : (writeAvailable stream.script bytes).result = .ok ⟨fresh.length, rest?⟩ := result
  have wrote : (writeAvailable stream.script bytes).taken = fresh := took
  unfold writePacketBytes writeToStream
  simp only [transport, round, wrote]
  cases rest? with
  | none =>
    refine ⟨_, Prod.ext rfl (by simp [recordSent, recordWritten, clear]), ?_, ?_, ?_, rfl⟩
    · exact ⟨_, fresh, rfl, kept, by simpa [remainder, recordSent, recordWritten, clear] using whole,
        rfl⟩
    · simp [recordSent, recordWritten, clear]
    · simp [recordSent, recordWritten, clear]
  | some rest =>
    refine ⟨_, Prod.ext rfl rfl, ⟨_, fresh, rfl, kept, whole, rfl⟩, rfl, ?_, rfl⟩
    rintro pending ⟨⟩ empty
    exact blocked (congrArg some empty)

/-! ## Packets on the wire -/

/-- The packets taken off the queue, each with an encoding, are on the wire up to the rest of one. -/
structure Laid (codec : CodecConfig) (sent : List (Packet × Bytes)) (stream : Stream) (s : Session) :
    Prop where
  transport : s.transport = .socket stream
  benign : stream.Benign
  encoded : ∀ piece ∈ sent, ∃ nonce, codec.encodePacket nonce piece.1 = .ok piece.2
  wire : stream.wire ++ s.remainder = (sent.map Prod.snd).flatten
  bytes : s.counters.bytesWritten = stream.wire.length
  packets : s.counters.packetsWritten + s.pending?.toList.length = sent.length
  /-- What is pending is part of the packet taken last. -/
  pending : ∀ pending, s.pending? = some pending → pending.rest ≠ [] ∧
    ∃ piece, sent.getLast? = some piece ∧ pending.rest <:+ piece.2

namespace Laid

variable {codec : CodecConfig} {sent : List (Packet × Bytes)} {stream : Stream} {s t : Session}

/-- Only the transport, the pending write and the counters count. -/
theorem of_same (laid : s.Laid codec sent stream) (transport : t.transport = s.transport)
    (pending : t.pending? = s.pending?) (counters : t.counters = s.counters) :
    t.Laid codec sent stream := by
  have remainder : t.remainder = s.remainder := by simp only [Session.remainder, pending]
  refine ⟨transport.trans laid.transport, laid.benign, laid.encoded, ?_, ?_, ?_, ?_⟩
  · rw [remainder]
    exact laid.wire
  · rw [counters]
    exact laid.bytes
  · rw [counters, pending]
    exact laid.packets
  · rw [pending]
    exact laid.pending

/-- One more packet is taken and written, as far as the stream takes it. -/
theorem concat {packet : Packet} {bytes : Bytes} {nonce : Nonce} (laid : s.Laid codec sent stream)
    (clear : s.pending? = none) (encoded : codec.encodePacket nonce packet = .ok bytes)
    (streamed : s.Streamed t stream bytes) :
    ∃ stream', t.Laid codec (sent ++ [(packet, bytes)]) stream' := by
  rcases streamed.transport with ⟨script, fresh, transport, kept, whole, counted⟩
  have before := laid.wire
  have packets := laid.packets
  simp only [remainder, clear, Option.elim_none, List.append_nil] at before
  simp only [clear, Option.toList_none, List.length_nil, Nat.add_zero] at packets
  refine ⟨_, transport, kept, ?_, ?_, ?_, ?_, ?_⟩
  · intro piece member
    rcases List.mem_append.mp member with old | new
    · exact laid.encoded piece old
    · rw [List.mem_singleton.mp new]
      exact ⟨nonce, encoded⟩
  · simp only [List.append_assoc, whole, before, List.map_append, List.map_cons, List.map_nil,
      List.flatten_append, List.flatten_cons, List.flatten_nil, List.append_nil]
  · simp only [counted, laid.bytes, List.length_append]
  · simp only [streamed.packets, packets, List.length_append, List.length_singleton]
  · intro pending present
    refine ⟨streamed.pending pending present, (packet, bytes), by simp, fresh, ?_⟩
    simpa only [remainder, present, Option.elim_some] using whole

/-- The stream takes more of the packet written in part. -/
theorem resume {pending : PendingWrite} (laid : s.Laid codec sent stream)
    (present : s.pending? = some pending)
    (streamed : ({ s with pending? := none } : Session).Streamed t stream pending.rest) :
    ∃ stream', t.Laid codec sent stream' := by
  rcases streamed.transport with ⟨script, fresh, transport, kept, whole, counted⟩
  have before := laid.wire
  have packets := laid.packets
  simp only [remainder, present, Option.elim_some] at before
  simp only [present, Option.toList_some, List.length_singleton] at packets
  refine ⟨_, transport, kept, laid.encoded, ?_, ?_, ?_, ?_⟩
  · simp only [List.append_assoc, whole, before]
  · rw [counted]
    simp only [laid.bytes, List.length_append]
  · exact streamed.packets.trans packets
  · intro later still
    rcases laid.pending pending present with ⟨-, piece, last, suffix⟩
    have shorter : later.rest <:+ pending.rest :=
      ⟨fresh, by simpa only [remainder, still, Option.elim_some] using whole⟩
    exact ⟨streamed.pending later still, piece, last, shorter.trans suffix⟩

end Laid

section Pass

variable {codec : CodecConfig} {sent : List (Packet × Bytes)} {stream : Stream} {s : Session}
variable {supply : Supply}

theorem laid_deliver {packet : Packet} (laid : s.Laid codec sent stream) (clear : s.pending? = none)
    (supplied : supply.codec = codec) (streamable : packet.Streamable codec) :
    ∃ t supply' bytes stream',
      s.deliver supply { packet with recipients? := none } = ⟨t, supply', .ok t.pending?.isNone⟩ ∧
      supply'.codec = codec ∧ t.queue = s.queue ∧
      t.Laid codec (sent ++ [(packet, bytes)]) stream' := by
  rcases streamable with ⟨path, encodes⟩
  rcases encodes (Nonce.ofNat supply.nonces) with ⟨bytes, encoded⟩
  rcases streamed_writePacketBytes laid.transport laid.benign clear { packet with recipients? := none }
    bytes with ⟨t, written, streamed⟩
  rcases laid.concat clear encoded streamed with ⟨stream', later⟩
  -- the recipients of a packet make no difference to its encoding
  have same : supply.encodePacket { packet with recipients? := none } =
      (.ok bytes, { supply with nonces := supply.nonces + 1 }) := by
    subst supplied
    exact Prod.ext encoded rfl
  refine ⟨t, { supply with nonces := supply.nonces + 1 }, bytes, stream', ?_, supplied,
    streamed.queue, later⟩
  simp only [deliver, path, if_false, deliverPrimary, same, laid.transport, written]

theorem laid_writeQueued (budget : Nat) :
    ∀ {s : Session} {supply : Supply} {sent : List (Packet × Bytes)} {stream : Stream},
      s.Laid codec sent stream → s.pending? = none → supply.codec = codec →
      (∀ packet ∈ s.queue.packets, packet.Streamable codec) →
      ∃ t supply' pass more stream', s.writeQueued budget supply = ⟨t, supply', .ok pass⟩ ∧
        supply'.codec = codec ∧ s.queue.packets = more.map Prod.fst ++ t.queue.packets ∧
        t.Laid codec (sent ++ more) stream' := by
  induction budget with
  | zero =>
    intro s supply sent stream laid clear supplied streamable
    exact ⟨s, supply, _, [], stream, rfl, supplied, rfl, by simpa using laid⟩
  | succ budget ih =>
    intro s supply sent stream laid clear supplied streamable
    unfold writeQueued
    cases taken : s.queue.take with
    | none => exact ⟨s, supply, .drained, [], stream, rfl, supplied, rfl, by simpa using laid⟩
    | some taken' =>
      rcases taken' with ⟨packet, queue⟩
      have packets := (PacketQueue.take_eq_some.mp taken).1
      have here : packet.Streamable codec := streamable packet (by simp [packets])
      have dequeued : ({ s with queue } : Session).Laid codec sent stream := laid.of_same rfl rfl rfl
      rcases laid_deliver dequeued clear supplied here with
        ⟨t, supply', bytes, stream', delivered, supplied', kept, later⟩
      have rest : t.queue.packets = queue.packets := congrArg PacketQueue.packets kept
      simp only [delivered]
      cases unfinished : t.pending? with
      | some pending =>
        refine ⟨t, supply', .blocked, [(packet, bytes)], stream', rfl, supplied', ?_, later⟩
        simp [packets, rest]
      | none =>
        -- all of it was taken, so the rest of the budget is for the packets behind it
        have others : ∀ other ∈ t.queue.packets, other.Streamable codec := by
          intro other member
          exact streamable other (by simp [packets, ← rest, member])
        rcases ih later unfinished supplied' others with
          ⟨u, supply'', pass, more, stream'', passed, supplied'', split, atEnd⟩
        refine ⟨u, supply'', pass, (packet, bytes) :: more, stream'', passed, supplied'', ?_, ?_⟩
        · simp [packets, ← rest, split]
        · simpa using atEnd

theorem laid_writePass (laid : s.Laid codec sent stream) (budget : Nat)
    (supplied : supply.codec = codec)
    (streamable : ∀ packet ∈ s.queue.packets, packet.Streamable codec) :
    ∃ t supply' pass more stream', s.writePass budget supply = ⟨t, supply', .ok pass⟩ ∧
      supply'.codec = codec ∧ s.queue.packets = more.map Prod.fst ++ t.queue.packets ∧
      t.Laid codec (sent ++ more) stream' := by
  cases hpending : s.pending? with
  | none =>
    have resumed : s.resume = (s, .ok true) := by simp only [Session.resume, hpending]
    simp only [writePass, resumed]
    exact laid_writeQueued budget laid hpending supplied streamable
  | some pending =>
    rcases streamed_writePacketBytes (s := { s with pending? := none }) laid.transport laid.benign rfl
      pending.packet pending.rest with ⟨t, written, streamed⟩
    rcases laid.resume hpending streamed with ⟨stream', later⟩
    have resumed : s.resume = (t, .ok t.pending?.isNone) := by
      simp only [Session.resume, hpending, written]
    have kept : t.queue.packets = s.queue.packets := congrArg PacketQueue.packets streamed.queue
    simp only [writePass, resumed]
    cases unfinished : t.pending? with
    | some rest =>
      exact ⟨t, supply, .blocked, [], stream', rfl, supplied, by simp [kept], by simpa using later⟩
    | none =>
      rcases laid_writeQueued budget later unfinished supplied (by rwa [kept]) with
        ⟨u, supply', pass, more, stream'', passed, supplied', split, atEnd⟩
      exact ⟨u, supply', pass, more, stream'', passed, supplied', by rw [← kept, split], atEnd⟩

end Pass

end Session

/-! ## Whole packets -/

/-- How many of these pieces, laid one behind the other, are whole within `length` bytes. -/
def wholePieces : List Bytes → (length : Nat) → Nat
  | [], _ => 0
  | piece :: rest, length =>
    if piece.length ≤ length then wholePieces rest (length - piece.length) + 1 else 0

theorem wholePieces_append (pieces more : List Bytes) (length : Nat) :
    wholePieces (pieces ++ more) (pieces.flatten.length + length) =
      pieces.length + wholePieces more length := by
  induction pieces with
  | nil => simp
  | cons piece rest ih =>
    have fits : piece.length ≤ (piece :: rest).flatten.length + length := by
      simp only [List.flatten_cons, List.length_append]
      omega
    have left : (piece :: rest).flatten.length + length - piece.length =
        rest.flatten.length + length := by
      simp only [List.flatten_cons, List.length_append]
      omega
    simp only [List.cons_append, wholePieces, fits, if_true, left, ih, List.length_cons]
    omega

theorem Session.Laid.wholePieces_eq {codec : CodecConfig} {sent : List (Packet × Bytes)}
    {stream : Stream} {s : Session} (laid : s.Laid codec sent stream) :
    s.counters.packetsWritten = wholePieces (sent.map Prod.snd) stream.wire.length := by
  have wire := laid.wire
  have packets := laid.packets
  cases hpending : s.pending? with
  | none =>
    simp only [Session.remainder, hpending, Option.elim_none, List.append_nil] at wire
    simp only [hpending, Option.toList_none, List.length_nil, Nat.add_zero] at packets
    have all := wholePieces_append (sent.map Prod.snd) [] 0
    simp only [List.append_nil, wholePieces, List.length_map, Nat.add_zero] at all
    rw [packets, wire, all]
  | some pending =>
    simp only [Session.remainder, hpending, Option.elim_some] at wire
    simp only [hpending, Option.toList_some, List.length_singleton] at packets
    rcases laid.pending pending hpending with ⟨nonempty, piece, last, begun, whole⟩
    rcases List.getLast?_eq_some_iff.mp last with ⟨earlier, rfl⟩
    -- the wire ends where the rest of the last packet begins
    have cut : stream.wire = (earlier.map Prod.snd).flatten ++ begun := by
      have joined : stream.wire ++ pending.rest =
          ((earlier.map Prod.snd).flatten ++ begun) ++ pending.rest := by
        rw [wire, List.append_assoc, whole]
        simp
      exact List.append_cancel_right joined
    have short : ¬piece.2.length ≤ begun.length := by
      have positive := List.length_pos_iff.mpr nonempty
      rw [← whole, List.length_append]
      omega
    have counted := wholePieces_append (earlier.map Prod.snd) [piece.2] begun.length
    simp only [wholePieces, short, if_false, List.length_map, Nat.add_zero] at counted
    rw [cut, List.length_append, List.map_append, List.map_cons, List.map_nil, counted]
    simpa using packets

/-! ## Runs -/

/-- What happens to a session with a stream. -/
inductive StreamEvent where
  | enqueue (packet : Packet)
  | pass (budget : Nat)
  /-- From now on the stream behaves like this. -/
  | behave (script : List WriteOutcome)
  /-- Other sessions draw nonces and send datagrams. -/
  | elsewhere (nonces : Nat) (port : DatagramPort)

/-- The packets that a run offers to the queue. -/
def offered (events : List StreamEvent) : List Packet :=
  events.filterMap fun
    | .enqueue packet => some packet
    | _ => none

/-- A session that is written to, and the packets that its queue has accepted. -/
structure Outflow where
  session : Session
  supply : Supply
  accepted : List Packet := []

namespace Outflow

def behave (s : Session) (script : List WriteOutcome) : Session :=
  match s.transport with
  | .socket stream => { s with transport := .socket { stream with script } }
  | _ => s

def step (o : Outflow) : StreamEvent → Outflow
  | .enqueue packet =>
    match o.session.enqueue packet with
    | (s, .ok ()) => { o with session := s, accepted := o.accepted ++ [packet] }
    | (s, .error _) => { o with session := s }
  | .pass budget =>
    let pass := o.session.writePass budget o.supply
    { o with session := pass.session, supply := pass.supply }
  | .behave script => { o with session := behave o.session script }
  | .elsewhere nonces port => { o with supply := { o.supply with nonces, port } }

def run (o : Outflow) (events : List StreamEvent) : Outflow := events.foldl step o

/-- The accepted packets are taken off the queue in their order, and what was taken is written. -/
structure Conveys (codec : CodecConfig) (sent : List (Packet × Bytes)) (o : Outflow) : Prop where
  encoded : ∀ piece ∈ sent, ∃ nonce, codec.encodePacket nonce piece.1 = .ok piece.2
  accepted : o.accepted = sent.map Prod.fst ++ o.session.queue.packets
  ascending : o.accepted.Pairwise (·.id < ·.id)
  wire : o.session.wire ++ o.session.remainder = (sent.map Prod.snd).flatten
  bytes : o.session.counters.bytesWritten = o.session.wire.length
  packets : o.session.counters.packetsWritten =
    wholePieces (sent.map Prod.snd) o.session.wire.length

/-- What every event preserves. -/
structure Ongoing (codec : CodecConfig) (sent : List (Packet × Bytes)) (stream : Stream)
    (o : Outflow) : Prop where
  supplied : o.supply.codec = codec
  laid : o.session.Laid codec sent stream
  accepted : o.accepted = sent.map Prod.fst ++ o.session.queue.packets
  streamable : ∀ packet ∈ o.accepted, packet.Streamable codec

section Steps

variable {codec : CodecConfig} {sent : List (Packet × Bytes)} {stream : Stream} {o : Outflow}

theorem Ongoing.conveys (ongoing : Ongoing codec sent stream o)
    (ascending : o.accepted.Pairwise (·.id < ·.id)) : o.Conveys codec sent := by
  have wire : o.session.wire = stream.wire := by
    simp only [Session.wire, ongoing.laid.transport]
  refine ⟨ongoing.laid.encoded, ongoing.accepted, ascending, ?_, ?_, ?_⟩
  · rw [wire]
    exact ongoing.laid.wire
  · rw [wire]
    exact ongoing.laid.bytes
  · rw [wire]
    exact ongoing.laid.wholePieces_eq

theorem Ongoing.enqueue {packet : Packet} (ongoing : Ongoing codec sent stream o)
    (streamable : packet.Streamable codec) (last : ∀ other ∈ o.accepted, other.id < packet.id) :
    Ongoing codec sent stream (o.step (.enqueue packet)) ∧
      ((o.step (.enqueue packet)).accepted = o.accepted ∨
        (o.step (.enqueue packet)).accepted = o.accepted ++ [packet]) := by
  unfold step Session.enqueue
  cases active : o.session.isActive with
  | false =>
    exact ⟨⟨ongoing.supplied, ongoing.laid, ongoing.accepted, ongoing.streamable⟩, .inl rfl⟩
  | true =>
    simp only [Bool.not_true, Bool.false_eq_true, if_false]
    cases hput : o.session.queue.put packet with
    | error fault =>
      -- a refused packet is counted, which shows neither on the wire nor in what was accepted
      refine ⟨⟨ongoing.supplied, ?_, ongoing.accepted, ongoing.streamable⟩, .inl rfl⟩
      exact ⟨ongoing.laid.transport, ongoing.laid.benign, ongoing.laid.encoded, ongoing.laid.wire,
        ongoing.laid.bytes, ongoing.laid.packets, ongoing.laid.pending⟩
    | ok queue =>
      have inserted : queue.packets = o.session.queue.packets ++ [packet] := by
        have queued : ∀ other ∈ o.session.queue.packets, other.id < packet.id := by
          intro other member
          exact last other (by simp [ongoing.accepted, member])
        obtain ⟨-, -, rfl⟩ := PacketQueue.put_eq_ok.mp hput
        exact PacketQueue.insertSorted_of_last queued
      refine ⟨⟨ongoing.supplied, ongoing.laid.of_same rfl rfl rfl, ?_, ?_⟩, .inr rfl⟩
      · simp [ongoing.accepted, inserted]
      · intro other member
        rcases List.mem_append.mp member with old | new
        · exact ongoing.streamable other old
        · rwa [List.mem_singleton.mp new]

theorem Ongoing.pass (ongoing : Ongoing codec sent stream o) (budget : Nat) :
    (∃ pass, (o.session.writePass budget o.supply).result = .ok pass) ∧
      ∃ more stream', Ongoing codec (sent ++ more) stream' (o.step (.pass budget)) := by
  have queued : ∀ packet ∈ o.session.queue.packets, packet.Streamable codec := by
    intro packet member
    exact ongoing.streamable packet (by simp [ongoing.accepted, member])
  rcases Session.laid_writePass ongoing.laid budget ongoing.supplied queued with
    ⟨t, supply', pass, more, stream', passed, supplied, split, laid⟩
  simp only [step, passed]
  refine ⟨⟨pass, rfl⟩, more, stream', supplied, laid, ?_, ongoing.streamable⟩
  simp [ongoing.accepted, split]

theorem Ongoing.behave {script : List WriteOutcome} (ongoing : Ongoing codec sent stream o)
    (benign : ∀ outcome ∈ script, outcome.Benign) :
    Ongoing codec sent { stream with script } (o.step (.behave script)) := by
  have laid := ongoing.laid
  simp only [step, Outflow.behave, laid.transport]
  exact ⟨ongoing.supplied, ⟨rfl, benign, laid.encoded, laid.wire, laid.bytes, laid.packets,
    laid.pending⟩, ongoing.accepted, ongoing.streamable⟩

theorem run_ongoing {events : List StreamEvent} :
    ∀ {o : Outflow} {sent : List (Packet × Bytes)} {stream : Stream},
      Ongoing codec sent stream o →
      (∀ script, .behave script ∈ events → ∀ outcome ∈ script, outcome.Benign) →
      (o.accepted ++ offered events).Pairwise (·.id < ·.id) →
      (∀ packet ∈ offered events, packet.Streamable codec) →
      (o.run events).accepted.Pairwise (·.id < ·.id) ∧
        ∃ sent' stream', Ongoing codec sent' stream' (o.run events) := by
  induction events with
  | nil =>
    intro o sent stream ongoing _ ascending _
    refine ⟨?_, sent, stream, ongoing⟩
    simpa [offered, run] using ascending
  | cons event rest ih =>
    intro o sent stream ongoing benign ascending streamable
    have benign' : ∀ script, .behave script ∈ rest → ∀ outcome ∈ script, outcome.Benign :=
      fun script member => benign script (List.mem_cons_of_mem _ member)
    cases event with
    | enqueue packet =>
      have split : offered (.enqueue packet :: rest) = packet :: offered rest := rfl
      rw [split] at ascending streamable
      have last : ∀ other ∈ o.accepted, other.id < packet.id := by
        intro other member
        exact (List.pairwise_append.mp ascending).2.2 other member packet (by simp)
      rcases ongoing.enqueue (streamable packet (by simp)) last with ⟨next, accepted⟩
      refine ih next benign' ?_ fun other member => streamable other (by simp [member])
      rcases accepted with refused | taken
      · -- without the packet that was refused the rest still ascends
        rw [refused]
        exact ascending.sublist ((List.sublist_cons_self packet _).append_left _)
      · rw [taken, List.append_assoc]
        exact ascending
    | pass budget =>
      rcases ongoing.pass budget with ⟨-, more, stream', next⟩
      exact ih next benign' ascending streamable
    | behave script => exact ih (ongoing.behave (benign script (by simp))) benign' ascending streamable
    | elsewhere nonces port =>
      have next : Ongoing codec sent stream (o.step (.elsewhere nonces port)) :=
        ⟨ongoing.supplied, ongoing.laid, ongoing.accepted, ongoing.streamable⟩
      exact ih next benign' ascending streamable

end Steps

/--
A session with a stream that nothing was written to, and packets in ascending order that can be
encoded: at every moment the wire and the pending rest are the encodings of the packets taken so far,
the counters count the bytes and the whole packets on the wire, no pass fails, and after one that
drained the queue all that was accepted is on the wire.
-/
theorem run_conveys {s : Session} {stream : Stream} {supply : Supply} {events : List StreamEvent}
    (transport : s.transport = .socket stream)
    (unwritten : stream.wire = [] ∧ s.counters.bytesWritten = 0 ∧ s.counters.packetsWritten = 0)
    (empty : s.queue.packets = [] ∧ s.pending? = none) (benign : stream.Benign)
    (behaves : ∀ script, .behave script ∈ events → ∀ outcome ∈ script, outcome.Benign)
    (ascending : (offered events).Pairwise (·.id < ·.id))
    (streamable : ∀ packet ∈ offered events, packet.Streamable supply.codec) :
    let o := ({ session := s, supply } : Outflow).run events
    (∃ sent, o.Conveys supply.codec sent) ∧
      ∀ budget, ∃ pass, (o.session.writePass budget o.supply).result = .ok pass ∧
        (pass = .drained → ∃ sent, (o.step (.pass budget)).Conveys supply.codec sent ∧
          sent.map Prod.fst = o.accepted ∧
          (o.step (.pass budget)).session.wire = (sent.map Prod.snd).flatten) := by
  intro o
  have fresh : Ongoing supply.codec [] stream { session := s, supply } := by
    refine ⟨rfl, ⟨transport, benign, nofun, ?_, ?_, ?_, ?_⟩, by simp [empty.1], nofun⟩
    · simp [unwritten.1, Session.remainder, empty.2]
    · simp [unwritten.1, unwritten.2.1]
    · simp [unwritten.2.2, empty.2]
    · simp [empty.2]
  rcases run_ongoing fresh behaves (by simpa using ascending) streamable with
    ⟨ascending', sent, stream', ongoing⟩
  refine ⟨⟨sent, ongoing.conveys ascending'⟩, ?_⟩
  intro budget
  rcases ongoing.pass budget with ⟨⟨pass, result⟩, more, stream'', later⟩
  refine ⟨pass, result, ?_⟩
  rintro rfl
  -- a drained pass leaves nothing in the queue and nothing pending
  have left := (Session.passed_writePass o.session budget o.supply).leaves .drained result
  have conveyed := later.conveys (o := o.step (.pass budget)) ascending'
  refine ⟨sent ++ more, conveyed, ?_, ?_⟩
  · have accepted := conveyed.accepted
    rw [show (o.step (.pass budget)).session.queue.packets = [] from left.1,
      List.append_nil] at accepted
    exact accepted.symm
  · have wire := conveyed.wire
    have none : (o.step (.pass budget)).session.remainder = [] := by
      simp only [Session.remainder, show (o.step (.pass budget)).session.pending? = none from left.2,
        Option.elim_none]
    rwa [none, List.append_nil] at wire

/-- A session whose stream takes three bytes, is interrupted, and then blocks. -/
def thin : Session where
  remote? := none
  queue := ⟨4, .acceptAll, []⟩
  maxIdle := 0
  orphanAllowance := 0
  createdAt := 0
  isActive := true
  transport := .socket { script := [.takes 3, .interrupted, .blocks, .takes 1] }

/-- A second packet arrives while the rest of the first is pending. -/
def trickle : List StreamEvent :=
  [.enqueue ⟨1, [7, 8], .normal, .tcp, false, none⟩, .pass 1,
    .enqueue ⟨2, [9], .normal, .tcp, false, none⟩]

theorem trickle_conveys :
    let o := ({ session := thin, supply := {} } : Outflow).run trickle
    o.session.wire = [1, 0, 2] ∧ o.session.remainder = [7, 8] ∧
      (∃ sent, o.Conveys ({} : Supply).codec sent) ∧
      ∃ sent, (o.step (.pass 8)).Conveys ({} : Supply).codec sent ∧
        (o.step (.pass 8)).session.wire = (sent.map Prod.snd).flatten ∧
        (o.step (.pass 8)).session.wire = [1, 0, 2, 7, 8, 1, 0, 1, 9] := by
  have benign : ∀ outcome ∈ [WriteOutcome.takes 3, .interrupted, .blocks, .takes 1],
      outcome.Benign := by
    simp [WriteOutcome.Benign]
  have behaves : ∀ script, StreamEvent.behave script ∈ trickle →
      ∀ outcome ∈ script, outcome.Benign := by
    simp [trickle]
  have streamable : ∀ packet ∈ offered trickle, packet.Streamable ({} : Supply).codec := by
    intro packet member
    simp only [offered, trickle, List.filterMap, List.mem_cons, List.not_mem_nil, or_false] at member
    rcases member with rfl | rfl
    · exact ⟨nofun, fun _ => ⟨[1, 0, 2, 7, 8], rfl⟩⟩
    · exact ⟨nofun, fun _ => ⟨[1, 0, 1, 9], rfl⟩⟩
  have conveys := run_conveys (s := thin) rfl ⟨rfl, rfl, rfl⟩ ⟨rfl, rfl⟩ benign behaves
    (by simp [offered, trickle]) streamable
  rcases conveys.2 8 with ⟨pass, result, drained⟩
  have ended : pass = .drained := (Except.ok.inj result).symm
  rcases drained ended with ⟨sent, later, -, wire⟩
  exact ⟨rfl, rfl, conveys.1, sent, later, wire, rfl⟩

end Outflow

end SessionNet
