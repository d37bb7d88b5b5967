import ReliableDatagram.Proofs.Peer.Operations
import ReliableDatagram.Proofs.Peer.Runs
import ReliableDatagram.Proofs.Receiver.Consecutive
import ReliableDatagram.Proofs.Sender.Batches

/-!
# Rounds over a perfect network

In a round one peer sends some items and flushes, all its datagrams arrive in order, the
other peer flushes, and all its datagrams arrive in order (`exchange`).  When an
acknowledgment can describe all items of a round, and the queue has room for them, each
round leaves nothing behind: what was sent has been delivered, announced and confirmed once
(`settled_after_rounds`).

The number of rounds is not bounded, so both kinds of ids start over again and again, and no
clock has to move forward.
-/

namespace ReliableDatagram

namespace PeerEvent

/-- The item of an event of the delivery in order. -/
def ordered? : PeerEvent Payload → Option Delivery
  | ordered dataId item => some ⟨dataId, item⟩
  | unordered _ _ => none
  | acked _ _ => none
  | unacked _ _ _ => none

/-- The item that an event announces on arrival. -/
def unordered? : PeerEvent Payload → Option Delivery
  | ordered _ _ => none
  | unordered dataId item => some ⟨dataId, item⟩
  | acked _ _ => none
  | unacked _ _ _ => none

/-- The event that confirms an item. -/
def confirming (item : Delivery) : PeerEvent Payload := .acked item.dataId item.payload

end PeerEvent

namespace Peer

variable {config : Config}

/-! ## Rounds -/

/-- What is sent in a round, and what the clocks show. -/
structure Round where
  /-- The items, each with the time at which it is sent. -/
  items : List (Payload × Instant)
  /-- The time at which each of the datagrams arrives on the other side. -/
  there : Nat → Instant
  /-- The time at which each of the answers arrives. -/
  here : Nat → Instant

/-- What a round sends, without the times. -/
def Round.payloads (round : Round) : List Payload := round.items.map Prod.fst

/-- Send items one after the other. -/
def sendAll (peer : Peer config .raw) :
    List (Payload × Instant) → Except PeerError (Peer config .raw)
  | [] => .ok peer
  | (item, now) :: rest =>
      match peer.send item now with
      | .error error => .error error
      | .ok (after, _) => after.sendAll rest

/-- Flush over a link that takes everything.  The answer holds the datagrams. -/
def flushAll (peer : Peer config .raw) : Except PeerError (Peer config .raw × List Datagram) :=
  match peer.flush {} with
  | (_, _, .error error) => .error error
  | (after, link, .ok _) => .ok (after, link.accepted)

/-- Take in datagrams one after the other. -/
def receiveAll (peer : Peer config .raw) (clock : Nat → Instant) :
    List Datagram → Except PeerError (Peer config .raw)
  | [] => .ok peer
  | datagram :: rest =>
      match peer.receive datagram (clock 0) with
      | (_, .error error) => .error error
      | (after, .ok _) => after.receiveAll (fun count => clock (count + 1)) rest

/-- A round of the near and the far end of a connection.  It fails when any part of it
does. -/
def exchange (ends : Peer config .raw × Peer config .raw) (round : Round) :
    Except PeerError (Peer config .raw × Peer config .raw) := do
  let near ← ends.1.sendAll round.items
  let (near, outward) ← near.flushAll
  let far ← ends.2.receiveAll round.there outward
  let (far, homeward) ← far.flushAll
  let near ← near.receiveAll round.here homeward
  return (near, far)

/-! ## Sending -/

/-- A peer takes on a batch of items without giving up on any. -/
theorem sendAll_eq (valid : config.Valid) {position count : Nat} {peer : Peer config .raw}
    (batch : peer.sender.Batch position count) {items : List (Payload × Instant)}
    (room : count + items.length ≤ config.queueLimit)
    (fits : ∀ entry ∈ items, entry.1.length ≤ Capacity.payloadBytes) :
    ∃ sender : Sender config,
      peer.sendAll items = .ok { peer with
        sender
        outbox := peer.outbox ++
          Receiver.firstSegments config (position + count) (items.map Prod.fst) } ∧
      sender.Batch position (count + items.length) ∧
      sender.pendingItems = peer.sender.pendingItems +
        ↑((Receiver.itemsFrom config (position + count) (items.map Prod.fst)).map
          fun item => (item.dataId, item.payload)) := by
  induction items generalizing peer count with
  | nil =>
      refine ⟨peer.sender, ?_, batch, (add_zero _).symm⟩
      simp [sendAll, Receiver.firstSegments]
  | cons entry rest ih =>
      rcases entry with ⟨item, now⟩
      rcases List.forall_mem_cons.mp fits with ⟨first, others⟩
      rw [List.length_cons] at room
      rcases batch.send valid (by omega) first now with ⟨after, accepted, grown, pending⟩
      let next : Peer config .raw := { peer with
        sender := after
        outbox := peer.outbox ++ [⟨config.initialDataId.advance (position + count),
          [config.initialTransmissionId.advance (position + count)], item⟩] }
      have sent : peer.send item now =
          .ok (next, config.initialDataId.advance (position + count)) := by
        simp [Peer.send, PayloadCodec.raw, accepted, next]
      have larger : next.sender.Batch position (count + 1) := grown
      rcases ih larger (by omega) others with ⟨sender, rest, whole, items⟩
      refine ⟨sender, ?_, ?_, ?_⟩
      · rw [sendAll, sent]
        simp only [rest, next, List.map_cons, Receiver.firstSegments, List.append_assoc,
          List.singleton_append, Nat.add_assoc]
      · rwa [List.length_cons, Nat.add_comm _ 1, ← Nat.add_assoc]
      · have before : next.sender.pendingItems = _ := pending
        rw [items, before, add_assoc]
        rfl

theorem flushAll_eq (valid : config.Valid) {peer : Peer config .raw}
    (bounded : ∀ segment ∈ peer.outbox, segment.InBounds) :
    peer.flushAll = .ok
      ({ peer with
          outbox := []
          receiver := if peer.datagramsDue = 0 then peer.receiver else peer.receiver.ackSent },
        (peer.framesDue peer.datagramsDue).map WireUnit.encode) := by
  simp only [flushAll, flush_eq valid bounded, Link.refusal?_nil, Link.after, List.nil_append]

/-! ## Receiving -/

theorem inBounds_ackOnly (ack : Acknowledgment) : (WireUnit.ackOnly ack).InBounds :=
  ⟨Nat.zero_le _, List.forall_mem_nil _⟩

theorem receive_eq_of_decode (peer : Peer config .raw) {datagram : Datagram} {unit : WireUnit}
    (decoded : WireUnit.decode datagram = .ok unit) (now : Instant) :
    ∃ count, peer.receive datagram now = ((peer.receive datagram now).1, .ok count) := by
  simp only [receive, Receiver.ingestDatagram, decoded]
  exact ⟨_, rfl⟩

theorem filterMap_ofReceiveEvent (announced delivered : List Delivery) :
    (announced.map ReceiveEvent.unordered ++ delivered.map ReceiveEvent.ordered).filterMap
        (ofReceiveEvent .raw) =
      announced.map (fun item => .unordered item.dataId item.payload) ++
        delivered.map (fun item => .ordered item.dataId item.payload) := by
  have announces : ∀ item : Delivery, ofReceiveEvent .raw (.unordered item) =
      some (.unordered item.dataId item.payload) := fun _ => rfl
  have delivers : ∀ item : Delivery, ofReceiveEvent .raw (.ordered item) =
      some (.ordered item.dataId item.payload) := fun _ => rfl
  rw [List.filterMap_append, List.filterMap_map, List.filterMap_map]
  simp only [Function.comp_def, announces, delivers, List.filterMap_eq_map']

/-- What holds of the far end between two datagrams. -/
structure Listens (peer : Peer config .raw) (heard : List Payload) : Prop where
  idle : peer.sender.pendingCount = 0
  outbox : peer.outbox = []
  collects : peer.receiver.Collects heard.length []
  ordered : peer.events.filterMap PeerEvent.ordered? = Receiver.numberedItems config heard
  unordered : peer.events.filterMap PeerEvent.unordered? = Receiver.numberedItems config heard

namespace Listens

variable {peer : Peer config .raw} {heard : List Payload}

/-- A datagram with the next items is announced and delivered as a whole. -/
theorem receive (listens : peer.Listens heard) {unit : WireUnit} (inBounds : unit.InBounds)
    {payloads : List Payload} (few : payloads.length < SeqId.halfSpace)
    (carries : unit.segments = Receiver.firstSegments config heard.length payloads)
    (now : Instant) :
    (peer.receive unit.encode now).1.Listens (heard ++ payloads) := by
  rcases listens.collects.ingestUnit carries few with ⟨collects, events⟩
  rcases Sender.acknowledge_of_idle listens.idle unit.ack now with ⟨idle, none⟩
  rw [receive_of_decode peer (WireUnit.decode_encode inBounds) now, none, events,
    filterMap_ofReceiveEvent, List.filterMap_nil, List.append_nil]
  constructor
  · exact idle
  · exact listens.outbox
  · rw [List.length_append]
    exact collects
  · rw [List.filterMap_append, listens.ordered, Receiver.numberedItems_append]
    simp [List.filterMap_map, Function.comp_def, PeerEvent.ordered?]
  · rw [List.filterMap_append, listens.unordered, Receiver.numberedItems_append]
    simp [List.filterMap_map, Function.comp_def, PeerEvent.unordered?]

/-- However the items of a round are framed, all of them are taken in. -/
theorem receiveAll (listens : peer.Listens heard) {units : List WireUnit}
    (inBounds : ∀ unit ∈ units, unit.InBounds) {payloads : List Payload}
    (few : payloads.length < SeqId.halfSpace)
    (carry : Receiver.firstSegments config heard.length payloads = units.flatMap (·.segments))
    (clock : Nat → Instant) :
    ∃ after : Peer config .raw,
      peer.receiveAll clock (units.map WireUnit.encode) = .ok after ∧
      after.Listens (heard ++ payloads) ∧
      after.receiver.transmissions = Receiver.noteAll peer.receiver.transmissions
        ((units.flatMap (·.segments)).flatMap Segment.transmissionIds) ∧
      after.receiver.ackDue = (peer.receiver.ackDue ||
        (units.flatMap (·.segments)).any fun segment => !segment.transmissionIds.isEmpty) := by
  induction units generalizing peer heard payloads clock with
  | nil =>
      have none : payloads = [] := by
        apply List.length_eq_zero_iff.mp
        rw [← Receiver.length_firstSegments config heard.length, carry]
        rfl
      rw [none, List.append_nil]
      exact ⟨peer, rfl, listens, rfl, (Bool.or_false _).symm⟩
  | cons unit rest ih =>
      rcases List.forall_mem_cons.mp inBounds with ⟨first, others⟩
      rw [List.flatMap_cons] at carry
      rcases Receiver.firstSegments_eq_append carry with ⟨front, back, rfl, here, later⟩
      rw [List.length_append] at few
      have decoded := WireUnit.decode_encode first
      have reached := listens.receive first (by omega) here (clock 0)
      rcases peer.receive_eq_of_decode decoded (clock 0) with ⟨count, taken⟩
      have state := receive_of_decode peer decoded (clock 0)
      rw [← List.length_append] at later
      rcases ih reached others (by omega) later.symm fun count => clock (count + 1) with
        ⟨after, received, final, transmissions, ackDue⟩
      refine ⟨after, ?_, ?_, ?_, ?_⟩
      · rw [List.map_cons, Peer.receiveAll, taken]
        exact received
      · rwa [← List.append_assoc]
      · rw [transmissions, state, List.flatMap_cons, List.flatMap_append,
          Receiver.noteAll_append, Receiver.transmissions_ingestUnit]
      · rw [ackDue, state, Receiver.ackDue_ingestUnit, List.flatMap_cons, List.any_append,
          Bool.or_assoc]

/-- The far end replies with a bare acknowledgment, if anything has arrived. -/
theorem flushAll (listens : peer.Listens heard) (valid : config.Valid) :
    peer.flushAll = .ok ({ peer with receiver := peer.receiver.ackSent },
      if peer.receiver.ackDue then
        [(WireUnit.ackOnly peer.receiver.acknowledgment).encode]
      else []) := by
  have vacant := listens.outbox
  have bounded : ∀ segment ∈ peer.outbox, segment.InBounds := by
    rw [vacant]
    exact List.forall_mem_nil _
  have due : peer.datagramsDue = if peer.receiver.ackDue then 1 else 0 := by
    rw [datagramsDue, vacant]
    rfl
  rcases peer with ⟨sender, receiver, outbox, events⟩
  cases vacant
  rw [flushAll_eq valid bounded, due]
  cases owed : receiver.ackDue with
  | true => simp [framesDue, frames, WireUnit.ackOnly]
  | false => simp [framesDue, frames, Receiver.ackSent_of_settled owed]

end Listens

/-! ## The near end -/

theorem filterMap_ofSendEvent (items : List Sender.Item) :
    (items.map fun item => SendEvent.acked item.1 item.2).filterMap (ofSendEvent .raw) =
      items.map fun item => .acked item.1 item.2 := by
  have confirms : ∀ item : Sender.Item, ofSendEvent .raw (.acked item.1 item.2) =
      some (.acked item.1 item.2) := fun _ => rfl
  rw [List.filterMap_map]
  simp only [Function.comp_def, confirms, List.filterMap_eq_map']

/-- What holds of the near end when all that it sent has left, and all but the last items
were confirmed. -/
structure Speaks (peer : Peer config .raw) (sent inFlight : List Payload) : Prop where
  batch : peer.sender.Batch sent.length inFlight.length
  pending : peer.sender.pendingItems = ↑((Receiver.itemsFrom config sent.length inFlight).map
    fun item => (item.dataId, item.payload))
  outbox : peer.outbox = []
  collects : peer.receiver.Collects 0 []
  settled : peer.receiver.ackDue = false
  events : peer.events.Perm ((Receiver.numberedItems config sent).map PeerEvent.confirming)

theorem speaks_initial (config : Config) : (initial config .raw).Speaks [] [] where
  batch := Sender.Batch.start config
  pending := Multiset.card_eq_zero.mp (Sender.card_pendingItems _)
  outbox := rfl
  collects := Receiver.Collects.start config
  settled := rfl
  events := List.Perm.refl _

namespace Speaks

variable {peer : Peer config .raw} {sent : List Payload}

theorem sendAll (speaks : peer.Speaks sent []) (valid : config.Valid)
    {items : List (Payload × Instant)} (room : items.length ≤ config.queueLimit)
    (fits : ∀ entry ∈ items, entry.1.length ≤ Capacity.payloadBytes) :
    ∃ (queued after : Peer config .raw) (units : List WireUnit),
      peer.sendAll items = .ok queued ∧
      queued.flushAll = .ok (after, units.map WireUnit.encode) ∧
      after.Speaks sent (items.map Prod.fst) ∧
      (∀ unit ∈ units, unit.InBounds) ∧
      Receiver.firstSegments config sent.length (items.map Prod.fst) =
        units.flatMap (·.segments) := by
  rcases sendAll_eq valid speaks.batch (by rwa [List.length_nil, Nat.zero_add]) fits with
    ⟨sender, taken, batch, pending⟩
  rw [List.length_nil, Nat.add_zero] at taken pending
  rw [speaks.outbox, List.nil_append] at taken
  rw [List.length_nil, Nat.zero_add] at batch
  let queued : Peer config .raw := { peer with
    sender
    outbox := Receiver.firstSegments config sent.length (items.map Prod.fst) }
  have bounded : ∀ segment ∈ queued.outbox, segment.InBounds := by
    apply Receiver.inBounds_of_mem_firstSegments
    intro payload member
    rcases List.mem_map.mp member with ⟨entry, listed, rfl⟩
    exact fits entry listed
  refine ⟨queued, _, queued.framesDue queued.datagramsDue, taken, flushAll_eq valid bounded,
    ⟨?_, ?_, rfl, ?_, ?_, speaks.events⟩,
    fun unit member => inBounds_of_mem_framesDue valid bounded member,
    (flatMap_framesDue valid queued).symm⟩
  · rwa [List.length_map]
  · rw [pending, speaks.pending]
    exact zero_add _
  · rw [Receiver.ackSent_of_settled speaks.settled, ite_self]
    exact speaks.collects
  · rw [Receiver.ackSent_of_settled speaks.settled, ite_self]
    exact speaks.settled

/-- The acknowledgment of all that is in flight confirms it. -/
theorem receive {inFlight : List Payload} (speaks : peer.Speaks sent inFlight)
    (valid : config.Valid) {ack : Acknowledgment}
    (last : ack.newest =
      (config.initialTransmissionId.advance (sent.length + inFlight.length)).previous)
    (reported : ∀ index < inFlight.length,
      config.initialTransmissionId.advance (sent.length + index) ∈ Sender.reportedIds ack)
    (now : Instant) :
    (peer.receive (WireUnit.ackOnly ack).encode now).1.Speaks (sent ++ inFlight) [] := by
  have carries : (WireUnit.ackOnly ack).segments = Receiver.firstSegments config 0 [] := rfl
  rcases speaks.collects.ingestUnit carries (by decide) with ⟨collects, none⟩
  rw [← speaks.batch.nextTransmissionId] at last
  rcases speaks.batch.acknowledge valid last reported now with
    ⟨batch, items, pending, confirmed⟩
  have idle : (peer.sender.acknowledge ack now).1.pendingItems = 0 :=
    Multiset.card_eq_zero.mp ((Sender.card_pendingItems _).trans
      (Nat.le_zero.mp batch.pendingCount_le))
  change (peer.sender.acknowledge (WireUnit.ackOnly ack).ack now).2 = _ at confirmed
  rw [receive_of_decode peer (WireUnit.decode_encode (inBounds_ackOnly ack)) now, none,
    confirmed, filterMap_ofSendEvent]
  constructor
  · rwa [List.length_append]
  · exact idle
  · exact speaks.outbox
  · exact collects
  · rw [Receiver.ackDue_ingestUnit, speaks.settled]
    rfl
  · have listed : items.Perm ((Receiver.itemsFrom config sent.length inFlight).map
        fun item => (item.dataId, item.payload)) :=
      Multiset.coe_eq_coe.mp (pending.trans speaks.pending)
    have confirms := listed.map fun item : Sender.Item =>
      (PeerEvent.acked item.1 item.2 : PeerEvent Payload)
    rw [List.map_map] at confirms
    rw [Receiver.numberedItems_append, List.map_append]
    exact speaks.events.append confirms

/-- The answer to a batch, which is empty if the batch is, confirms all of it. -/
theorem receiveAll {inFlight : List Payload} (speaks : peer.Speaks sent inFlight)
    (valid : config.Valid) {ack : Acknowledgment}
    (reports : inFlight ≠ [] →
      ack.newest =
        (config.initialTransmissionId.advance (sent.length + inFlight.length)).previous ∧
      ∀ index < inFlight.length,
        config.initialTransmissionId.advance (sent.length + index) ∈ Sender.reportedIds ack)
    (clock : Nat → Instant) :
    ∃ after : Peer config .raw,
      peer.receiveAll clock
        (if inFlight.isEmpty then [] else [(WireUnit.ackOnly ack).encode]) = .ok after ∧
      after.Speaks (sent ++ inFlight) [] := by
  cases inFlight with
  | nil =>
      rw [List.append_nil]
      exact ⟨peer, rfl, speaks⟩
  | cons payload rest =>
      rcases reports (List.cons_ne_nil _ _) with ⟨last, reported⟩
      have bare := WireUnit.decode_encode (inBounds_ackOnly ack)
      rcases peer.receive_eq_of_decode bare (clock 0) with ⟨count, returned⟩
      refine ⟨_, ?_, speaks.receive valid last reported (clock 0)⟩
      rw [List.isEmpty_cons, if_neg Bool.false_ne_true, Peer.receiveAll, returned]
      rfl

end Speaks

/-! ## Between rounds -/

/-- What holds of the far end between two rounds. -/
structure Rests (peer : Peer config .raw) (heard : List Payload) : Prop extends
    Listens peer heard where
  settled : peer.receiver.ackDue = false
  /-- The newest transmission that arrived is the last one. -/
  newest : ∀ window, peer.receiver.transmissions = some window →
    window.anchor = (config.initialTransmissionId.advance heard.length).previous

theorem rests_initial (config : Config) : (initial config .raw).Rests [] where
  idle := rfl
  outbox := rfl
  collects := Receiver.Collects.start config
  ordered := rfl
  unordered := rfl
  settled := rfl
  newest _ none := nomatch none

/-- The far end takes in the items of a round.  If there are any, it replies with an
acknowledgment that reports all of them. -/
theorem Rests.answer {peer : Peer config .raw} {heard : List Payload} (rests : peer.Rests heard)
    (valid : config.Valid) {units : List WireUnit} (inBounds : ∀ unit ∈ units, unit.InBounds)
    {payloads : List Payload} (few : payloads.length ≤ Acknowledgment.width + 1)
    (carry : Receiver.firstSegments config heard.length payloads = units.flatMap (·.segments))
    (clock : Nat → Instant) :
    ∃ (reached after : Peer config .raw) (ack : Acknowledgment),
      peer.receiveAll clock (units.map WireUnit.encode) = .ok reached ∧
      reached.flushAll = .ok (after,
        if payloads.isEmpty then [] else [(WireUnit.ackOnly ack).encode]) ∧
      after.Rests (heard ++ payloads) ∧
      (payloads ≠ [] →
        ack.newest =
          (config.initialTransmissionId.advance (heard.length + payloads.length)).previous ∧
        ∀ index < payloads.length,
          config.initialTransmissionId.advance (heard.length + index) ∈
            Sender.reportedIds ack) := by
  have short : payloads.length < SeqId.halfSpace := by
    simp only [Acknowledgment.width, SeqId.halfSpace] at *
    omega
  rcases rests.receiveAll inBounds short carry clock with
    ⟨reached, received, listens, transmissions, ackDue⟩
  rw [← carry, Receiver.transmissionIds_firstSegments] at transmissions
  rw [← carry, rests.settled, Bool.false_or] at ackDue
  let after : Peer config .raw := { reached with receiver := reached.receiver.ackSent }
  have answered : after.Listens (heard ++ payloads) :=
    ⟨listens.idle, listens.outbox, listens.collects.congr rfl rfl rfl rfl rfl, listens.ordered,
      listens.unordered⟩
  have replies := listens.flushAll valid
  rw [ackDue] at replies
  refine ⟨reached, after, reached.receiver.acknowledgment, received, ?_⟩
  cases payloads with
  | nil =>
      refine ⟨replies, ⟨answered, rfl, ?_⟩, fun nonempty => absurd rfl nonempty⟩
      intro window noted
      rw [List.append_nil]
      exact rests.newest window (transmissions.symm.trans noted)
  | cons payload rest =>
      rcases Receiver.reported_consecutive rests.newest transmissions with ⟨newest, reported⟩
      have last : (config.initialTransmissionId.advance heard.length).advance rest.length =
          (config.initialTransmissionId.advance
            (heard.length + (payload :: rest).length)).previous := by
        rw [List.length_cons, ← Nat.add_assoc, SeqId.previous_advance, SeqId.advance_advance]
      refine ⟨replies, ⟨answered, rfl, ?_⟩, fun _ => ⟨newest.trans last, ?_⟩⟩
      · intro window noted
        have named : reached.receiver.acknowledgment.newest = window.anchor := by
          have noted : reached.receiver.transmissions = some window := noted
          rw [Receiver.acknowledgment, noted]
          rfl
        rw [← named, newest, last, List.length_append]
      · intro index inside
        rw [← SeqId.advance_advance]
        exact reported (Nat.le_of_succ_le_succ few) index (Nat.le_of_lt_succ inside)

/-! ## One round -/

/-- A round whose items an acknowledgment can describe leaves nothing behind. -/
theorem exchange_eq_ok (valid : config.Valid) {near far : Peer config .raw}
    {sent : List Payload} (speaks : near.Speaks sent []) (rests : far.Rests sent) {round : Round}
    (few : round.items.length ≤ Acknowledgment.width + 1)
    (room : round.items.length ≤ config.queueLimit)
    (fits : ∀ entry ∈ round.items, entry.1.length ≤ Capacity.payloadBytes) :
    ∃ after other : Peer config .raw,
      exchange (near, far) round = .ok (after, other) ∧
      after.Speaks (sent ++ round.payloads) [] ∧ other.Rests (sent ++ round.payloads) := by
  have described : round.payloads.length ≤ Acknowledgment.width + 1 := by
    rwa [Round.payloads, List.length_map]
  rcases speaks.sendAll valid room fits with
    ⟨queued, flushed, units, taken, outward, inFlight, inBounds, carry⟩
  rcases rests.answer valid inBounds described carry round.there with
    ⟨reached, other, ack, received, homeward, answered, reports⟩
  rcases inFlight.receiveAll valid reports round.here with ⟨after, returned, confirmed⟩
  refine ⟨after, other, ?_, confirmed, answered⟩
  simp only [exchange, taken, outward, received, homeward, bind, Except.bind]
  rw [Round.payloads, returned]
  rfl

/-! ## Any number of rounds -/

/-- What holds after rounds in which items were sent. -/
structure Settled (near far : Peer config .raw) (sent : List Payload) : Prop where
  pendingCount : near.sender.pendingCount = 0
  /-- Each item was confirmed once, and nothing else was announced. -/
  events : near.events.Perm ((Receiver.numberedItems config sent).map PeerEvent.confirming)
  ordered : far.events.filterMap PeerEvent.ordered? = Receiver.numberedItems config sent
  unordered : far.events.filterMap PeerEvent.unordered? = Receiver.numberedItems config sent
  retransmissions : near.sender.counters.retransmissions = 0
  duplicates : far.receiver.counters.duplicates = 0
  skipped : far.receiver.counters.skipped = 0

theorem settled_of_rests {near far : Peer config .raw} {sent : List Payload}
    (speaks : near.Speaks sent []) (rests : far.Rests sent) : Settled near far sent where
  pendingCount := Nat.le_zero.mp speaks.batch.pendingCount_le
  events := speaks.events
  ordered := rests.ordered
  unordered := rests.unordered
  retransmissions := speaks.batch.retransmissions
  duplicates := rests.collects.duplicates
  skipped := rests.collects.skipped

theorem foldlM_exchange_eq_ok (valid : config.Valid) {rounds : List Round}
    (few : ∀ round ∈ rounds, round.items.length ≤ Acknowledgment.width + 1)
    (room : ∀ round ∈ rounds, round.items.length ≤ config.queueLimit)
    (fits : ∀ round ∈ rounds, ∀ entry ∈ round.items, entry.1.length ≤ Capacity.payloadBytes)
    {near far : Peer config .raw} {sent : List Payload} (speaks : near.Speaks sent [])
    (rests : far.Rests sent) :
    ∃ after other : Peer config .raw,
      rounds.foldlM exchange (near, far) = .ok (after, other) ∧
      after.Speaks (sent ++ rounds.flatMap Round.payloads) [] ∧
      other.Rests (sent ++ rounds.flatMap Round.payloads) := by
  induction rounds generalizing near far sent with
  | nil =>
      rw [List.flatMap_nil, List.append_nil]
      exact ⟨near, far, rfl, speaks, rests⟩
  | cons round rest ih =>
      rcases List.forall_mem_cons.mp few with ⟨firstFew, few⟩
      rcases List.forall_mem_cons.mp room with ⟨firstRoom, room⟩
      rcases List.forall_mem_cons.mp fits with ⟨firstFits, fits⟩
      rcases exchange_eq_ok valid speaks rests firstFew firstRoom firstFits with
        ⟨middle, answering, first, speaks, rests⟩
      rcases ih few room fits speaks rests with ⟨after, other, later, speaks, rests⟩
      rw [List.append_assoc] at speaks rests
      refine ⟨after, other, ?_, speaks, rests⟩
      rw [List.foldlM_cons, first]
      exact later

/-- However many rounds there are and whatever the clocks show, no operation fails, and after
the rounds nothing is pending, each item was confirmed once and none given up on, and the
other side has announced and delivered exactly the items that were sent, in their order. -/
theorem settled_after_rounds {peer : Peer config .raw} (started : start config .raw = .ok peer)
    {rounds : List Round} (few : ∀ round ∈ rounds, round.items.length ≤ 33)
    (room : ∀ round ∈ rounds, round.items.length ≤ config.queueLimit)
    (fits : ∀ round ∈ rounds, ∀ entry ∈ round.items, entry.1.length ≤ 65535) :
    ∃ near far : Peer config .raw,
      rounds.foldlM exchange (peer, peer) = .ok (near, far) ∧
      Settled near far (rounds.flatMap Round.payloads) := by
  rcases start_eq_ok started with ⟨valid, rfl⟩
  rcases foldlM_exchange_eq_ok valid few room fits (speaks_initial config)
      (rests_initial config) with ⟨near, far, exchanged, speaks, rests⟩
  exact ⟨near, far, exchanged, settled_of_rests speaks rests⟩

/-- Settings under which delivery skips after every second item, and both kinds of ids start
over soon. -/
def hasty : Config :=
  { queueLimit := 33
    offsetLimit := 1
    initialDataId := .ofNat 65533
    initialTransmissionId := .ofNat 65500
    segmentsPerUnit := 20 }

/-- A full round, one without items and one with two of them.  The clocks stand still or run
backward. -/
def unevenRounds : List Round :=
  [⟨List.replicate 33 ([1], ⟨70⟩), fun count => ⟨50 - count⟩, fun _ => ⟨9⟩⟩,
    ⟨[], fun _ => ⟨3⟩, fun _ => ⟨3⟩⟩,
    ⟨[([], ⟨2⟩), ([2, 3], ⟨1⟩)], fun _ => ⟨0⟩, fun _ => ⟨0⟩⟩]

theorem settled_after_rounds_uneven :
    start hasty .raw = .ok (initial hasty .raw) ∧
      (∀ round ∈ unevenRounds, round.items.length ≤ 33) ∧
      (∀ round ∈ unevenRounds, round.items.length ≤ hasty.queueLimit) ∧
      (∀ round ∈ unevenRounds, ∀ entry ∈ round.items, entry.1.length ≤ 65535) ∧
      (unevenRounds.flatMap Round.payloads).length = 35 ∧
      ∃ near far : Peer hasty .raw,
        unevenRounds.foldlM exchange (initial hasty .raw, initial hasty .raw) =
          .ok (near, far) ∧
        Settled near far (unevenRounds.flatMap Round.payloads) := by
  have few : ∀ round ∈ unevenRounds, round.items.length ≤ 33 := by decide
  have room : ∀ round ∈ unevenRounds, round.items.length ≤ hasty.queueLimit := by decide
  have fits : ∀ round ∈ unevenRounds, ∀ entry ∈ round.items, entry.1.length ≤ 65535 := by
    decide
  exact ⟨rfl, few, room, fits, by decide, settled_after_rounds rfl few room fits⟩

end Peer

end ReliableDatagram
