import ReliableDatagram.Proofs.Sender.Keeping
import ReliableDatagram.Proofs.Sender.Reach
import ReliableDatagram.Proofs.Sender.Sending

/-!
# Batches

A batch is what a sender takes on between two moments at which nothing is pending.  While
there is room, each item of it is pending under the one transmission id that was drawn for it
(`Batch`).  An acknowledgment of all these ids resolves the batch: each item is confirmed
once, none is given up on, and nothing is left (`Batch.acknowledge`).

Only the ids of the batch itself have to be different, so it does not matter how often the
ids have started over before.
-/

namespace ReliableDatagram

namespace Sender

variable {config : Config} {sender after : Sender config}

/-! ## Counting retransmissions -/

theorem Move.retransmissions {outputs : List Output} (move : Move sender outputs after) :
    after.counters.retransmissions + (itemsSent outputs).length =
      sender.counters.retransmissions + (transmitted outputs).length := by
  cases move with
  | giveUp reason found =>
      rw [giveUp_of_found found]
      cases reason <;> rfl
  | confirm now holder found =>
      simp only [Sender.confirm, holder, found, sampleRoundTrip]
      repeat' split
      all_goals rfl
  | release holder superseded => rfl
  | takeOn fits registered => rfl
  | again now found allowed registered filed => rfl
  | forfeit found allowed refused => rfl

theorem Moves.retransmissions {outputs : List Output} (moves : Moves sender outputs after) :
    after.counters.retransmissions + (itemsSent outputs).length =
      sender.counters.retransmissions + (transmitted outputs).length := by
  induction moves with
  | none => rfl
  | next first _ ih =>
      have here := first.retransmissions
      rw [itemsSent_append, transmitted_append, List.length_append, List.length_append]
      omega

/-- Whatever is transmitted is an item sent for the first time or counts as a
retransmission. -/
theorem Performs.retransmissions {outputs : List Output}
    (performs : Performs sender outputs after) :
    after.counters.retransmissions + (itemsSent outputs).length =
      sender.counters.retransmissions + (transmitted outputs).length := by
  rcases performs with ⟨actual, moves, alike⟩
  have counted := moves.retransmissions
  rwa [itemsSent, transmitted, alike.sent, alike.segments] at counted

/-! ## Nothing pending -/

/-- Where nothing is pending, no acknowledgment has an effect on the items. -/
theorem acknowledge_of_idle (idle : sender.pendingCount = 0) (ack : Acknowledgment)
    (now : Instant) :
    (sender.acknowledge ack now).1.pendingCount = 0 ∧ (sender.acknowledge ack now).2 = [] := by
  have conserved := congrArg Multiset.card (acknowledge_performs sender ack now).conserves
  have sent : (sentItems ((sender.acknowledge ack now).2.map .resolved)).card = 0 := by
    rw [sentItems, filterMap_sent?_resolved]
    rfl
  have resolved : (resolvedItems ((sender.acknowledge ack now).2.map .resolved)).card =
      (sender.acknowledge ack now).2.length := by
    rw [resolvedItems, filterMap_event?_resolved, Multiset.coe_card, List.length_map]
  rw [Multiset.card_add, Multiset.card_add, card_pendingItems, card_pendingItems, idle, sent,
    resolved] at conserved
  exact ⟨by omega, List.length_eq_zero_iff.mp (by omega)⟩

/-! ## Items in flight -/

/-- Whether what is pending are the latest items, each of them transmitted once. -/
structure Batch (sender : Sender config) (position count : Nat) : Prop where
  traced : ∃ items segments, Traced sender items segments ∧
    items.length = position + count ∧ segments.length = position + count
  bounded : sender.Bounded
  pendingCount_le : sender.pendingCount ≤ count
  keys : ∀ {slot record}, sender.pending.record? slot = some record →
    ∃ index < count, record.keys = [config.initialTransmissionId.advance (position + index)]
  retransmissions : sender.counters.retransmissions = 0

namespace Batch

variable {position count : Nat}

theorem start (config : Config) : Batch (start config) 0 0 where
  traced := ⟨[], [], traced_start config, rfl, rfl⟩
  bounded := bounded_start config
  pendingCount_le := Nat.le_refl 0
  keys {slot record} found := by simp [Sender.start, Table.record?_empty] at found
  retransmissions := rfl

theorem agrees (batch : Batch sender position count) : sender.pending.Agrees :=
  batch.bounded.consistent.toAgrees

theorem nextDataId (batch : Batch sender position count) :
    sender.nextDataId = config.initialDataId.advance (position + count) := by
  rcases batch.traced with ⟨items, segments, traced, counted, _⟩
  rw [traced.nextDataId, counted]

theorem nextTransmissionId (batch : Batch sender position count) :
    sender.nextTransmissionId = config.initialTransmissionId.advance (position + count) := by
  rcases batch.traced with ⟨items, segments, traced, _, counted⟩
  rw [traced.nextTransmissionId, counted]

/-- The next transmission id is not in use, for the batch has fewer ids than there are. -/
theorem unheld (batch : Batch sender position count) (few : count < SeqId.space) :
    sender.pending.holder? sender.nextTransmissionId = none := by
  apply batch.agrees.holder?_eq_none
  intro slot record found listed
  rcases batch.keys found with ⟨index, earlier, keys⟩
  rw [keys, batch.nextTransmissionId, ← SeqId.advance_advance, ← SeqId.advance_advance] at listed
  have last := SeqId.advance_injective few (Nat.lt_trans earlier few)
    (List.mem_singleton.mp listed)
  exact absurd earlier (last ▸ Nat.lt_irrefl _)

theorem send (batch : Batch sender position count) (valid : config.Valid)
    (room : count < config.queueLimit) {payload : Payload}
    (fits : payload.length ≤ Capacity.payloadBytes) (now : Instant) :
    ∃ after : Sender config,
      sender.send payload now = .ok (after, ⟨config.initialDataId.advance (position + count),
        [config.initialTransmissionId.advance (position + count)], payload⟩, []) ∧
      Batch after position (count + 1) ∧
      after.pendingItems = sender.pendingItems +
        {(config.initialDataId.advance (position + count), payload)} := by
  have few : count < SeqId.space :=
    Nat.lt_trans room (Nat.lt_trans valid.queueLimit_lt (by decide))
  have vacancy := Nat.lt_of_le_of_lt batch.pendingCount_le room
  rcases send_of_room batch.agrees vacancy fits (batch.unheld few) now with
    ⟨pending, accepted, records⟩
  have performs := send_performs accepted
  rw [batch.nextDataId, batch.nextTransmissionId] at accepted
  refine ⟨_, accepted, ⟨?_, (batch.bounded.performs performs).1, ?_, ?_, ?_⟩, ?_⟩
  · rcases batch.traced with ⟨items, segments, traced, many, out⟩
    refine ⟨_, _, traced.performs valid.retransmitLimit_lt performs, ?_, ?_⟩
    · rw [itemsSent_sent, List.length_append, many]
      rfl
    · rw [transmitted_sent, List.length_append, out]
      rfl
  · have counted := performs.pendingCount_le
    rw [itemsSent_sent, List.length_singleton] at counted
    exact Nat.le_trans counted (Nat.succ_le_succ batch.pendingCount_le)
  · intro slot record found
    change pending.record? slot = some record at found
    rw [records slot] at found
    split at found
    · cases found
      exact ⟨count, Nat.lt_succ_self count, congrArg ([·]) batch.nextTransmissionId⟩
    · rcases batch.keys found with ⟨index, earlier, keys⟩
      exact ⟨index, Nat.lt_succ_of_lt earlier, keys⟩
  · have counted := performs.retransmissions
    rw [itemsSent_sent, transmitted_sent] at counted
    exact (Nat.add_right_cancel counted).trans batch.retransmissions
  · have conserved := performs.conserves
    rw [batch.nextDataId] at conserved
    exact (conserved.trans (zero_add _)).symm

theorem acknowledge (batch : Batch sender position count) (valid : config.Valid)
    {ack : Acknowledgment} (last : ack.newest = sender.nextTransmissionId.previous)
    (reported : ∀ index < count,
      config.initialTransmissionId.advance (position + index) ∈ reportedIds ack)
    (now : Instant) :
    Batch (sender.acknowledge ack now).1 (position + count) 0 ∧
      ∃ items : List Item, ↑items = sender.pendingItems ∧
        (sender.acknowledge ack now).2 = items.map fun item => .acked item.1 item.2 := by
  have accepted : sender.Accepts ack := by
    rw [Accepts, last, SeqId.isAtOrBefore_iff, SeqId.distanceTo_self]
    decide
  have performs := acknowledge_performs sender ack now
  have all : ∀ {slot record}, sender.pending.record? slot = some record →
      Reported (reportedIds ack) record := by
    intro slot record found
    rcases batch.keys found with ⟨index, inside, keys⟩
    exact ⟨_, reported index inside, keys ▸ List.mem_singleton.mpr rfl⟩
  have vacant : ∀ slot, (sender.acknowledge ack now).1.pending.record? slot = none := by
    intro slot
    cases left : (sender.acknowledge ack now).1.pending.record? slot with
    | none => rfl
    | some record =>
        rcases (record?_acknowledge batch.agrees accepted now).mp left with
          ⟨before, found, unreported, _⟩
        exact absurd (all found) unreported
  have idle : (sender.acknowledge ack now).1.pendingCount = 0 :=
    Table.size_eq_zero_of_vacant vacant
  have confirms : ∀ event ∈ (sender.acknowledge ack now).2, event.isAcked := by
    rcases events_acknowledge batch.agrees ack now with
      ⟨confirmed, lost, events, acked, _, condemned⟩
    have none : lost = [] := by
      apply List.eq_nil_iff_forall_not_mem.mpr
      intro entry member
      have condemns := (condemned entry.1 entry.2).mp member
      exact condemns.unreported (all condemns.pending)
    rw [events, none, List.map_nil, List.append_nil]
    exact acked
  constructor
  · refine ⟨?_, (batch.bounded.performs performs).1, Nat.le_of_eq idle, ?_, ?_⟩
    · rcases batch.traced with ⟨items, segments, traced, many, out⟩
      refine ⟨_, _, traced.performs valid.retransmitLimit_lt performs, ?_, ?_⟩
      · rw [itemsSent_resolved, List.append_nil, many]
        rfl
      · rw [transmitted_resolved, List.append_nil, out]
        rfl
    · intro slot record found
      rw [vacant] at found
      cases found
    · have counted := performs.retransmissions
      rw [itemsSent_resolved, transmitted_resolved] at counted
      exact counted.trans batch.retransmissions
  · refine ⟨(sender.acknowledge ack now).2.map fun event => (event.dataId, event.payload),
      ?_, ?_⟩
    · have conserved := performs.conserves
      have none : (sender.acknowledge ack now).1.pendingItems = 0 :=
        Multiset.card_eq_zero.mp ((card_pendingItems _).trans idle)
      rw [sentItems, filterMap_sent?_resolved, resolvedItems, filterMap_event?_resolved,
        none] at conserved
      simpa using conserved.symm
    · rw [List.map_map]
      refine ((List.map_congr_left ?_).trans (List.map_id _)).symm
      intro event member
      cases event with
      | acked dataId payload => rfl
      | unacked dataId payload reason => cases confirms _ member

end Batch

end Sender

end ReliableDatagram
