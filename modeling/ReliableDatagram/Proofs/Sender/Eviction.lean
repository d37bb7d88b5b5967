import ReliableDatagram.Proofs.Sender.Retransmitting

/-!
# What a full queue gives up

A full queue has room for one more item once it has given up on one (`makeRoom_of_full`),
and that one has the greatest age.  While no pending item is older than all ids, ages tell the
items apart and count back from the item to come, so it is the one that was sent first among
those that are pending, whatever slots they are in (`number_lt_of_older`).

With an id that is not in use the new item then joins the others, and nothing else changes
(`send_evicts_first`).
-/

namespace ReliableDatagram

namespace Sender

variable {config : Config} {sender : Sender config}

/-! ## One item for another -/

/-- A full queue gives up on its oldest item, and on no other. -/
theorem makeRoom_of_full (full : sender.pendingCount = config.queueLimit) :
    sender.makeRoom = evictOldest sender () := by
  have one : sender.pendingCount + 1 - config.queueLimit = 1 := by omega
  rw [makeRoom, one]
  exact (Transition.run_cons evictOldest sender () []).trans
    (Prod.ext rfl (List.append_nil _))

/-- The sender takes on an item.  It goes out under the next transmission id and is pending
under this id alone, in a slot that is vacant or that of the item it gives up on.  The other
items stay as they are. -/
def TakesOn (sender : Sender config) (payload : Payload) (now : Instant) (gone : Option Nat)
    (events : List SendEvent) : Prop :=
  ∃ after place,
    sender.send payload now =
        .ok (after, ⟨sender.nextDataId, [sender.nextTransmissionId], payload⟩, events) ∧
      (sender.pending.record? place = none ∨ gone = some place) ∧
      ∀ slot, after.pending.record? slot =
        if slot = place then
          some ⟨sender.nextDataId, [sender.nextTransmissionId], now, ⟨payload, 0, now⟩⟩
        else if gone = some slot then none
        else sender.pending.record? slot

theorem takesOn_of_room (agrees : sender.pending.Agrees)
    (room : sender.pendingCount < config.queueLimit) {payload : Payload}
    (fits : payload.length ≤ Capacity.payloadBytes)
    (unheld : sender.pending.holder? sender.nextTransmissionId = none) (now : Instant) :
    sender.TakesOn payload now none [] := by
  obtain ⟨pending, sent, records⟩ := send_of_room agrees room fits unheld now
  refine ⟨sender.admitted payload pending, sender.pending.freshSlot, sent,
    .inl sender.pending.record?_freshSlot, fun slot => ?_⟩
  rw [if_neg (Option.some_ne_none slot).symm]
  exact records slot

/-- Where the queue is full, an item takes the place of the oldest one. -/
theorem takesOn_of_full (agrees : sender.pending.Agrees)
    (full : sender.pendingCount = config.queueLimit) {slot : Nat} {record : Record PendingItem}
    (oldest : sender.oldest? = some slot) (found : sender.pending.record? slot = some record)
    {payload : Payload} (fits : payload.length ≤ Capacity.payloadBytes)
    (unheld : sender.pending.holder? sender.nextTransmissionId = none) (now : Instant) :
    sender.TakesOn payload now (some slot)
      [.unacked record.primary record.value.payload .queueOverflow] := by
  have room : sender.makeRoom = giveUp .queueOverflow sender slot := by
    rw [makeRoom_of_full full, evictOldest, oldest]
  rw [giveUp_of_found found] at room
  have free : (sender.pending.remove slot).holder? sender.nextTransmissionId = none := by
    rw [Table.holder?_remove found, unheld, ite_self]
  obtain ⟨pending, sent, records⟩ := sender.send_of_unheld
    (by rw [room]; exact agrees.remove slot) fits (by rw [room]; exact free) now
  rw [room] at sent records
  refine ⟨_, (sender.pending.remove slot).freshSlot, sent, ?_, fun other => ?_⟩
  · have vacant := (sender.pending.remove slot).record?_freshSlot
    rw [Table.record?_remove] at vacant
    split at vacant
    · next same => exact .inr (congrArg some same.symm)
    · exact .inl vacant
  · refine (records other).trans ?_
    rw [Table.record?_remove]
    simp only [Option.some.injEq, eq_comm]
    rfl

/-! ## The item that was sent first -/

/-- While no pending item is older than all ids and the next transmission id is not in use, the
sender takes on every item that is not too long.  When its queue is full it gives up on the one
that was sent first of those that are pending, and else on none. -/
theorem send_evicts_first (valid : config.Valid) (calls : List Call) {payload : Payload}
    (now : Instant)
    (recent : ∀ slot record, (reached config calls).pending.record? slot = some record →
      (chronicle config calls).1.2.count <
        (chronicle config calls).1.2.number slot + SeqId.space)
    (unused : ∀ slot record, (reached config calls).pending.record? slot = some record →
      (reached config calls).nextTransmissionId ∉ record.keys)
    (fits : payload.length ≤ Capacity.payloadBytes) :
    let sender := reached config calls
    let roster := (chronicle config calls).1.2
    let items := itemsSent (Transition.run step (start config) calls).2
    roster.count = items.length ∧
      (∀ slot record, sender.pending.record? slot = some record →
        items[roster.number slot]? = some (itemOf record)) ∧
      (sender.pendingCount = config.queueLimit →
        ∃ slot record, sender.pending.record? slot = some record ∧
          (∀ other kept, sender.pending.record? other = some kept → other ≠ slot →
            roster.number slot < roster.number other) ∧
          sender.TakesOn payload now (some slot)
            [.unacked record.primary record.value.payload .queueOverflow]) ∧
      (sender.pendingCount ≠ config.queueLimit → sender.TakesOn payload now none []) := by
  intro sender roster items
  have count : roster.count = items.length := by
    rw [(recorded_chronicle valid calls).count, itemsOf_chronicle]
  have agrees : sender.pending.Agrees := agrees_reached config calls
  have unheld := agrees.holder?_eq_none unused
  refine ⟨count, fun slot record => getElem?_number valid calls, fun full => ?_,
    fun differs => ?_⟩
  · have some : 0 < sender.pendingCount := by
      rw [full]
      exact valid.queueLimit_pos
    obtain ⟨slot, oldest⟩ := Option.isSome_iff_exists.mp (oldest?_isSome some)
    obtain ⟨record, found, greatest⟩ := oldest?_eq_some oldest
    exact ⟨slot, record, found,
      fun other kept there => number_lt_of_older valid calls recent found there
        (greatest other kept there),
      takesOn_of_full agrees full oldest found fits unheld now⟩
  · have few : sender.pendingCount ≤ config.queueLimit :=
      (intact_reached valid calls).pendingCount_le
    exact takesOn_of_room agrees (Nat.lt_of_le_of_ne few differs) fits unheld now

/-- Settings that keep two items in flight. -/
def narrow : Config := { queueLimit := 2, initialDataId := .ofNat 65534 }

/-- Three items, with ids on both sides of zero.  The first is acknowledged, so that the third
takes its slot, which is before that of the second. -/
def shuffled : List Call :=
  [.send [1] ⟨1000⟩, .send [2] ⟨2000⟩, .acknowledge ⟨.ofNat 0, 0⟩ ⟨3000⟩, .send [3] ⟨4000⟩]

theorem send_evicts_first_shuffled :
    narrow.Valid ∧
      (∀ slot record, (reached narrow shuffled).pending.record? slot = some record →
        (chronicle narrow shuffled).1.2.count <
          (chronicle narrow shuffled).1.2.number slot + SeqId.space) ∧
      (∀ slot record, (reached narrow shuffled).pending.record? slot = some record →
        (reached narrow shuffled).nextTransmissionId ∉ record.keys) ∧
      ([4] : Payload).length ≤ Capacity.payloadBytes ∧
      (reached narrow shuffled).pendingCount = narrow.queueLimit ∧
      ∃ slot, (reached narrow shuffled).TakesOn [4] ⟨5000⟩ (some slot)
        [.unacked (.ofNat 65535) [2] .queueOverflow] := by
  have valid : narrow.Valid := Config.fault?_eq_none_iff.mp (by decide)
  have counted : (chronicle narrow shuffled).1.2.count < SeqId.space := by decide +kernel
  have recent : ∀ slot record, (reached narrow shuffled).pending.record? slot = some record →
      (chronicle narrow shuffled).1.2.count <
        (chronicle narrow shuffled).1.2.number slot + SeqId.space :=
    fun _ _ _ => Nat.lt_of_lt_of_le counted (Nat.le_add_left _ _)
  have unheld : (reached narrow shuffled).pending.holder?
      (reached narrow shuffled).nextTransmissionId = none := by decide +kernel
  have unused : ∀ slot record, (reached narrow shuffled).pending.record? slot = some record →
      (reached narrow shuffled).nextTransmissionId ∉ record.keys := by
    intro slot record found listed
    have held := (agrees_reached narrow shuffled).holder?_of_mem found listed
    rw [unheld] at held
    cases held
  have fits : ([4] : Payload).length ≤ Capacity.payloadBytes := by decide
  have full : (reached narrow shuffled).pendingCount = narrow.queueLimit := by decide +kernel
  obtain ⟨slot, record, _, _, takes⟩ :=
    (send_evicts_first valid shuffled ⟨5000⟩ recent unused fits).2.2.1 full
  have events : ((reached narrow shuffled).send [4] ⟨5000⟩).toOption.map (·.2.2) =
      some [.unacked (.ofNat 65535) [2] .queueOverflow] := by decide +kernel
  have same : [SendEvent.unacked record.primary record.value.payload .queueOverflow] =
      [.unacked (.ofNat 65535) [2] .queueOverflow] := by
    obtain ⟨after, place, sent, _⟩ := takes
    rw [sent] at events
    exact Option.some.inj events
  rw [same] at takes
  exact ⟨valid, recent, unused, fits, full, slot, takes⟩

end Sender

end ReliableDatagram
