import ReliableDatagram.Proofs.Sender.Room
import ReliableDatagram.Proofs.Sender.Tracing
import ReliableDatagram.Proofs.Table.Registration

/-!
# Sending into a queue with room

When fewer items are pending than the limit allows and the next transmission id is not in
use, a new item changes nothing but itself: it joins the pending items under this one id, and
no item is given up on (`send_of_room`).  The next id can only be in use when the ids have
started over since it was drawn (`Traced.unheld`).
-/

namespace ReliableDatagram

namespace Sender

variable {config : Config} {sender : Sender config}

/-- While the next id is not in use, a new item is filed under it alone and no other item
changes. -/
theorem record?_admitted {payload : Payload} {now : Instant} {pending : Table PendingItem}
    {displaced : Option Nat}
    (unheld : sender.pending.holder? sender.nextTransmissionId = none)
    (registered : (sender.pending.create sender.nextDataId ⟨payload, 0, now⟩ now).register
      sender.nextTransmissionId sender.pending.freshSlot = .ok (pending, displaced))
    (slot : Nat) :
    pending.record? slot =
      if slot = sender.pending.freshSlot then
        some ⟨sender.nextDataId, [sender.nextTransmissionId], now, ⟨payload, 0, now⟩⟩
      else sender.pending.record? slot := by
  have created := sender.pending.record?_create sender.nextDataId ⟨payload, 0, now⟩ now
  have found := (created sender.pending.freshSlot).trans (if_pos rfl)
  rw [← sender.pending.holder?_create sender.nextDataId ⟨payload, 0, now⟩ now] at unheld
  rw [Table.record?_register_of_unheld unheld found registered]
  split
  · rfl
  · next older => exact (created slot).trans (if_neg older)

/-- A new item takes no id from another one while the next id is not in use. -/
theorem send_of_unheld (agrees : sender.makeRoom.1.pending.Agrees) {payload : Payload}
    (fits : payload.length ≤ Capacity.payloadBytes)
    (unheld : sender.makeRoom.1.pending.holder? sender.makeRoom.1.nextTransmissionId = none)
    (now : Instant) :
    ∃ pending,
      sender.send payload now = .ok (sender.makeRoom.1.admitted payload pending,
        ⟨sender.makeRoom.1.nextDataId, [sender.makeRoom.1.nextTransmissionId], payload⟩,
        sender.makeRoom.2) ∧
      ∀ slot, pending.record? slot =
        if slot = sender.makeRoom.1.pending.freshSlot then
          some ⟨sender.makeRoom.1.nextDataId, [sender.makeRoom.1.nextTransmissionId], now,
            ⟨payload, 0, now⟩⟩
        else sender.makeRoom.1.pending.record? slot := by
  rcases sender.send_eq_ok fits now with ⟨pending, displaced, registered, accepted⟩
  refine ⟨pending, ?_, record?_admitted unheld registered⟩
  rw [accepted, (agrees.register_create registered).2.2, unheld]
  simp only [giveUpOrphan, List.append_nil]

theorem makeRoom_of_room (room : sender.pendingCount < config.queueLimit) :
    sender.makeRoom = (sender, []) := by
  have enough : sender.pendingCount + 1 - config.queueLimit = 0 := by omega
  rw [makeRoom, enough]
  rfl

theorem send_of_room (agrees : sender.pending.Agrees)
    (room : sender.pendingCount < config.queueLimit) {payload : Payload}
    (fits : payload.length ≤ Capacity.payloadBytes)
    (unheld : sender.pending.holder? sender.nextTransmissionId = none) (now : Instant) :
    ∃ pending,
      sender.send payload now = .ok (sender.admitted payload pending,
        ⟨sender.nextDataId, [sender.nextTransmissionId], payload⟩, []) ∧
      ∀ slot, pending.record? slot =
        if slot = sender.pending.freshSlot then
          some ⟨sender.nextDataId, [sender.nextTransmissionId], now, ⟨payload, 0, now⟩⟩
        else sender.pending.record? slot := by
  have same := makeRoom_of_room room
  have sent := sender.send_of_unheld (by rwa [same]) fits (by rwa [same]) now
  rwa [same] at sent

/-- Before the ids start over those to come are not in use. -/
theorem Traced.unheld_advance {items : List Item} {segments : List Segment}
    (traced : Traced sender items segments) {offset : Nat}
    (few : segments.length + offset < SeqId.space) :
    sender.pending.holder? (sender.nextTransmissionId.advance offset) = none := by
  apply traced.agrees.holder?_eq_none
  intro slot record found listed
  rcases (traced.records found).ids _ listed with ⟨index, segment, drawn, same, _⟩
  have earlier := (List.getElem?_eq_some_iff.mp drawn).1
  rw [traced.nextTransmissionId, SeqId.advance_advance] at same
  have last := SeqId.advance_injective few (by omega) same
  omega

theorem Traced.unheld {items : List Item} {segments : List Segment}
    (traced : Traced sender items segments) (few : segments.length < SeqId.space) :
    sender.pending.holder? sender.nextTransmissionId = none := by
  have next : sender.pending.holder? (sender.nextTransmissionId.advance 0) = none :=
    traced.unheld_advance few
  rwa [SeqId.advance_zero] at next

end Sender

end ReliableDatagram
