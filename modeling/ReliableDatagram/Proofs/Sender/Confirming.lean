import ReliableDatagram.Proofs.Sender.Acknowledging
import ReliableDatagram.Proofs.Sender.Tracing

/-!
# Where confirmations come from

Only an acknowledgment confirms items, never `send` or `retransmit`.  The item that it
confirms is pending, and one of its transmission ids is reported
(`pending_of_acked`).
-/

namespace ReliableDatagram

namespace Sender

variable {config : Config} {sender : Sender config}

/-! ## Giving up confirms nothing -/

theorem not_isAcked_of_mem_giveUp {reason : GiveUpReason} {slot : Nat} {event : SendEvent}
    (member : event ∈ (giveUp reason sender slot).2) : ¬ event.isAcked := by
  cases found : sender.pending.record? slot with
  | none =>
      rw [giveUp_of_vacant found] at member
      cases member
  | some record =>
      rw [giveUp_of_found found] at member
      rw [List.mem_singleton.mp member]
      exact Bool.false_ne_true

theorem not_isAcked_of_mem_giveUpOrphan {displaced : Option Nat} {event : SendEvent}
    (member : event ∈ (sender.giveUpOrphan displaced).2) : ¬ event.isAcked := by
  cases displaced with
  | none => cases member
  | some slot =>
      simp only [giveUpOrphan] at member
      split at member
      · exact not_isAcked_of_mem_giveUp member
      · cases member

theorem not_isAcked_of_mem_makeRoom {event : SendEvent} (member : event ∈ sender.makeRoom.2) :
    ¬ event.isAcked := by
  rcases Transition.mem_run member with ⟨other, _, evicted⟩
  unfold evictOldest at evicted
  split at evicted
  · cases evicted
  · exact not_isAcked_of_mem_giveUp evicted

theorem not_isAcked_of_mem_send {payload : Payload} {now : Instant} {after : Sender config}
    {segment : Segment} {events : List SendEvent}
    (accepted : sender.send payload now = .ok (after, segment, events)) {event : SendEvent}
    (member : event ∈ events) : ¬ event.isAcked := by
  have fits := send_isOk_iff.mp ⟨_, accepted⟩
  rcases sender.send_eq_ok fits now with ⟨pending, displaced, _, equal⟩
  rw [accepted] at equal
  simp only [Except.ok.injEq, Prod.mk.injEq] at equal
  rcases equal with ⟨_, _, rfl⟩
  rcases List.mem_append.mp member with evicted | orphaned
  · exact not_isAcked_of_mem_makeRoom evicted
  · exact not_isAcked_of_mem_giveUpOrphan orphaned

theorem mem_of_inr_mem_map {events : List SendEvent} {event : SendEvent}
    (member : (Sum.inr event : Segment ⊕ SendEvent) ∈ events.map Sum.inr) :
    event ∈ events := by
  rcases List.mem_map.mp member with ⟨other, listed, same⟩
  rwa [← Sum.inr.inj same]

theorem not_isAcked_of_mem_sendAgain {now : Instant} {slot : Nat} {event : SendEvent}
    (member : Sum.inr event ∈ (sendAgain now sender slot).2) : ¬ event.isAcked := by
  simp only [sendAgain] at member
  split at member
  · exact not_isAcked_of_mem_giveUp (mem_of_inr_mem_map member)
  · split at member
    · exact not_isAcked_of_mem_giveUpOrphan (mem_of_inr_mem_map member)
    · rcases List.mem_append.mp member with orphaned | segment
      · exact not_isAcked_of_mem_giveUpOrphan (mem_of_inr_mem_map orphaned)
      · cases List.mem_singleton.mp segment

theorem not_isAcked_of_mem_revisit {timeout : Duration} {now : Instant} {slot : Nat}
    {event : SendEvent} (member : Sum.inr event ∈ (revisit timeout now sender slot).2) :
    ¬ event.isAcked := by
  simp only [revisit] at member
  split at member
  · cases member
  split at member
  · exact not_isAcked_of_mem_giveUp (mem_of_inr_mem_map member)
  split at member
  · cases member
  split at member
  · exact not_isAcked_of_mem_giveUp (mem_of_inr_mem_map member)
  · exact not_isAcked_of_mem_sendAgain member

theorem not_isAcked_of_mem_retransmit {now : Instant} {event : SendEvent}
    (member : event ∈ (sender.retransmit now).2.2) : ¬ event.isAcked := by
  rcases List.mem_filterMap.mp member with ⟨output, listed, same⟩
  rcases Transition.mem_run listed with ⟨other, slot, here⟩
  rw [Sum.getRight?_eq_some_iff.mp same] at here
  exact not_isAcked_of_mem_revisit here

/-! ## Confirmation -/

/-- What is confirmed by a list of ids was pending under one of them. -/
theorem pending_of_acked_of_confirm (agrees : sender.pending.Agrees) {now : Instant}
    {ids : List SeqId} {dataId : SeqId} {payload : Payload}
    (member : .acked dataId payload ∈ (Transition.run (confirm now) sender ids).2) :
    ∃ slot record, sender.pending.record? slot = some record ∧
      itemOf record = (dataId, payload) ∧ Reported ids record := by
  induction ids generalizing sender with
  | nil => cases member
  | cons id rest ih =>
      rw [Transition.run_cons] at member
      rcases List.mem_append.mp member with first | later
      · cases holder : sender.pending.holder? id with
        | none => simp [confirm, holder] at first
        | some slot =>
            rcases agrees.holder?_eq_some_iff.mp holder with ⟨record, found, listed⟩
            rw [outputs_confirm holder found] at first
            have same := List.mem_singleton.mp first
            simp only [SendEvent.acked.injEq] at same
            refine ⟨slot, record, found, ?_, id, List.mem_cons_self, listed⟩
            exact Prod.ext same.1.symm same.2.symm
      · rcases ih (agrees_confirm agrees now id) later with
          ⟨slot, record, found, item, other, reported, listed⟩
        have before := ((record?_confirm agrees now id).mp found).1
        exact ⟨slot, record, before, item, other, List.mem_cons_of_mem _ reported, listed⟩

/-- An item that an acknowledgment confirms is pending, and one of its transmissions is
reported. -/
theorem pending_of_acked (agrees : sender.pending.Agrees) {ack : Acknowledgment}
    {now : Instant} {dataId : SeqId} {payload : Payload}
    (member : .acked dataId payload ∈ (sender.acknowledge ack now).2) :
    ∃ slot record, sender.pending.record? slot = some record ∧
      itemOf record = (dataId, payload) ∧ Reported (reportedIds ack) record := by
  unfold acknowledge at member
  split at member
  · rcases List.mem_append.mp member with confirmed | lost
    · exact pending_of_acked_of_confirm agrees confirmed
    · rcases Transition.mem_run lost with ⟨other, slot, given⟩
      exact absurd rfl (not_isAcked_of_mem_giveUp given)
  · cases member

end Sender

end ReliableDatagram
