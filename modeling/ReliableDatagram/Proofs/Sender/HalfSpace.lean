import ReliableDatagram.Proofs.Sender.Acknowledging
import ReliableDatagram.Proofs.Sender.Sending

/-!
# Acknowledgments half the space behind

An acknowledgment is compared with the newest transmission, but the items it makes
the sender give up on are those before a threshold 32 ids further back.  For ids
nearly half the space ahead the two comparisons disagree: they are after the
acknowledgment and before the threshold.  The items given up on are older than the
acknowledgment exactly if no pending item lies there (`lost_isBefore_iff`).
-/

namespace ReliableDatagram

namespace Sender

variable {config : Config}

/-- Whether an id is not before an acknowledgment but before its threshold. -/
def Overhangs (ack : Acknowledgment) (id : SeqId) : Prop :=
  SeqId.halfSpace - Acknowledgment.width < ack.newest.distanceTo id ∧
    ack.newest.distanceTo id ≤ SeqId.halfSpace

/-- An id before the threshold of an acknowledgment is before the acknowledgment unless
it overhangs. -/
theorem isBefore_iff_not_overhangs {ack : Acknowledgment} {id : SeqId}
    (outdated : id.isBefore (ack.newest.retreat Acknowledgment.width)) :
    id.isBefore ack.newest ↔ ¬ Overhangs ack id := by
  have threshold := SeqId.distanceTo_trans id
    (ack.newest.retreat Acknowledgment.width) ack.newest
  have width : (ack.newest.retreat Acknowledgment.width).distanceTo ack.newest =
      Acknowledgment.width := by
    have back := SeqId.distanceTo_advance_of_lt
      (ack.newest.retreat Acknowledgment.width) (by decide : Acknowledgment.width < SeqId.space)
    rwa [SeqId.retreat_advance] at back
  have swap := SeqId.distanceTo_comm ack.newest id
  rw [SeqId.isBefore_iff] at outdated ⊢
  rw [width] at threshold
  simp only [Overhangs, SeqId.space, SeqId.halfSpace, Acknowledgment.width] at *
  omega

theorem isBefore_of_overhangs {ack : Acknowledgment} {id : SeqId}
    (overhangs : Overhangs ack id) :
    id.isBefore (ack.newest.retreat Acknowledgment.width) := by
  have threshold := SeqId.distanceTo_trans id ack.newest
    (ack.newest.retreat Acknowledgment.width)
  have width : ack.newest.distanceTo (ack.newest.retreat Acknowledgment.width) =
      SeqId.space - Acknowledgment.width := by
    rw [SeqId.retreat_eq_advance _ (by decide)]
    exact SeqId.distanceTo_advance_of_lt _ (by decide)
  have swap := SeqId.distanceTo_comm id ack.newest
  rw [SeqId.isBefore_iff]
  rw [width] at threshold
  simp only [Overhangs, SeqId.space, SeqId.halfSpace, Acknowledgment.width] at *
  omega

/-- In every state that a run reaches, the items that an acknowledgment makes the sender
give up on are those pending items of which no transmission is reported and whose latest
transmission id is before the threshold.  All of these ids are before the acknowledgment
exactly if none of them overhangs. -/
theorem lost_isBefore_iff (config : Config) (calls : List Call)
    (ack : Acknowledgment) (now : Instant) :
    ∃ (confirmed : List SendEvent) (lost : List (Nat × Record PendingItem)),
      ((reached config calls).acknowledge ack now).2 =
        confirmed ++ lost.map (fun entry => lossOf .outOfWindow entry.2) ∧
      (∀ event ∈ confirmed, event.isAcked) ∧
      (lost.map Prod.fst).Nodup ∧
      (∀ slot record, (slot, record) ∈ lost ↔
        (reached config calls).Condemns ack slot record) ∧
      ((∀ entry ∈ lost, ∃ latest, entry.2.latest? = some latest ∧
          latest.isBefore ack.newest) ↔
        ((reached config calls).Accepts ack →
          ∀ slot record latest, (reached config calls).pending.record? slot = some record →
            ¬ Reported (reportedIds ack) record → record.latest? = some latest →
            ¬ Overhangs ack latest)) := by
  rcases events_acknowledge (agrees_reached config calls) ack now with
    ⟨confirmed, lost, events, acked, distinct, condemned⟩
  refine ⟨confirmed, lost, events, acked, distinct, condemned, ?_⟩
  constructor
  · intro older accepted slot record latest found unreported newest overhangs
    have outdated := isBefore_of_overhangs overhangs
    have listed : (slot, record) ∈ lost :=
      (condemned slot record).mpr ⟨accepted, found, unreported, latest, newest, outdated⟩
    rcases older (slot, record) listed with ⟨other, same, before⟩
    cases newest.symm.trans same
    exact (isBefore_iff_not_overhangs outdated).mp before overhangs
  · intro none entry listed
    have condemns := (condemned entry.1 entry.2).mp listed
    rcases condemns.outdated with ⟨latest, newest, outdated⟩
    refine ⟨latest, newest, (isBefore_iff_not_overhangs outdated).mpr ?_⟩
    exact none condemns.accepted _ _ latest condemns.pending condemns.unreported newest

/-! ## A sender with room for one item -/

/-- The settings under which each new item takes the place of the one before. -/
def singleItem : Config := { queueLimit := 1 }

/-- The state after a number of empty items were sent. -/
def flooded (count : Nat) : Sender singleItem :=
  reached singleItem (List.replicate count (.send [] ⟨0⟩))

/-- What a number of empty items is answered with. -/
def floodOutputs (count : Nat) : List Output :=
  (Transition.run step (start singleItem) (List.replicate count (.send [] ⟨0⟩))).2

theorem flooded_succ (count : Nat) :
    flooded (count + 1) = (step (flooded count) (.send [] ⟨0⟩)).1 := by
  simp only [flooded, reached, List.replicate_succ', Transition.run_append,
    Transition.run_cons, Transition.run_nil]

theorem floodOutputs_succ (count : Nat) :
    floodOutputs (count + 1) =
      floodOutputs count ++ (step (flooded count) (.send [] ⟨0⟩)).2 := by
  simp only [floodOutputs, flooded, reached, List.replicate_succ', Transition.run_append,
    Transition.run_cons, Transition.run_nil, List.append_nil]

theorem length_floodOutputs (count : Nat) :
    (itemsSent (floodOutputs count)).length = count ∧
      (transmitted (floodOutputs count)).length = count := by
  induction count with
  | zero => exact ⟨rfl, rfl⟩
  | succ count ih =>
      have fits : ([] : Payload).length ≤ Capacity.payloadBytes := Nat.zero_le _
      rcases (flooded count).send_eq_ok fits ⟨0⟩ with ⟨pending, displaced, _, accepted⟩
      have answer : (step (flooded count) (.send [] ⟨0⟩)).2 =
          .sent ⟨(flooded count).makeRoom.1.nextDataId,
            [(flooded count).makeRoom.1.nextTransmissionId], []⟩ ::
            ((flooded count).makeRoom.2 ++
              (((flooded count).makeRoom.1.admitted [] pending).giveUpOrphan displaced).2).map
                .resolved := by
        simp only [step, accepted]
      rw [floodOutputs_succ, itemsSent_append, transmitted_append, List.length_append,
        List.length_append, ih.1, ih.2, answer]
      simp only [itemsSent, transmitted, List.filterMap_cons, Output.sent?, Output.segment?,
        filterMap_sent?_resolved, filterMap_segment?_resolved, List.map_cons, List.map_nil,
        List.length_singleton, and_self]

/-- Room is made by giving up on all that is pending. -/
theorem record?_makeRoom (sender : Sender singleItem) (slot : Nat) :
    sender.makeRoom.1.pending.record? slot = none :=
  Table.record?_of_size_eq_zero
    (Nat.lt_one_iff.mp (sender.pendingCount_makeRoom_lt Nat.one_pos)) slot

theorem traced_makeRoom_flooded (count : Nat) :
    Traced (flooded count).makeRoom.1 (itemsSent (floodOutputs count))
      (transmitted (floodOutputs count)) := by
  have room : singleItem.retransmitLimit < Capacity.keysPerRecord := by decide
  have traced := (traced_reached room (List.replicate count (.send [] ⟨0⟩))).performs room
    (makeRoom_performs (flooded count))
  rw [itemsSent_resolved, transmitted_resolved, List.append_nil, List.append_nil] at traced
  exact traced

theorem record?_flooded (count : Nat) :
    ∃ slot, ∀ other,
      (flooded (count + 1)).pending.record? other =
        if other = slot then
          some ⟨(SeqId.ofNat 0).advance count, [(SeqId.ofNat 0).advance count], ⟨0⟩,
            ⟨[], 0, ⟨0⟩⟩⟩
        else none := by
  have fits : ([] : Payload).length ≤ Capacity.payloadBytes := Nat.zero_le _
  have traced := traced_makeRoom_flooded count
  have dataId := traced.nextDataId
  have transmissionId := traced.nextTransmissionId
  rw [(length_floodOutputs count).1] at dataId
  rw [(length_floodOutputs count).2] at transmissionId
  have unheld : (flooded count).makeRoom.1.pending.holder?
      (flooded count).makeRoom.1.nextTransmissionId = none := by
    apply traced.agrees.holder?_eq_none
    intro slot record found
    rw [record?_makeRoom] at found
    cases found
  rcases send_of_unheld traced.agrees fits unheld ⟨0⟩ with ⟨pending, accepted, records⟩
  refine ⟨(flooded count).makeRoom.1.pending.freshSlot, fun other => ?_⟩
  have state : (flooded (count + 1)).pending = pending := by
    rw [flooded_succ]
    simp only [step, accepted, admitted]
  rw [state, records, record?_makeRoom, dataId, transmissionId]
  rfl

theorem nextTransmissionId_flooded (count : Nat) :
    (flooded count).nextTransmissionId = (SeqId.ofNat 0).advance count := by
  have room : singleItem.retransmitLimit < Capacity.keysPerRecord := by decide
  have traced := traced_reached room (List.replicate count (.send [] ⟨0⟩))
  have counted := (length_floodOutputs count).2
  have next := traced.nextTransmissionId
  rw [floodOutputs] at counted
  rwa [counted] at next

/-- After 32737 items a report that nothing has arrived makes the sender give up on the
newest of them, although its transmission id is after the reported one. -/
theorem newest_lost_to_silence :
    singleItem.Valid ∧
      SendEvent.unacked (.ofNat 32736) [] .outOfWindow ∈
        ((flooded 32737).acknowledge ⟨(SeqId.ofNat 0).previous, 0#32⟩ ⟨0⟩).2 ∧
      (∃ slot record, (flooded 32737).pending.record? slot = some record) ∧
      (∀ slot record, (flooded 32737).pending.record? slot = some record →
        record.primary = .ofNat 32736 ∧ record.latest? = some (.ofNat 32736)) ∧
      (SeqId.ofNat 0).previous.isBefore (.ofNat 32736) ∧
      ¬ (SeqId.ofNat 32736).isBefore (SeqId.ofNat 0).previous := by
  rcases record?_flooded 32736 with ⟨slot, only⟩
  have here := only slot
  rw [if_pos rfl] at here
  refine ⟨Config.fault?_eq_none_iff.mp (by decide), ?_, ⟨slot, _, here⟩, ?_, by decide,
    by decide⟩
  · rcases events_acknowledge
        (agrees_reached singleItem (List.replicate 32737 (.send [] ⟨0⟩)))
        ⟨(SeqId.ofNat 0).previous, 0#32⟩ ⟨0⟩ with ⟨confirmed, lost, events, _, _, condemned⟩
    have condemns : (flooded 32737).Condemns ⟨(SeqId.ofNat 0).previous, 0#32⟩ slot
        ⟨(SeqId.ofNat 0).advance 32736, [(SeqId.ofNat 0).advance 32736], ⟨0⟩,
          ⟨[], 0, ⟨0⟩⟩⟩ := by
      refine ⟨?_, here, ?_, (SeqId.ofNat 0).advance 32736, rfl, by decide⟩
      · rw [Accepts, nextTransmissionId_flooded]
        decide
      · unfold Reported
        decide
    have listed := (condemned slot _).mpr condemns
    have announced := List.mem_map_of_mem (f := fun entry => lossOf .outOfWindow entry.2) listed
    rw [flooded, events]
    exact List.mem_append_right _ announced
  · intro other record found
    rw [only other] at found
    split at found
    · cases found
      exact ⟨by decide, by decide⟩
    · cases found

end Sender

end ReliableDatagram
