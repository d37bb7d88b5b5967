import ReliableDatagram.Proofs.ReceiptWindow
import ReliableDatagram.Proofs.Sender.Confirming
import ReliableDatagram.Proofs.Sender.Keeping
import ReliableDatagram.Proofs.Sender.Visiting
import ReliableDatagram.Proofs.WireUnit.Canonical

/-!
# Which pending items can still be acknowledged

An acknowledgment that reports an id of a pending item resolves the item, if it is accepted
(`acked_mem_acknowledge`).  It is accepted unless it lies half the space or more behind the
newest transmission, and it describes the ids up to `Acknowledgment.width` before its own.
So an id can be reported while it is less than `reach` behind the newest one
(`exists_report_iff`), and an item all of whose ids are farther behind stays pending until
it is given up on.

`Sound` is what the representation invariant is good for: with it in place, the calls to
come can resolve items, register ids and frame segments.
-/

namespace ReliableDatagram

namespace Sender

variable {config : Config} {sender : Sender config}

/-! ## Ids that can be reported -/

/-- How far behind the newest transmission an id cannot be reported any more. -/
def reach : Nat := SeqId.halfSpace + Acknowledgment.width

theorem exists_retreat_of_mem_reportedIds {ack : Acknowledgment} {id : SeqId}
    (reported : id ∈ reportedIds ack) :
    ∃ back, back ≤ Acknowledgment.width ∧ id = ack.newest.retreat back := by
  rcases ReceiptWindow.mem_observed_ofAcknowledgment.mp reported with ⟨back, reports, same⟩
  exact ⟨back, reports.le_width, same⟩

theorem newest_mem_reportedIds (ack : Acknowledgment) : ack.newest ∈ reportedIds ack :=
  ReceiptWindow.mem_observed_ofAcknowledgment.mpr ⟨0, .inl rfl, (SeqId.retreat_zero _).symm⟩

/-- The last bit reports the id that is `Acknowledgment.width` behind the newest one. -/
theorem mem_reportedIds_farthest (id : SeqId) :
    id ∈ reportedIds ⟨id.advance Acknowledgment.width, BitVec.twoPow 32 31⟩ := by
  have last : (BitVec.twoPow 32 31).getLsbD 31 = true := by decide
  refine ReceiptWindow.mem_observed_ofAcknowledgment.mpr
    ⟨Acknowledgment.width, .inr ⟨31, last, rfl⟩, ?_⟩
  have back := ReceiptWindow.retreat_advance_of_le id (Nat.le_refl Acknowledgment.width)
  exact (back.trans id.retreat_zero).symm

/-- An id can be reported while it is less than `reach` behind the newest one. -/
theorem exists_report_iff {id : SeqId} :
    (∃ ack, sender.Accepts ack ∧ id ∈ reportedIds ack) ↔
      id.distanceTo sender.nextTransmissionId.previous < reach := by
  simp only [Accepts, SeqId.isAtOrBefore_iff]
  constructor
  · intro condition
    rcases condition with ⟨ack, accepted, reported⟩
    rcases exists_retreat_of_mem_reportedIds reported with ⟨back, near, rfl⟩
    have way := SeqId.distanceTo_of_advance (ack.newest.retreat back)
      sender.nextTransmissionId.previous (Nat.lt_of_le_of_lt near (by decide))
    rw [SeqId.retreat_advance] at way
    rw [way]
    refine Nat.lt_of_le_of_lt (Nat.mod_le _ _) ?_
    exact Nat.add_lt_add_of_lt_of_le accepted near
  · intro within
    by_cases near : id.distanceTo sender.nextTransmissionId.previous < SeqId.halfSpace
    · exact ⟨⟨id, 0⟩, near, newest_mem_reportedIds ⟨id, 0⟩⟩
    · refine ⟨_, ?_, mem_reportedIds_farthest id⟩
      have way := SeqId.distanceTo_of_advance id sender.nextTransmissionId.previous
        (by decide : Acknowledgment.width < SeqId.space)
      have less := SeqId.distanceTo_lt (id.advance Acknowledgment.width)
        sender.nextTransmissionId.previous
      simp only [reach, Acknowledgment.width, SeqId.halfSpace, SeqId.space] at *
      omega

/-! ## Confirmation -/

/-- A pending item is confirmed by any list of ids that holds one of its own. -/
theorem acked_mem_run_confirm (agrees : sender.pending.Agrees) (now : Instant)
    {ids : List SeqId} {slot : Nat} {record : Record PendingItem}
    (found : sender.pending.record? slot = some record) (reported : Reported ids record) :
    .acked record.primary record.value.payload ∈
      (Transition.run (confirm now) sender ids).2 := by
  induction ids generalizing sender with
  | nil =>
      rcases reported with ⟨_, none, _⟩
      cases none
  | cons id rest ih =>
      rw [Transition.run_cons]
      by_cases listed : id ∈ record.keys
      · have holder := agrees.holder?_of_mem found listed
        rw [outputs_confirm holder found]
        exact List.mem_append_left _ (List.mem_singleton.mpr rfl)
      · apply List.mem_append_right
        apply ih (agrees_confirm agrees now id)
        · exact (record?_confirm agrees now id).mpr ⟨found, listed⟩
        · rcases reported with ⟨other, member, held⟩
          rcases List.mem_cons.mp member with rfl | later
          · exact absurd held listed
          · exact ⟨other, later, held⟩

/-- An accepted acknowledgment resolves each item of which it reports an id. -/
theorem acked_mem_acknowledge (agrees : sender.pending.Agrees) {ack : Acknowledgment}
    (accepted : sender.Accepts ack) (now : Instant) {slot : Nat} {record : Record PendingItem}
    (found : sender.pending.record? slot = some record)
    (reported : Reported (reportedIds ack) record) :
    .acked record.primary record.value.payload ∈ (sender.acknowledge ack now).2 ∧
      (sender.acknowledge ack now).1.pending.record? slot = none := by
  constructor
  · rw [acknowledge_of_accepts accepted]
    exact List.mem_append_left _ (acked_mem_run_confirm agrees now found reported)
  · cases left : (sender.acknowledge ack now).1.pending.record? slot with
    | none => rfl
    | some other =>
        rcases (record?_acknowledge agrees accepted now).mp left with ⟨before, there, unreported, _⟩
        rw [found] at there
        exact absurd (Option.some.inj there ▸ reported) unreported

/-! ## Between calls -/

/-- What the representation invariant of a sender is good for. -/
structure Sound (sender : Sender config) : Prop where
  intact : sender.Intact
  /-- An accepted acknowledgment resolves each item of which it reports an id. -/
  confirmed : ∀ {slot : Nat} {record : Record PendingItem} {ack : Acknowledgment} (now : Instant),
    sender.pending.record? slot = some record → sender.Accepts ack →
    Reported (reportedIds ack) record →
    .acked record.primary record.value.payload ∈ (sender.acknowledge ack now).2 ∧
      (sender.acknowledge ack now).1.pending.record? slot = none
  /-- There is such an acknowledgment while an id of the item is not too far behind. -/
  reportable_iff : ∀ {slot : Nat} {record : Record PendingItem},
    sender.pending.record? slot = some record →
    ((∃ ack, sender.Accepts ack ∧ Reported (reportedIds ack) record) ↔
      ∃ id ∈ record.keys, id.distanceTo sender.nextTransmissionId.previous < reach)
  /-- In the midst of a retransmission no item that may go out again is refused its id. -/
  registers : ∀ (now : Instant) {done rest : List Nat} {slot : Nat}
    {record : Record PendingItem}, sender.oldestFirst = done ++ slot :: rest →
    (Transition.run (revisit sender.timeout now) sender done).1.pending.record? slot =
      some record →
    record.value.retransmissions < config.retransmitLimit →
    ∃ answer, (Transition.run (revisit sender.timeout now) sender done).1.pending.register
      (Transition.run (revisit sender.timeout now) sender done).1.nextTransmissionId slot =
        .ok answer

theorem exists_reported_iff {record : Record PendingItem} :
    (∃ ack, sender.Accepts ack ∧ Reported (reportedIds ack) record) ↔
      ∃ id ∈ record.keys, id.distanceTo sender.nextTransmissionId.previous < reach := by
  constructor
  · intro condition
    rcases condition with ⟨ack, accepted, id, reported, listed⟩
    exact ⟨id, listed, exists_report_iff.mp ⟨ack, accepted, reported⟩⟩
  · intro condition
    rcases condition with ⟨id, listed, near⟩
    rcases exists_report_iff.mpr near with ⟨ack, accepted, reported⟩
    exact ⟨ack, accepted, id, reported, listed⟩

/-- In every state that a run reaches, each pending item is filed under ids of which an
acknowledgment can resolve it unless they are too far behind, and every segment that the run
answered with fits into any datagram with room for it. -/
theorem sound_reached (valid : config.Valid) (calls : List Call) :
    (reached config calls).Sound ∧
      ∀ segment ∈ transmitted (Transition.run step (start config) calls).2,
        ∀ builder : WireUnit.Builder, builder.isFull = false →
          ∃ after, builder.push segment = .ok after := by
  have room := valid.retransmitLimit_lt
  have traced := traced_reached room calls
  constructor
  · constructor
    · exact intact_reached valid calls
    · intro slot record ack now found accepted reported
      exact acked_mem_acknowledge traced.agrees accepted now found reported
    · intro slot record found
      exact exists_reported_iff
    · intro now done rest slot record _ found allowed
      have midst := traced.performs room
        (performs_run (revisit_performs (reached config calls).timeout now) _ done)
      rcases midst.register_isOk room found allowed _ with ⟨after, displaced, registered⟩
      exact ⟨(after, displaced), registered⟩
  · intro segment member builder vacancy
    have inBounds := ((bounded_start config).performs (run_performs (start config) calls)).2
      segment member
    have vacant : 0 < builder.room := by
      have few : ¬ builder.limit ≤ builder.size := of_decide_eq_false vacancy
      exact Nat.sub_pos_of_lt (Nat.lt_of_not_le few)
    exact ⟨_, WireUnit.Builder.push_eq_ok_iff.mpr ⟨vacant, inBounds, rfl⟩⟩

theorem sound_after_resending :
    ({} : Config).Valid ∧
      transmitted (Transition.run step (start {})
          [.send [7] ⟨0⟩, .retransmit ⟨2000000000⟩]).2 =
        [⟨.ofNat 0, [.ofNat 0], [7]⟩, ⟨.ofNat 0, [.ofNat 0, .ofNat 1], [7]⟩] ∧
      (reached {} [.send [7] ⟨0⟩, .retransmit ⟨2000000000⟩]).Sound ∧
      ∀ segment ∈ transmitted (Transition.run step (start {})
          [.send [7] ⟨0⟩, .retransmit ⟨2000000000⟩]).2,
        ∀ builder : WireUnit.Builder, builder.isFull = false →
          ∃ after, builder.push segment = .ok after :=
  have valid : ({} : Config).Valid := Config.fault?_eq_none_iff.mp (by decide)
  ⟨valid, by decide +kernel, sound_reached valid _⟩

/-! ## An item out of reach -/

/-- The settings under which no item goes out twice. -/
def singleTry : Config := { retransmitLimit := 0 }

/-- An item that went out when the clock was ahead. -/
def early : Record PendingItem :=
  ⟨.ofNat 0, [.ofNat 0], ⟨10000000000⟩, ⟨[1], 0, ⟨10000000000⟩⟩⟩

/-- Items that go out with the clock set back, and are given up on. -/
def burst : List Call :=
  List.replicate 1000 (.send [] ⟨0⟩) ++ [.retransmit ⟨2000000000⟩]

/-- A run in which one item outlasts a number of bursts. -/
def outlasting (bursts : Nat) : List Call :=
  .send [1] ⟨10000000000⟩ :: (List.replicate bursts burst).flatten

/-- Whether one item waits among others that went out later and are due earlier. -/
structure Outlasts (sender : Sender singleTry) (slot sent others : Nat) : Prop where
  traced : ∃ items segments, Traced sender items segments ∧ segments.length = sent
  found : sender.pending.record? slot = some early
  rest : ∀ other record, sender.pending.record? other = some record → other ≠ slot →
    record.touchedAt = ⟨0⟩ ∧ record.value.payload = []
  pendingCount_le : sender.pendingCount ≤ others + 1
  roundTrip : sender.roundTrip = RoundTrip.start

namespace Outlasts

variable {sender : Sender singleTry} {slot sent others : Nat}

theorem send (outlasts : Outlasts sender slot sent others) (few : sent < SeqId.space)
    (room : others + 1 < singleTry.queueLimit) :
    Outlasts (step sender (.send [] ⟨0⟩)).1 slot (sent + 1) (others + 1) := by
  rcases outlasts.traced with ⟨items, segments, traced, rfl⟩
  have fits : ([] : Payload).length ≤ Capacity.payloadBytes := Nat.zero_le _
  have vacancy := Nat.lt_of_le_of_lt outlasts.pendingCount_le room
  rcases send_of_room traced.agrees vacancy fits (traced.unheld few) ⟨0⟩ with
    ⟨pending, accepted, records⟩
  have performs := send_performs accepted
  have taken : slot ≠ sender.pending.freshSlot := by
    rintro rfl
    have vacant := outlasts.found
    rw [Table.record?_freshSlot] at vacant
    cases vacant
  simp only [step, accepted]
  constructor
  · refine ⟨_, _, traced.performs (by decide) performs, ?_⟩
    rw [transmitted_sent, List.length_append]
    rfl
  · exact (records slot).trans ((if_neg taken).trans outlasts.found)
  · intro other record found apart
    rw [show (sender.admitted [] pending).pending = pending from rfl, records other] at found
    split at found
    · cases found
      exact ⟨rfl, rfl⟩
    · exact outlasts.rest other record found apart
  · have counted := performs.pendingCount_le
    rw [itemsSent_sent, List.length_singleton] at counted
    exact Nat.le_trans counted (Nat.succ_le_succ outlasts.pendingCount_le)
  · exact outlasts.roundTrip

theorem sends (outlasts : Outlasts sender slot sent others) (count : Nat)
    (few : sent + count ≤ SeqId.space) (room : others + count < singleTry.queueLimit) :
    Outlasts (Transition.run step sender (List.replicate count (.send [] ⟨0⟩))).1 slot
      (sent + count) (others + count) := by
  induction count generalizing sender sent others with
  | zero => exact outlasts
  | succ count ih =>
      rw [List.replicate_succ, Transition.run_cons]
      have first := outlasts.send (by omega) (by omega)
      have later := ih first (by omega) (by omega)
      rwa [Nat.add_assoc, Nat.add_assoc, Nat.add_comm 1 count] at later

end Outlasts

theorem revisit_singleTry (sender : Sender singleTry) (timeout : Duration) (now : Instant)
    (slot : Nat) :
    (revisit timeout now sender slot).1 =
      if (sender.pending.record? slot).all (now.since ·.touchedAt < timeout) then sender
      else (giveUp .retransmitLimit sender slot).1 := by
  cases found : sender.pending.record? slot with
  | none => simp [revisit, found]
  | some record =>
      have limit : singleTry.retransmitLimit = 0 := rfl
      have untimed : singleTry.queueTimeout = none := rfl
      by_cases early : now.since record.touchedAt < timeout
      · simp [revisit, found, untimed, early]
      · simp [revisit, found, limit, untimed, early]

theorem record?_revisit_singleTry (sender : Sender singleTry) (timeout : Duration)
    (now : Instant) (place : Nat) {slot : Nat} {record : Record PendingItem} :
    (revisit timeout now sender place).1.pending.record? slot = some record ↔
      sender.pending.record? slot = some record ∧
        (slot = place → now.since record.touchedAt < timeout) := by
  rw [revisit_singleTry]
  cases found : sender.pending.record? place with
  | none =>
      simp only [Option.all_none, if_true, iff_self_and]
      rintro there rfl
      rw [found] at there
      cases there
  | some waiting =>
      by_cases early : now.since waiting.touchedAt < timeout
      · simp only [Option.all_some, decide_eq_true early, if_true, iff_self_and]
        rintro there rfl
        rw [found] at there
        exact Option.some.inj there ▸ early
      · simp only [Option.all_some, decide_eq_false early, Bool.false_eq_true, if_false]
        rw [giveUp_of_found found, Table.record?_remove]
        split
        · next same =>
          subst same
          rw [found]
          simp only [reduceCtorEq, Option.some.injEq, forall_const, false_iff, not_and]
          rintro rfl
          exact early
        · next different => simp [different]

/-- Revisiting some slots leaves the items that are not due, and those of other slots. -/
theorem record?_run_revisit_singleTry (sender : Sender singleTry) (timeout : Duration)
    (now : Instant) (slots : List Nat) {slot : Nat} {record : Record PendingItem} :
    (Transition.run (revisit timeout now) sender slots).1.pending.record? slot = some record ↔
      sender.pending.record? slot = some record ∧
        (slot ∈ slots → now.since record.touchedAt < timeout) := by
  induction slots generalizing sender with
  | nil => simp
  | cons place rest ih =>
      rw [Transition.run_cons, ih, record?_revisit_singleTry, List.mem_cons, or_imp, and_assoc]

theorem ids_run_revisit_singleTry (sender : Sender singleTry) (timeout : Duration)
    (now : Instant) (slots : List Nat) :
    let after := (Transition.run (revisit timeout now) sender slots).1
    after.dataIds = sender.dataIds ∧ after.transmissionIds = sender.transmissionIds ∧
      after.roundTrip = sender.roundTrip := by
  apply Transition.run_preserves (revisit timeout now) fun after =>
    after.dataIds = sender.dataIds ∧ after.transmissionIds = sender.transmissionIds ∧
      after.roundTrip = sender.roundTrip
  · intro before slot kept
    rw [revisit_singleTry]
    split
    · exact kept
    · cases found : before.pending.record? slot with
      | none => rwa [giveUp_of_vacant found]
      | some record => rwa [giveUp_of_found found]
  · exact ⟨rfl, rfl, rfl⟩

theorem record?_retransmit_singleTry (sender : Sender singleTry) (now : Instant) {slot : Nat}
    {record : Record PendingItem} :
    (sender.retransmit now).1.pending.record? slot = some record ↔
      sender.pending.record? slot = some record ∧
        now.since record.touchedAt < sender.timeout := by
  have left : (sender.retransmit now).1.pending.record? slot = some record ↔ _ :=
    record?_run_revisit_singleTry sender sender.timeout now sender.oldestFirst
  rw [left]
  constructor
  · intro kept
    exact ⟨kept.1, kept.2 (mem_oldestFirst kept.1)⟩
  · intro kept
    exact ⟨kept.1, fun _ => kept.2⟩

namespace Outlasts

variable {sender : Sender singleTry} {slot sent others : Nat}

/-- A retransmission with the clock set back leaves only the item that is not due. -/
theorem retransmit (outlasts : Outlasts sender slot sent others) :
    Outlasts (step sender (.retransmit ⟨2000000000⟩)).1 slot sent 0 := by
  have timeout : sender.timeout = ⟨1000000000⟩ := by
    rw [Sender.timeout, outlasts.roundTrip]
    rfl
  have left {other : Nat} {record : Record PendingItem} :
      (sender.retransmit ⟨2000000000⟩).1.pending.record? other = some record ↔ _ :=
    record?_retransmit_singleTry sender ⟨2000000000⟩
  rw [timeout] at left
  have alone (other : Nat) (record : Record PendingItem)
      (found : (sender.retransmit ⟨2000000000⟩).1.pending.record? other = some record) :
      other = slot := by
    by_contra apart
    rcases left.mp found with ⟨there, waiting⟩
    rw [(outlasts.rest other record there apart).1] at waiting
    exact absurd waiting (by decide)
  rcases outlasts.traced with ⟨items, segments, traced, rfl⟩
  have ids := ids_run_revisit_singleTry sender sender.timeout ⟨2000000000⟩ sender.oldestFirst
  have agrees : (sender.retransmit ⟨2000000000⟩).1.pending.Agrees := by
    rcases retransmit_performs sender ⟨2000000000⟩ with ⟨_, moves, _⟩
    exact moves.agrees traced.agrees
  constructor
  · refine ⟨items, segments, traced.of_records agrees ⟨ids.1, ids.2.1⟩ ?_, rfl⟩
    exact fun found => traced.records (left.mp found).1
  · exact left.mpr ⟨outlasts.found, by decide⟩
  · intro other record found apart
    exact absurd (alone other record found) apart
  · exact Table.size_le_one alone
  · exact ids.2.2.trans outlasts.roundTrip

theorem burst (outlasts : Outlasts sender slot sent 0) (few : sent + 1000 ≤ SeqId.space) :
    Outlasts (Transition.run step sender burst).1 slot (sent + 1000) 0 := by
  have sends := outlasts.sends 1000 few (by decide)
  rw [Sender.burst, Transition.run_concat]
  exact sends.retransmit

theorem bursts (outlasts : Outlasts sender slot sent 0) (count : Nat)
    (few : sent + 1000 * count ≤ SeqId.space) :
    Outlasts (Transition.run step sender (List.replicate count Sender.burst).flatten).1 slot
      (sent + 1000 * count) 0 := by
  induction count generalizing sender sent with
  | zero => exact outlasts
  | succ count ih =>
      rw [List.replicate_succ, List.flatten_cons, Transition.run_append]
      have within : sent + 1000 + 1000 * count ≤ SeqId.space := by
        rw [Nat.mul_succ] at few
        omega
      have first := outlasts.burst (Nat.le_trans (Nat.le_add_right _ _) within)
      have later := ih first within
      rwa [show sent + 1000 + 1000 * count = sent + 1000 * (count + 1) by omega] at later

end Outlasts

/-- However many bursts follow it, the item that went out first stays pending. -/
theorem outlasts_outlasting {bursts : Nat} (few : 1 + 1000 * bursts ≤ SeqId.space) :
    ∃ slot, Outlasts (reached singleTry (outlasting bursts)) slot (1 + 1000 * bursts) 0 := by
  have vacancy : (start singleTry).pendingCount < singleTry.queueLimit :=
    Nat.lt_of_le_of_lt (Nat.zero_le _) (by decide : 0 < singleTry.queueLimit)
  have fits : ([1] : Payload).length ≤ Capacity.payloadBytes := by decide
  rcases send_of_room Table.agrees_empty vacancy fits (Table.holder?_empty _) ⟨10000000000⟩ with
    ⟨pending, accepted, records⟩
  have performs := send_performs accepted
  have first : Outlasts (step (start singleTry) (.send [1] ⟨10000000000⟩)).1
      (start singleTry).pending.freshSlot 1 0 := by
    simp only [step, accepted]
    constructor
    · exact ⟨_, _, (traced_start singleTry).performs (by decide) performs, by
        rw [transmitted_sent]; rfl⟩
    · exact (records _).trans (if_pos rfl)
    · intro other record found apart
      have there := (records other).symm.trans found
      rw [if_neg apart] at there
      simp [start, Table.record?_empty] at there
    · have counted := performs.pendingCount_le
      rw [itemsSent_sent, List.length_singleton] at counted
      exact Nat.le_trans counted (Nat.le_refl 1)
    · rfl
  refine ⟨(start singleTry).pending.freshSlot, ?_⟩
  rw [reached, outlasting, Transition.run_cons]
  exact first.bursts bursts few

/-- Whether the item that outlasted the others cannot be reported any more: it can only have
the first of all ids, from which more than half the ids were drawn since, and not yet all. -/
structure Forgotten (sender : Sender singleTry) (count : Nat) : Prop where
  agrees : sender.pending.Agrees
  next : sender.nextTransmissionId = (SeqId.ofNat 0).advance count
  far : reach < count
  early : ∀ slot record, sender.pending.record? slot = some record →
    record.value.payload = [1] → ∀ id ∈ record.keys, id = .ofNat 0 ∧ count ≤ SeqId.space

namespace Forgotten

variable {sender after : Sender singleTry} {count : Nat}

theorem of_records (forgotten : Forgotten sender count) (agrees : after.pending.Agrees)
    (sameIds : after.transmissionIds = sender.transmissionIds)
    (records : ∀ slot record, after.pending.record? slot = some record →
      ∃ before, sender.pending.record? slot = some before ∧ record.value = before.value ∧
        record.keys ⊆ before.keys) : Forgotten after count where
  agrees := agrees
  next := (congrArg SeqId.Generator.upcoming sameIds).trans forgotten.next
  far := forgotten.far
  early slot record found payload id member := by
    rcases records slot record found with ⟨before, there, same, subset⟩
    exact forgotten.early slot before there (same ▸ payload) id (subset member)

theorem takeOn (forgotten : Forgotten sender count) {payload : Payload} {now : Instant}
    {pending : Table PendingItem} {displaced : Option Nat} (other : payload ≠ [1])
    (registered : (sender.pending.create sender.nextDataId ⟨payload, 0, now⟩ now).register
      sender.nextTransmissionId sender.pending.freshSlot = .ok (pending, displaced)) :
    Forgotten (sender.admitted payload pending) (count + 1) where
  agrees := (forgotten.agrees.create _ _ _).register registered
  next := by
    have upcoming : sender.transmissionIds.upcoming = (SeqId.ofNat 0).advance count :=
      forgotten.next
    simp [nextTransmissionId, admitted, SeqId.Generator.draw, SeqId.next, upcoming]
  far := Nat.lt_succ_of_lt forgotten.far
  early slot record found same id member := by
    rcases Table.record?_register registered found with ⟨before, there, changed⟩
    rw [Table.record?_create] at there
    split at there
    · cases there
      rcases changed with rfl | rfl | ⟨_, rfl⟩
      · exact absurd same other
      · exact absurd same other
      · exact absurd same other
    · next older =>
      have kept : before.value.payload = [1] ∧ id ∈ before.keys := by
        rcases changed with rfl | rfl | ⟨fresh, _⟩
        · exact ⟨same, member⟩
        · exact ⟨same, (Record.mem_dropKey.mp member).1⟩
        · exact absurd fresh older
      rcases forgotten.early slot before there kept.1 id kept.2 with ⟨first, few⟩
      refine ⟨first, Nat.lt_of_le_of_ne few ?_⟩
      rintro rfl
      have again : sender.nextTransmissionId = id := by
        rw [forgotten.next, first]
        decide
      rcases forgotten.agrees.register_create registered with ⟨moved, _, _⟩
      have holder := ((forgotten.agrees.create _ _ _).register registered).holder?_of_mem
        found member
      rw [moved, Table.holder?_refile, if_pos again.symm] at holder
      exact older (Option.some.inj holder).symm

theorem move (forgotten : Forgotten sender count) {outputs : List Output}
    (move : Move sender outputs after)
    (others : ∀ segment ∈ outputs.filterMap Output.sent?, segment.payload ≠ [1]) :
    ∃ count, Forgotten after count := by
  have agrees := move.agrees forgotten.agrees
  cases move with
  | giveUp reason present =>
      rw [giveUp_of_found present] at agrees ⊢
      refine ⟨count, forgotten.of_records agrees rfl ?_⟩
      intro slot record found
      rw [Table.record?_remove] at found
      split at found
      · cases found
      · exact ⟨record, found, rfl, List.Subset.refl _⟩
  | confirm now holder present =>
      refine ⟨count, forgotten.of_records agrees (ids_confirm now sender _).2 ?_⟩
      intro slot record found
      rw [pending_confirm holder present now, Table.record?_remove] at found
      split at found
      · cases found
      · exact ⟨record, found, rfl, List.Subset.refl _⟩
  | release holder superseded =>
      refine ⟨count, forgotten.of_records agrees rfl ?_⟩
      intro slot record found
      rw [forgotten.agrees.record?_release] at found
      rcases Option.map_eq_some_iff.mp found with ⟨before, there, rfl⟩
      exact ⟨before, there, rfl, List.filter_sublist.subset⟩
  | takeOn fits registered =>
      exact ⟨count + 1, forgotten.takeOn (others _ (List.mem_singleton.mpr rfl)) registered⟩
  | again now present allowed registered filed => exact absurd allowed (Nat.not_lt_zero _)
  | forfeit present allowed refused => exact absurd allowed (Nat.not_lt_zero _)

theorem moves (forgotten : Forgotten sender count) {outputs : List Output}
    (moves : Moves sender outputs after)
    (others : ∀ segment ∈ outputs.filterMap Output.sent?, segment.payload ≠ [1]) :
    ∃ count, Forgotten after count := by
  induction moves generalizing count with
  | none => exact ⟨count, forgotten⟩
  | next first _ ih =>
      rw [List.filterMap_append, List.forall_mem_append] at others
      rcases forgotten.move first others.1 with ⟨middle, kept⟩
      exact ih kept others.2

theorem acked_notMem_acknowledge (forgotten : Forgotten sender count) (ack : Acknowledgment)
    (now : Instant) (dataId : SeqId) :
    .acked dataId [1] ∉ (sender.acknowledge ack now).2 := by
  intro member
  rcases pending_of_acked forgotten.agrees member with ⟨slot, record, found, item, reported⟩
  by_cases accepted : sender.Accepts ack
  · have payload : record.value.payload = [1] := congrArg Prod.snd item
    rcases exists_reported_iff.mp ⟨ack, accepted, reported⟩ with ⟨id, listed, near⟩
    rcases forgotten.early slot record found payload id listed with ⟨rfl, few⟩
    have far := forgotten.far
    cases count with
    | zero => exact absurd far (Nat.not_lt_zero _)
    | succ count =>
        rw [forgotten.next, SeqId.previous_advance,
          SeqId.distanceTo_advance_of_lt _ few] at near
        exact absurd (Nat.le_of_lt_succ far) (Nat.not_le_of_lt near)
  · rw [acknowledge_of_not_accepts accepted] at member
    cases member

theorem step (forgotten : Forgotten sender count) {call : Call}
    (other : ∀ now, call ≠ .send [1] now) :
    (∃ count, Forgotten (step sender call).1 count) ∧
      ∀ dataId, .resolved (.acked dataId [1]) ∉ (step sender call).2 := by
  rcases step_performs sender call with ⟨actual, moves, alike⟩
  have kept := forgotten.moves moves
  rw [alike.sent] at kept
  cases call with
  | send payload now =>
      simp only [Sender.step] at kept ⊢
      split
      · exact ⟨⟨count, forgotten⟩, fun _ => List.not_mem_nil⟩
      · next after segment events accepted =>
        simp only [accepted] at kept
        constructor
        · apply kept
          intro sent member
          rw [List.filterMap_cons, filterMap_sent?_resolved] at member
          rw [List.mem_singleton.mp member, payload_of_send accepted]
          rintro rfl
          exact other now rfl
        · intro dataId member
          rcases List.mem_cons.mp member with sent | resolved
          · cases sent
          · rcases List.mem_map.mp resolved with ⟨event, listed, same⟩
            cases same
            exact not_isAcked_of_mem_send accepted listed rfl
  | acknowledge ack now =>
      simp only [Sender.step] at kept ⊢
      constructor
      · apply kept
        rw [filterMap_sent?_resolved]
        exact List.forall_mem_nil _
      · intro dataId member
        rcases List.mem_map.mp member with ⟨event, listed, same⟩
        cases same
        exact forgotten.acked_notMem_acknowledge ack now dataId listed
  | retransmit now =>
      simp only [Sender.step] at kept ⊢
      constructor
      · apply kept
        rw [List.filterMap_append, filterMap_sent?_resent, filterMap_sent?_resolved]
        exact List.forall_mem_nil _
      · intro dataId member
        rcases List.mem_append.mp member with resent | resolved
        · rcases List.mem_map.mp resent with ⟨_, _, same⟩
          cases same
        · rcases List.mem_map.mp resolved with ⟨event, listed, same⟩
          cases same
          exact not_isAcked_of_mem_retransmit listed rfl

theorem run (forgotten : Forgotten sender count) {calls : List Call}
    (others : ∀ now, .send [1] now ∉ calls) (dataId : SeqId) :
    .resolved (.acked dataId [1]) ∉ (Transition.run Sender.step sender calls).2 := by
  induction calls generalizing sender count with
  | nil => exact List.not_mem_nil
  | cons call rest ih =>
      have first : ∀ now, call ≠ .send [1] now := fun now same =>
        others now (same ▸ List.mem_cons_self)
      rcases forgotten.step first with ⟨⟨middle, kept⟩, quiet⟩
      rw [Transition.run_cons]
      intro member
      rcases List.mem_append.mp member with now | later
      · exact quiet dataId now
      · exact ih kept (fun now listed => others now (List.mem_cons_of_mem _ listed)) later

end Forgotten

theorem Outlasts.forgotten {sender : Sender singleTry} {slot sent others : Nat}
    (outlasts : Outlasts sender slot sent others) (far : reach < sent)
    (few : sent ≤ SeqId.space) : Forgotten sender sent := by
  rcases outlasts.traced with ⟨items, segments, traced, rfl⟩
  refine ⟨traced.agrees, traced.nextTransmissionId, far, ?_⟩
  intro other record found payload id member
  refine ⟨?_, few⟩
  by_cases here : other = slot
  · subst here
    rw [outlasts.found] at found
    cases found
    exact List.mem_singleton.mp member
  · rw [(outlasts.rest other record found here).2] at payload
    cases payload

/-- After 33 bursts the item that went out first is still pending, but nothing that is asked
of the sender from then on will have it acknowledged. -/
theorem early_out_of_reach :
    singleTry.Valid ∧
      (∃ slot, (reached singleTry (outlasting 33)).pending.record? slot = some early) ∧
      ∀ calls : List Call, (∀ now, .send early.value.payload now ∉ calls) →
        .resolved (.acked early.primary early.value.payload) ∉
          (Transition.run step (reached singleTry (outlasting 33)) calls).2 := by
  rcases outlasts_outlasting (by decide : 1 + 1000 * 33 ≤ SeqId.space) with ⟨slot, outlasts⟩
  refine ⟨Config.fault?_eq_none_iff.mp (by decide), ⟨slot, outlasts.found⟩, ?_⟩
  intro calls others
  exact (outlasts.forgotten (by decide) (by decide)).run others early.primary

end Sender

end ReliableDatagram
