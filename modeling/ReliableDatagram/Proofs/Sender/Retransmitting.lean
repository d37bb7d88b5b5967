import ReliableDatagram.Proofs.Sender.Discipline
import ReliableDatagram.Proofs.Sender.Keeping
import ReliableDatagram.Proofs.Sender.Visiting

/-!
# The effect of a retransmission

While no pending item is older than all ids, the items are visited in the order in which they
were sent (`ordered_numbers`), and while the ids to come are not in use, each gets what its
record says.  A second retransmission at the same instant then finds no item that has waited
(`effect_retransmit`).
-/

namespace ReliableDatagram

namespace Sender

variable {config : Config} {sender after : Sender config}

/-! ## Nothing to do -/

/-- Where all items have to wait, a retransmission does nothing. -/
theorem retransmit_of_wait {now : Instant}
    (waits : ∀ {slot record}, sender.pending.record? slot = some record →
      verdict config sender.timeout now record = .wait) :
    sender.retransmit now = (sender, [], []) := by
  have still (slot : Nat) : revisit sender.timeout now sender slot = (sender, []) := by
    cases found : sender.pending.record? slot with
    | none => simp only [revisit, found]
    | some record => rw [revisit_eq sender.timeout now found, waits found]
  simp only [retransmit, Transition.run_of_still still, List.filterMap_nil]

theorem verdict_again {timeout : Duration} {now : Instant} {record : Record PendingItem}
    (judged : verdict config timeout now record = .resend) (id : SeqId)
    (positive : 0 < timeout.nanoseconds) :
    verdict config timeout now (again now id record) = .wait := by
  have current := (verdict_eq_resend_iff.mp judged).current
  have early : now.since now < timeout := by
    rw [Duration.lt_def, Instant.since, Nat.sub_self]
    exact positive
  unfold verdict again
  rw [if_neg (Bool.eq_false_iff.mp current), if_pos early]

theorem verdict_left {timeout : Duration} {now : Instant} {id : SeqId}
    {entry : Nat × Record PendingItem} {record : Record PendingItem}
    (left : (fate config timeout now id entry).left = some record)
    (positive : 0 < timeout.nanoseconds) : verdict config timeout now record = .wait := by
  unfold fate at left
  split at left
  · cases left
  · next judged =>
    cases left
    exact judged
  · next judged =>
    cases left
    exact verdict_again judged id positive

theorem Handled.retransmit_again {now : Instant} {next : SeqId}
    {outputs : List (Segment ⊕ SendEvent)}
    (handled : Handled sender
      (Transition.run (judge config sender.timeout now) sender.nextTransmissionId sender.queue).2
      next outputs after)
    (positive : 0 < sender.timeout.nanoseconds) : after.retransmit now = (after, [], []) := by
  have timeout : after.timeout = sender.timeout :=
    congrArg (fun roundTrip => roundTrip.timeout config) handled.roundTrip
  apply retransmit_of_wait
  intro slot record found
  obtain ⟨id, left⟩ := handled.exists_left slot
  rw [found] at left
  obtain ⟨_, _, left⟩ := Option.bind_eq_some_iff.mp left.symm
  rw [timeout]
  exact verdict_left left positive

/-! ## The order of the items -/

/-- The number of a pending item is its place among the items sent. -/
theorem getElem?_number (valid : config.Valid) (calls : List Call) {slot : Nat}
    {record : Record PendingItem}
    (found : (reached config calls).pending.record? slot = some record) :
    (itemsSent (Transition.run step (start config) calls).2)[(chronicle config calls).1.2.number
      slot]? = some (itemOf record) := by
  rw [← reached_chronicle] at found
  have known := ((recorded_chronicle valid calls).pending (flight?_of_found found)).1
  rwa [itemsOf_chronicle] at known

/-- The age of an item that is not older than all ids tells its number. -/
theorem age_eq (valid : config.Valid) (calls : List Call) {slot : Nat}
    {record : Record PendingItem}
    (found : (reached config calls).pending.record? slot = some record)
    (recent : (chronicle config calls).1.2.count <
      (chronicle config calls).1.2.number slot + SeqId.space) :
    (chronicle config calls).1.2.number slot < (chronicle config calls).1.2.count ∧
      (reached config calls).age record.primary =
        (chronicle config calls).1.2.count - (chronicle config calls).1.2.number slot := by
  have known := getElem?_number valid calls found
  have count := (recorded_chronicle valid calls).count
  rw [itemsOf_chronicle] at count
  have less := (List.getElem?_eq_some_iff.mp known).1
  rw [← count] at less
  have traced := traced_reached valid.retransmitLimit_lt calls
  have primary := traced.numbered known
  have next := traced.nextDataId
  rw [← count] at next
  refine ⟨less, ?_⟩
  change record.primary.distanceTo _ = _
  rw [next, show record.primary = _ from primary]
  exact SeqId.distanceTo_between _ (Nat.le_of_lt less) (by omega)

/-- Of two pending items that are not older than all ids the older one was sent first. -/
theorem number_lt_of_older (valid : config.Valid) (calls : List Call)
    (recent : ∀ slot record, (reached config calls).pending.record? slot = some record →
      (chronicle config calls).1.2.count <
        (chronicle config calls).1.2.number slot + SeqId.space)
    {slot other : Nat} {record kept : Record PendingItem}
    (found : (reached config calls).pending.record? slot = some record)
    (there : (reached config calls).pending.record? other = some kept)
    (older : (reached config calls).age kept.primary ≤ (reached config calls).age record.primary)
    (different : other ≠ slot) :
    (chronicle config calls).1.2.number slot < (chronicle config calls).1.2.number other := by
  obtain ⟨less, age⟩ := age_eq valid calls found (recent slot record found)
  obtain ⟨otherLess, otherAge⟩ := age_eq valid calls there (recent other kept there)
  rw [age, otherAge] at older
  have apart : (chronicle config calls).1.2.number other ≠
      (chronicle config calls).1.2.number slot := by
    intro same
    rw [← reached_chronicle] at found there
    exact different ((recorded_chronicle valid calls).distinct (flight?_of_found there)
      (flight?_of_found found) same)
  omega

/-- While no item is older than all ids, the items are visited in the order in which they were
sent. -/
theorem ordered_numbers (valid : config.Valid) (calls : List Call)
    (recent : ∀ slot record, (reached config calls).pending.record? slot = some record →
      (chronicle config calls).1.2.count <
        (chronicle config calls).1.2.number slot + SeqId.space) :
    (reached config calls).queue.Pairwise fun older newer =>
      (chronicle config calls).1.2.number older.1 <
        (chronicle config calls).1.2.number newer.1 := by
  have distinct := nodup_oldestFirst (reached config calls)
  rw [← map_fst_queue] at distinct
  refine ((ordered_queue (reached config calls)).and (List.pairwise_map.mp distinct)).imp_of_mem ?_
  intro older newer olderMem newerMem before
  exact number_lt_of_older valid calls recent (mem_queue_iff.mp olderMem)
    (mem_queue_iff.mp newerMem) before.1 fun same => before.2 same.symm

/-! ## The effect -/

/-- While no pending item is older than all ids and the ids to come are not in use, a
retransmission does to each item what its record says, in the order in which the items were
sent.  A second one at the same instant does nothing. -/
theorem effect_retransmit (valid : config.Valid) (calls : List Call) (now : Instant)
    (recent : ∀ slot record, (reached config calls).pending.record? slot = some record →
      (chronicle config calls).1.2.count <
        (chronicle config calls).1.2.number slot + SeqId.space)
    (unused : ∀ offset < (reached config calls).pendingCount, ∀ slot record,
      (reached config calls).pending.record? slot = some record →
        (reached config calls).nextTransmissionId.advance offset ∉ record.keys) :
    let sender := reached config calls
    let roster := (chronicle config calls).1.2
    let judged :=
      Transition.run (judge config sender.timeout now) sender.nextTransmissionId sender.queue
    let outputs := judged.2.filterMap Fate.answer
    (∀ slot record, (slot, record) ∈ sender.queue ↔ sender.pending.record? slot = some record) ∧
      (∀ entry ∈ sender.queue,
        (itemsSent (Transition.run step (start config) calls).2)[roster.number entry.1]? =
          some (itemOf entry.2)) ∧
      sender.queue.Pairwise
        (fun older newer => roster.number older.1 < roster.number newer.1) ∧
      judged.2.map Fate.slot = sender.queue.map Prod.fst ∧
      ∃ after, sender.retransmit now =
          (after, outputs.filterMap Sum.getLeft?, outputs.filterMap Sum.getRight?) ∧
        Handled sender judged.2 judged.1 outputs after ∧
        (0 < sender.timeout.nanoseconds → after.retransmit now = (after, [], [])) := by
  intro sender roster judged outputs
  have traced := traced_reached valid.retransmitLimit_lt calls
  have within : sender.pendingCount ≤ SeqId.space := by
    have few : sender.pendingCount ≤ config.queueLimit :=
      (intact_reached valid calls).pendingCount_le
    have limit := valid.queueLimit_lt
    simp only [SeqId.halfSpace, SeqId.space] at limit ⊢
    omega
  have free : sender.Unused sender.pendingCount := fun offset less =>
    traced.agrees.holder?_eq_none (unused offset less)
  obtain ⟨after, answer, handled⟩ := handled_retransmit valid.retransmitLimit_lt
    (fun found => (traced.records found).keys_le) free within now
  exact ⟨fun _ _ => mem_queue_iff, fun entry member =>
    getElem?_number valid calls (mem_queue_iff.mp member), ordered_numbers valid calls recent,
    map_slot_run_judge _ _ _ _, after, answer, handled, handled.retransmit_again⟩

/-- Settings under which an item goes out twice and stays for five seconds. -/
def brief : Config := { retransmitLimit := 1, queueTimeout := some (.ofSeconds 5) }

/-- Four items, the second of them sent while the clock is back. -/
def crowded : List Call :=
  [.send [1] ⟨1000000000⟩, .retransmit ⟨2000000000⟩, .send [2] ⟨0⟩, .send [3] ⟨3000000000⟩,
    .send [4] ⟨4500000000⟩]

theorem effect_retransmit_crowded :
    brief.Valid ∧
      (∀ slot record, (reached brief crowded).pending.record? slot = some record →
        (chronicle brief crowded).1.2.count <
          (chronicle brief crowded).1.2.number slot + SeqId.space) ∧
      (∀ offset < (reached brief crowded).pendingCount, ∀ slot record,
        (reached brief crowded).pending.record? slot = some record →
          (reached brief crowded).nextTransmissionId.advance offset ∉ record.keys) ∧
      ∃ after, (reached brief crowded).retransmit ⟨5000000000⟩ =
          (after, [⟨.ofNat 2, [.ofNat 3, .ofNat 5], [3]⟩],
            [.unacked (.ofNat 0) [1] .retransmitLimit, .unacked (.ofNat 1) [2] .queueTimeout]) ∧
        after.retransmit ⟨5000000000⟩ = (after, [], []) := by
  have valid : brief.Valid := Config.fault?_eq_none_iff.mp (by decide)
  have counted : (chronicle brief crowded).1.2.count < SeqId.space := by decide +kernel
  have recent : ∀ slot record, (reached brief crowded).pending.record? slot = some record →
      (chronicle brief crowded).1.2.count <
        (chronicle brief crowded).1.2.number slot + SeqId.space :=
    fun _ _ _ => Nat.lt_of_lt_of_le counted (Nat.le_add_left _ _)
  have unheld : ∀ offset < (reached brief crowded).pendingCount,
      (reached brief crowded).pending.holder?
        ((reached brief crowded).nextTransmissionId.advance offset) = none := by decide +kernel
  have unused : ∀ offset < (reached brief crowded).pendingCount, ∀ slot record,
      (reached brief crowded).pending.record? slot = some record →
        (reached brief crowded).nextTransmissionId.advance offset ∉ record.keys := by
    intro offset less slot record found listed
    have held := (agrees_reached brief crowded).holder?_of_mem found listed
    rw [unheld offset less] at held
    cases held
  have aged : ((reached brief crowded).pending.toList.map fun entry =>
      ((reached brief crowded).age entry.2.primary, entry.1)) =
        [(4, 0), (3, 1), (2, 2), (1, 3)] := by decide +kernel
  have order : (reached brief crowded).oldestFirst = [0, 1, 2, 3] := by
    rw [oldestFirst, aged, List.mergeSort_of_pairwise (by decide)]
    rfl
  have answers : (Transition.run (judge brief (reached brief crowded).timeout ⟨5000000000⟩)
      (reached brief crowded).nextTransmissionId (reached brief crowded).queue).2.filterMap
        Fate.answer = [.inr (.unacked (.ofNat 0) [1] .retransmitLimit),
          .inr (.unacked (.ofNat 1) [2] .queueTimeout),
          .inl ⟨.ofNat 2, [.ofNat 3, .ofNat 5], [3]⟩] := by
    rw [queue, order]
    decide +kernel
  obtain ⟨_, _, _, _, after, answer, _, again⟩ :=
    effect_retransmit valid crowded ⟨5000000000⟩ recent unused
  rw [answers] at answer
  exact ⟨valid, recent, unused, after, answer, again (by decide +kernel)⟩

end Sender

end ReliableDatagram
