import ReliableDatagram.Proofs.Sender.Keeping
import ReliableDatagram.Proofs.Sender.Naming
import ReliableDatagram.Proofs.Sender.Reach

/-!
# Items that outlive all ids

When every pending item is due, a retransmission sends each of them once (`all_due`).  So a
full queue draws the ids in rounds, and after 64 rounds of 1024 items each id was drawn once.
The next id is the first one again, and the item that goes out under it is still filed under
it: the segment does not name it last (`drawn_again_not_latest`).
-/

namespace ReliableDatagram

namespace Sender

variable {config : Config} {sender : Sender config} {items : List Item}
  {segments : List Segment}

/-! ## Items that are due -/

theorem Due.fate_eq {timeout : Duration} {now : Instant} {entry : Nat × Record PendingItem}
    (due : Due config timeout now entry.2) (id : SeqId) :
    fate config timeout now id entry = ⟨entry.1, some (again now id entry.2),
      some (.inl ⟨entry.2.primary, entry.2.keys ++ [id], entry.2.value.payload⟩)⟩ := by
  simp only [fate, verdict_eq_resend_iff.mpr due]

theorem exists_segments {fates : List Fate}
    (resent : ∀ fate ∈ fates, ∃ segment, fate.answer = some (.inl segment)) :
    ∃ segments : List Segment, fates.filterMap Fate.answer = segments.map .inl ∧
      segments.length = fates.length := by
  induction fates with
  | nil => exact ⟨[], rfl, rfl⟩
  | cons fate rest ih =>
      obtain ⟨segment, answer⟩ := resent fate List.mem_cons_self
      obtain ⟨segments, answers, counted⟩ :=
        ih fun other member => resent other (List.mem_cons_of_mem _ member)
      refine ⟨segment :: segments, ?_, congrArg (· + 1) counted⟩
      rw [List.filterMap_cons_some answer, answers]
      rfl

/-- When all pending items are due, and there are ids for all of them that are not in use, a
retransmission sends each of them once. -/
theorem all_due (traced : Traced sender items segments)
    (room : config.retransmitLimit < Capacity.keysPerRecord) {now : Instant}
    (few : segments.length + sender.pendingCount ≤ SeqId.space)
    (due : ∀ slot record, sender.pending.record? slot = some record →
      Due config sender.timeout now record) :
    ∃ (after : Sender config) (sent : List Segment), sender.retransmit now = (after, sent, []) ∧
      sent.length = sender.pendingCount ∧ after.roundTrip = sender.roundTrip ∧
      ∃ ids : Nat → SeqId, ∀ slot, after.pending.record? slot =
        (sender.pending.record? slot).map (again now (ids slot)) := by
  have within : sender.pendingCount ≤ SeqId.space := Nat.le_trans (Nat.le_add_left _ _) few
  obtain ⟨after, answer, handled⟩ := handled_retransmit room
    (fun found => (traced.records found).keys_le) (traced.unused few) within now
  let fates := (Transition.run (judge config sender.timeout now) sender.nextTransmissionId
    sender.queue).2
  obtain ⟨sent, answers, counted⟩ : ∃ sent : List Segment,
      fates.filterMap Fate.answer = sent.map .inl ∧ sent.length = fates.length := by
    refine exists_segments fun fate member => ?_
    obtain ⟨id, ⟨slot, record⟩, listed, same⟩ := exists_fate member
    rw [same, (due slot record (mem_queue_iff.mp listed)).fate_eq id]
    exact ⟨_, rfl⟩
  have slots : fates.map Fate.slot = sender.queue.map Prod.fst := map_slot_run_judge _ _ _ _
  have counted : sent.length = sender.pendingCount := by
    rw [counted, ← List.length_map, slots, List.length_map, length_queue]
  have records : ∀ slot, ∃ id, after.pending.record? slot =
      (sender.pending.record? slot).map (again now id) := by
    intro slot
    obtain ⟨id, left⟩ := handled.exists_left slot
    refine ⟨id, left.trans ?_⟩
    cases found : sender.pending.record? slot with
    | none => rfl
    | some record =>
        have fated : fate config sender.timeout now id (slot, record) = _ :=
          (due slot record found).fate_eq id
        rw [Option.bind_some, fated]
        rfl
  refine ⟨after, sent, ?_, counted, handled.roundTrip, Classical.skolem.mp records⟩
  rw [answer, answers]
  simp [List.filterMap_map, Function.comp_def]

/-- An item that is older than all others is visited first. -/
theorem oldestFirst_eq_cons {slot : Nat} {record : Record PendingItem}
    (found : sender.pending.record? slot = some record)
    (oldest : ∀ other younger, sender.pending.record? other = some younger → other ≠ slot →
      sender.age younger.primary < sender.age record.primary) :
    ∃ rest, sender.oldestFirst = slot :: rest := by
  have listed := mem_queue_iff.mpr found
  have ordered := ordered_queue sender
  have order := map_fst_queue sender
  cases walk : sender.queue with
  | nil =>
      rw [walk] at listed
      cases listed
  | cons head rest =>
      have there : sender.pending.record? head.1 = some head.2 :=
        mem_queue_iff.mp (walk ▸ List.mem_cons_self)
      rw [walk] at listed ordered order
      have here : head.1 = slot := by
        by_contra apart
        have younger := oldest head.1 head.2 there apart
        rcases List.mem_cons.mp listed with same | later
        · exact apart (congrArg Prod.fst same).symm
        · exact absurd younger (Nat.not_lt_of_le ((List.pairwise_cons.mp ordered).1 _ later))
      exact ⟨rest.map Prod.fst, by rw [← order, ← here]; rfl⟩

/-- An item that is visited first and is filed under the next id already goes out as it is. -/
theorem head?_transmitted_of_held (agrees : sender.pending.Agrees) {now : Instant} {slot : Nat}
    {rest : List Nat} {record : Record PendingItem}
    (found : sender.pending.record? slot = some record)
    (oldest : sender.oldestFirst = slot :: rest)
    (due : Due config sender.timeout now record)
    (held : sender.nextTransmissionId ∈ record.keys) :
    (transmitted (step sender (.retransmit now)).2).head? =
      some ⟨record.primary, record.keys, record.value.payload⟩ := by
  have registered := Table.register_of_held (agrees.holder?_of_mem found held)
  have visited := revisit_eq sender.timeout now found
  rw [verdict_eq_resend_iff.mpr due] at visited
  have visited := visited.trans
    (sendAgain_eq_of_ok registered found (Option.some_ne_none slot).symm now)
  simp only [step, transmitted_resent, retransmit, oldest, Transition.run_cons, visited]
  rfl

theorem Performs.pendingCount_eq {after : Sender config} {outputs : List Output}
    (performs : Performs sender outputs after)
    (unresolved : outputs.filterMap Output.event? = []) :
    after.pendingCount = sender.pendingCount + (itemsSent outputs).length := by
  have conserved := congrArg Multiset.card performs.conserves
  have sent : (sentItems outputs).card = (itemsSent outputs).length := Multiset.coe_card _
  have none : (resolvedItems outputs).card = 0 := by
    rw [resolvedItems, unresolved]
    rfl
  rw [Multiset.card_add, Multiset.card_add, card_pendingItems, card_pendingItems, sent,
    none] at conserved
  omega

/-! ## Rounds -/

/-- Settings under which an item may go out 65 times. -/
def patient : Config := { retransmitLimit := 64 }

/-- Calls that send a number of items. -/
def filling (count : Nat) : List Call := List.replicate count (.send [] ⟨0⟩)

/-- Retransmissions, one every second. -/
def rounds (count : Nat) : List Call :=
  (List.range count).map fun round => .retransmit ⟨(round + 1) * 1000000000⟩

theorem rounds_succ (count : Nat) :
    rounds (count + 1) = rounds count ++ [.retransmit ⟨(count + 1) * 1000000000⟩] := by
  rw [rounds, List.range_succ, List.map_append]
  rfl

/-- Whether each of a number of items went out again in each of a number of rounds.  The first
item is in a slot, and still filed under the first id. -/
structure Rounds (sender : Sender patient) (past : List Output) (slot count round : Nat) :
    Prop where
  traced : Traced sender (itemsSent past) (transmitted past)
  length_items : (itemsSent past).length = count
  length_transmitted : (transmitted past).length = count * (round + 1)
  pendingCount : sender.pendingCount = count
  pending : ∀ {other record}, sender.pending.record? other = some record →
    record.touchedAt = ⟨round * 1000000000⟩ ∧ record.value.retransmissions = round
  first : ∃ record, sender.pending.record? slot = some record ∧ record.primary = .ofNat 0 ∧
    record.keys.head? = some (.ofNat 0) ∧ record.keys.length = round + 1
  others : ∀ {other record}, sender.pending.record? other = some record → other ≠ slot →
    record.primary ≠ .ofNat 0
  roundTrip : sender.roundTrip = RoundTrip.start

namespace Rounds

variable {sender : Sender patient} {past : List Output} {slot count round : Nat}

theorem send (rounds : Rounds sender past slot count 0) (positive : 0 < count)
    (vacancy : count < patient.queueLimit) :
    Rounds (step sender (.send [] ⟨0⟩)).1 (past ++ (step sender (.send [] ⟨0⟩)).2) slot
      (count + 1) 0 := by
  have few : count < SeqId.space := Nat.lt_trans vacancy (by decide)
  have fits : ([] : Payload).length ≤ Capacity.payloadBytes := Nat.zero_le _
  have unheld := rounds.traced.unheld (by rw [rounds.length_transmitted]; omega)
  rcases send_of_room rounds.traced.agrees (rounds.pendingCount ▸ vacancy) fits unheld ⟨0⟩ with
    ⟨pending, accepted, records⟩
  have performs := send_performs accepted
  have next : sender.nextDataId = (SeqId.ofNat 0).advance count := by
    rw [rounds.traced.nextDataId, rounds.length_items]
    rfl
  have taken : slot ≠ sender.pending.freshSlot := by
    rintro rfl
    rcases rounds.first with ⟨record, found, _⟩
    rw [Table.record?_freshSlot] at found
    cases found
  simp only [step, accepted]
  constructor
  · rw [itemsSent_append, transmitted_append]
    exact rounds.traced.performs (by decide) performs
  · rw [itemsSent_append, itemsSent_sent, List.length_append, rounds.length_items]
    rfl
  · rw [transmitted_append, transmitted_sent, List.length_append, rounds.length_transmitted]
    simp
  · rw [performs.pendingCount_eq rfl, itemsSent_sent, rounds.pendingCount]
    rfl
  · intro other record found
    replace found := (records other).symm.trans found
    split at found
    · cases found
      exact ⟨rfl, rfl⟩
    · exact rounds.pending found
  · rcases rounds.first with ⟨record, found, item⟩
    exact ⟨record, (records slot).trans ((if_neg taken).trans found), item⟩
  · intro other record found apart
    replace found := (records other).symm.trans found
    split at found
    · cases found
      rw [next]
      intro same
      have none := SeqId.advance_injective few (by decide) (same.trans (SeqId.advance_zero _).symm)
      exact absurd none (Nat.ne_of_gt positive)
    · exact rounds.others found apart
  · exact rounds.roundTrip

theorem sends (rounds : Rounds sender past slot count 0) (positive : 0 < count) (more : Nat)
    (vacancy : count + more ≤ patient.queueLimit) :
    Rounds (Transition.run step sender (filling more)).1
      (past ++ (Transition.run step sender (filling more)).2) slot (count + more) 0 := by
  induction more generalizing sender past count with
  | zero =>
      rw [filling, List.replicate_zero, Transition.run_nil, List.append_nil]
      exact rounds
  | succ more ih =>
      have first := rounds.send positive (by omega)
      have later := ih first (Nat.succ_pos count) (by omega)
      rw [List.append_assoc, Nat.add_assoc, Nat.add_comm 1 more] at later
      rw [filling, List.replicate_succ, Transition.run_cons]
      exact later

theorem due (rounds : Rounds sender past slot count round) (few : round < 64) {other : Nat}
    {record : Record PendingItem} (found : sender.pending.record? other = some record) :
    Due patient sender.timeout ⟨(round + 1) * 1000000000⟩ record := by
  rcases rounds.pending found with ⟨touched, often⟩
  have timeout : sender.timeout = ⟨1000000000⟩ := by
    rw [Sender.timeout, rounds.roundTrip]
    rfl
  constructor
  · rfl
  · rw [touched, timeout, Duration.lt_def]
    change ¬ (round + 1) * 1000000000 - round * 1000000000 < 1000000000
    omega
  · rw [often]
    exact few

/-- While there are ids that were not drawn yet, all items go out once more. -/
theorem retransmit (rounds : Rounds sender past slot count round) (few : round < 64)
    (fresh : count * (round + 2) ≤ SeqId.space) :
    let call : Call := .retransmit ⟨(round + 1) * 1000000000⟩
    Rounds (step sender call).1 (past ++ (step sender call).2) slot count (round + 1) := by
  intro call
  have left : (transmitted past).length + sender.pendingCount ≤ SeqId.space := by
    rw [rounds.length_transmitted, rounds.pendingCount, ← Nat.mul_succ]
    exact fresh
  rcases all_due rounds.traced (by decide) left (fun _ _ found => rounds.due few found) with
    ⟨after, sent, answer, counted, kept, ids, records⟩
  have performs := retransmit_performs sender ⟨(round + 1) * 1000000000⟩
  rw [answer] at performs
  have before {other : Nat} {record : Record PendingItem}
      (found : after.pending.record? other = some record) :
      ∃ older, sender.pending.record? other = some older ∧
        record = again ⟨(round + 1) * 1000000000⟩ (ids other) older := by
    rw [records] at found
    rcases Option.map_eq_some_iff.mp found with ⟨older, there, rfl⟩
    exact ⟨older, there, rfl⟩
  simp only [call, step, answer]
  constructor
  · rw [itemsSent_append, transmitted_append]
    exact rounds.traced.performs (by decide) performs
  · rw [itemsSent_append, itemsSent_resent, List.append_nil]
    exact rounds.length_items
  · rw [transmitted_append, transmitted_resent, List.length_append, rounds.length_transmitted,
      counted, rounds.pendingCount, ← Nat.mul_succ]
  · have unresolved : (sent.map Output.resent ++
        ([] : List SendEvent).map Output.resolved).filterMap Output.event? = [] := by
      rw [List.filterMap_append, filterMap_event?_resent]
      rfl
    rw [performs.pendingCount_eq unresolved, itemsSent_resent, rounds.pendingCount]
    rfl
  · intro other record found
    rcases before found with ⟨older, there, rfl⟩
    exact ⟨rfl, congrArg (· + 1) (rounds.pending there).2⟩
  · rcases rounds.first with ⟨record, found, item, head, counted⟩
    refine ⟨again ⟨(round + 1) * 1000000000⟩ (ids slot) record, ?_, item, ?_, ?_⟩
    · rw [records, found]
      rfl
    · simp [again, head]
    · simp [again, counted]
  · intro other record found apart
    rcases before found with ⟨older, there, rfl⟩
    have kept := rounds.others there apart
    exact kept
  · exact kept.trans rounds.roundTrip

theorem retransmits (rounds : Rounds sender past slot count 0) (more : Nat) (few : more ≤ 64)
    (fresh : count * (more + 1) ≤ SeqId.space) :
    Rounds (Transition.run step sender (Sender.rounds more)).1
      (past ++ (Transition.run step sender (Sender.rounds more)).2) slot count more := by
  induction more with
  | zero =>
      rw [Sender.rounds, List.range_zero, List.map_nil, Transition.run_nil, List.append_nil]
      exact rounds
  | succ more ih =>
      have enough : count * (more + 1) ≤ SeqId.space :=
        Nat.le_trans (Nat.mul_le_mul_left count (Nat.le_succ _)) fresh
      have last := (ih (by omega) enough).retransmit few fresh
      rw [rounds_succ, Transition.run_append, Transition.run_cons, Transition.run_nil,
        List.append_nil, ← List.append_assoc]
      exact last

theorem oldestFirst_eq (rounds : Rounds sender past slot count round)
    (few : count < SeqId.space) : ∃ rest, sender.oldestFirst = slot :: rest := by
  have next : sender.nextDataId = (SeqId.ofNat 0).advance count := by
    rw [rounds.traced.nextDataId, rounds.length_items]
    rfl
  rcases rounds.first with ⟨record, found, item, _⟩
  apply oldestFirst_eq_cons found
  intro other younger there apart
  rcases List.mem_iff_getElem?.mp (rounds.traced.records there).item with ⟨index, listed⟩
  have inside := (List.getElem?_eq_some_iff.mp listed).1
  have place : younger.primary = (SeqId.ofNat 0).advance index :=
    rounds.traced.numbered listed
  have positive : index ≠ 0 := by
    rintro rfl
    exact rounds.others there apart (place.trans (SeqId.advance_zero _))
  rw [rounds.length_items] at inside
  rw [age, age, next, item, place, SeqId.distanceTo_advance_of_lt _ few,
    SeqId.distanceTo_between _ (Nat.le_of_lt inside) (Nat.lt_of_le_of_lt (Nat.sub_le _ _) few)]
  omega

/-- After the first round the first id is not the latest one of its item. -/
theorem buries (rounds : Rounds sender past slot count (round + 1)) :
    ∃ record, sender.pending.record? slot = some record ∧ record.Buries (.ofNat 0) := by
  rcases rounds.first with ⟨record, found, _, head, counted⟩
  have distinct := rounds.traced.agrees.nodup found
  refine ⟨record, found, List.mem_of_head? head, ?_⟩
  rw [Record.latest?]
  cases keys : record.keys with
  | nil =>
      rw [keys] at head
      cases head
  | cons first later =>
      rw [keys] at head counted distinct
      cases head
      cases later with
      | nil => cases counted
      | cons second rest =>
          rw [List.getLast?_cons_cons]
          intro last
          exact (List.nodup_cons.mp distinct).1 (List.mem_of_getLast? last)

end Rounds

/-- A queue that fills up starts the first round. -/
theorem rounds_filling {count : Nat} (positive : 0 < count) (few : count ≤ patient.queueLimit) :
    ∃ slot, Rounds (Transition.run step (start patient) (filling count)).1
      (Transition.run step (start patient) (filling count)).2 slot count 0 := by
  have vacancy : (start patient).pendingCount < patient.queueLimit :=
    Nat.lt_of_le_of_lt (Nat.zero_le _) (by decide : 0 < patient.queueLimit)
  have fits : ([] : Payload).length ≤ Capacity.payloadBytes := Nat.zero_le _
  rcases send_of_room Table.agrees_empty vacancy fits (Table.holder?_empty _) ⟨0⟩ with
    ⟨pending, accepted, records⟩
  have performs := send_performs accepted
  have only {slot : Nat} {record : Record PendingItem}
      (found : pending.record? slot = some record) :
      slot = (start patient).pending.freshSlot ∧
        record = ⟨.ofNat 0, [.ofNat 0], ⟨0⟩, ⟨[], 0, ⟨0⟩⟩⟩ := by
    rw [records] at found
    split at found
    · next here => exact ⟨here, (Option.some.inj found).symm⟩
    · simp [start, Table.record?_empty] at found
  have first : Rounds (step (start patient) (.send [] ⟨0⟩)).1
      (step (start patient) (.send [] ⟨0⟩)).2 (start patient).pending.freshSlot 1 0 := by
    simp only [step, accepted]
    constructor
    · exact (traced_start patient).performs (by decide) performs
    · rw [itemsSent_sent]
      rfl
    · rw [transmitted_sent]
      rfl
    · rw [performs.pendingCount_eq rfl, itemsSent_sent]
      rfl
    · intro other record found
      rcases only found with ⟨_, rfl⟩
      exact ⟨rfl, rfl⟩
    · exact ⟨_, (records _).trans (if_pos rfl), rfl, rfl, rfl⟩
    · intro other record found apart
      exact absurd (only found).1 apart
    · rfl
  refine ⟨(start patient).pending.freshSlot, ?_⟩
  rcases Nat.exists_eq_succ_of_ne_zero (Nat.ne_of_gt positive) with ⟨more, rfl⟩
  have all := first.sends Nat.zero_lt_one more (by omega)
  rw [Nat.add_comm 1 more] at all
  rw [filling, List.replicate_succ, Transition.run_cons]
  exact all

theorem rounds_reached {count more : Nat} (positive : 0 < count)
    (room : count ≤ patient.queueLimit) (few : more ≤ 64)
    (fresh : count * (more + 1) ≤ SeqId.space) :
    ∃ slot, Rounds (reached patient (filling count ++ rounds more))
      (Transition.run step (start patient) (filling count ++ rounds more)).2 slot count more := by
  rcases rounds_filling positive room with ⟨slot, filled⟩
  rw [reached, Transition.run_append]
  exact ⟨slot, filled.retransmits more few fresh⟩

theorem getElem?_transmitted_concat (config : Config) (calls : List Call) (last : Call) :
    (transmitted (Transition.run step (start config) (calls ++ [last])).2)[
        (transmitted (Transition.run step (start config) calls).2).length]? =
      (transmitted (step (reached config calls) last).2).head? := by
  rw [Transition.outputs_concat, transmitted_append, List.getElem?_append_right (Nat.le_refl _),
    Nat.sub_self, List.head?_eq_getElem?]
  rfl

/-- When the rounds have used up the ids, the first id is drawn again, for the oldest item.
This item was filed under it before and does not list it last. -/
theorem drawn_again {count more last : Nat} (positive : 0 < count)
    (room : count ≤ patient.queueLimit) (few : last < 64) (follows : last = more + 1)
    (complete : count * (last + 1) = SeqId.space) :
    ∃ segment, (transmitted (Transition.run step (start patient)
        (filling count ++ rounds (last + 1))).2)[SeqId.space]? = some segment ∧
      .ofNat 0 ∈ segment.transmissionIds ∧ segment.latest? ≠ some (.ofNat 0) := by
  rcases rounds_reached positive room (Nat.le_of_lt few) (Nat.le_of_eq complete) with
    ⟨slot, rounds⟩
  have short : count < SeqId.space := Nat.lt_of_le_of_lt room (by decide)
  rcases rounds.oldestFirst_eq short with ⟨rest, oldest⟩
  have buries : ∃ record, (reached patient (filling count ++ Sender.rounds last)).pending.record?
      slot = some record ∧ record.Buries (.ofNat 0) := by
    subst follows
    exact rounds.buries
  rcases buries with ⟨record, found, buried⟩
  have next := rounds.traced.nextTransmissionId
  have drawn := rounds.length_transmitted.trans complete
  rw [drawn, SeqId.advance_space] at next
  have head := head?_transmitted_of_held rounds.traced.agrees found oldest
    (rounds.due few found) (next ▸ buried.1)
  refine ⟨⟨record.primary, record.keys, record.value.payload⟩, ?_, buried.1, buried.2⟩
  have place := getElem?_transmitted_concat patient (filling count ++ Sender.rounds last)
    (.retransmit ⟨(last + 1) * 1000000000⟩)
  rw [rounds_succ, ← List.append_assoc]
  rw [drawn] at place
  exact place.trans head

/-- When 1024 items went out in 64 rounds, the id for the next transmission is the first one
again.  The oldest item goes out under it, but was filed under it before and lists it first. -/
theorem drawn_again_not_latest :
    patient.validate = .ok () ∧
      ∃ segment, (transmitted (Transition.run step (start patient)
          (filling 1024 ++ rounds 64)).2)[SeqId.space]? = some segment ∧
        patient.initialTransmissionId.advance SeqId.space ∈ segment.transmissionIds ∧
        segment.latest? ≠ some (patient.initialTransmissionId.advance SeqId.space) := by
  rw [SeqId.advance_space]
  have positive : 0 < 1024 := by decide
  have last : 64 = 63 + 1 := rfl
  rw [last]
  exact ⟨by decide, drawn_again positive (by decide) (by decide) rfl (by decide)⟩

end Sender

end ReliableDatagram
