import ReliableDatagram.Proofs.Sender.Acknowledging
import ReliableDatagram.Proofs.Sender.Sending

/-!
# The walk of a retransmission

A retransmission walks over the slots that were in use at its start, in the order of the ages
(`queue`).  What it does in one slot may change others, but while the ids that it draws are not
in use it does not: what becomes of an item depends on its record and on the next id alone
(`fate`), and the walk does what the table of these fates says (`handled_retransmit`).
-/

namespace ReliableDatagram

namespace Sender

variable {config : Config} {sender after : Sender config}

/-! ## The order of the visits -/

theorem mem_oldestFirst {slot : Nat} {record : Record PendingItem}
    (found : sender.pending.record? slot = some record) : slot ∈ sender.oldestFirst := by
  have member : (sender.age record.primary, slot) ∈
      sender.pending.toList.map fun entry => (sender.age entry.2.primary, entry.1) :=
    List.mem_map.mpr ⟨(slot, record), Arena.mem_toList.mpr found, rfl⟩
  exact List.mem_map.mpr ⟨_, List.mem_mergeSort.mpr member, rfl⟩

theorem mem_oldestFirst_iff {slot : Nat} :
    slot ∈ sender.oldestFirst ↔ ∃ record, sender.pending.record? slot = some record := by
  constructor
  · intro member
    rcases List.mem_map.mp member with ⟨_, sorted, rfl⟩
    rcases List.mem_map.mp (List.mem_mergeSort.mp sorted) with ⟨entry, listed, rfl⟩
    exact ⟨entry.2, Arena.mem_toList.mp listed⟩
  · intro condition
    rcases condition with ⟨record, found⟩
    exact mem_oldestFirst found

theorem nodup_oldestFirst (sender : Sender config) : sender.oldestFirst.Nodup := by
  have slots : (sender.pending.toList.map (·.1)).Nodup :=
    List.pairwise_map.mpr (Arena.pairwise_toList sender.pending.records)
  have order := (List.mergeSort_perm
    (sender.pending.toList.map fun entry => (sender.age entry.2.primary, entry.1))
    fun left right => right.1 ≤ left.1).map Prod.snd
  rw [List.map_map] at order
  exact order.nodup_iff.mpr slots

theorem length_oldestFirst (sender : Sender config) :
    sender.oldestFirst.length = sender.pendingCount := by
  rw [oldestFirst, List.length_map, List.length_mergeSort, List.length_map, Table.length_toList]
  rfl

/-- The pending items with their slots in the order of the visits. -/
def queue (sender : Sender config) : List (Nat × Record PendingItem) :=
  sender.oldestFirst.filterMap fun slot => (sender.pending.record? slot).map (slot, ·)

theorem mem_queue_iff {slot : Nat} {record : Record PendingItem} :
    (slot, record) ∈ sender.queue ↔ sender.pending.record? slot = some record := by
  constructor
  · intro member
    obtain ⟨place, _, listed⟩ := List.mem_filterMap.mp member
    obtain ⟨_, found, same⟩ := Option.map_eq_some_iff.mp listed
    cases same
    exact found
  · intro found
    exact List.mem_filterMap.mpr ⟨slot, mem_oldestFirst found, congrArg (Option.map _) found⟩

theorem map_fst_queue (sender : Sender config) :
    sender.queue.map Prod.fst = sender.oldestFirst := by
  have present : ∀ slot ∈ sender.oldestFirst,
      ((sender.pending.record? slot).map (slot, ·)).map Prod.fst = some slot := by
    intro slot member
    obtain ⟨record, found⟩ := mem_oldestFirst_iff.mp member
    rw [found]
    rfl
  rw [queue, List.map_filterMap, List.filterMap_congr present, List.filterMap_some]

theorem length_queue (sender : Sender config) : sender.queue.length = sender.pendingCount := by
  rw [← length_oldestFirst, ← map_fst_queue, List.length_map]

theorem ordered_queue (sender : Sender config) :
    sender.queue.Pairwise fun older newer =>
      sender.age newer.2.primary ≤ sender.age older.2.primary := by
  let aged := sender.pending.toList.map fun entry => (sender.age entry.2.primary, entry.1)
  let ahead (left right : Nat × Nat) : Bool := right.1 ≤ left.1
  have sorted : (aged.mergeSort ahead).Pairwise fun left right => ahead left right := by
    apply List.pairwise_mergeSort
    · intro first second third
      simp only [ahead, decide_eq_true_eq]
      omega
    · intro first second
      simp only [ahead, Bool.or_eq_true, decide_eq_true_eq]
      omega
  have ages : ∀ left ∈ aged.mergeSort ahead, ∀ entry,
      (sender.pending.record? left.2).map (left.2, ·) = some entry →
        sender.age entry.2.primary = left.1 := by
    intro left member entry listed
    obtain ⟨stored, held, rfl⟩ := List.mem_map.mp (List.mem_mergeSort.mp member)
    have found : sender.pending.record? stored.1 = some stored.2 := Arena.mem_toList.mp held
    rw [found] at listed
    cases listed
    rfl
  have order : sender.queue = (aged.mergeSort ahead).filterMap fun left =>
      (sender.pending.record? left.2).map (left.2, ·) := List.filterMap_map
  rw [order, List.pairwise_filterMap]
  refine sorted.imp_of_mem ?_
  intro left right leftMem rightMem before older leftListed newer rightListed
  rw [ages left leftMem older leftListed, ages right rightMem newer rightListed]
  exact of_decide_eq_true before

/-! ## Visits -/

/-- What is to be done with a pending item. -/
inductive Verdict where
  | giveUp (reason : GiveUpReason)
  | wait
  | resend

/-- What is to be done with a pending item: it may be too old, it may have to wait, and it may
have been sent too often. -/
def verdict (config : Config) (timeout : Duration) (now : Instant)
    (record : Record PendingItem) : Verdict :=
  if config.queueTimeout.any (· ≤ now.since record.value.firstSentAt) then .giveUp .queueTimeout
  else if now.since record.touchedAt < timeout then .wait
  else if config.retransmitLimit ≤ record.value.retransmissions then .giveUp .retransmitLimit
  else .resend

/-- Whether an item that is visited goes out again. -/
structure Due (config : Config) (timeout : Duration) (now : Instant)
    (record : Record PendingItem) : Prop where
  current : config.queueTimeout.any (· ≤ now.since record.value.firstSentAt) = false
  waited : ¬ now.since record.touchedAt < timeout
  allowed : record.value.retransmissions < config.retransmitLimit

theorem verdict_eq_resend_iff {timeout : Duration} {now : Instant}
    {record : Record PendingItem} :
    verdict config timeout now record = .resend ↔ Due config timeout now record := by
  constructor
  · intro judged
    unfold verdict at judged
    split at judged
    · cases judged
    next current =>
    split at judged
    · cases judged
    next waited =>
    split at judged
    · cases judged
    next allowed =>
    exact ⟨Bool.eq_false_of_not_eq_true current, waited, Nat.lt_of_not_le allowed⟩
  · intro due
    simp [verdict, due.current, due.waited, due.allowed]

/-- The record of an item after it went out again under an id. -/
def again (now : Instant) (id : SeqId) (record : Record PendingItem) : Record PendingItem :=
  ⟨record.primary, record.keys ++ [id], now,
    { record.value with retransmissions := record.value.retransmissions + 1 }⟩

section Visit

variable {timeout : Duration} {now : Instant} {slot : Nat} {record : Record PendingItem}

theorem revisit_eq (timeout : Duration) (now : Instant)
    (found : sender.pending.record? slot = some record) :
    revisit timeout now sender slot =
      match verdict config timeout now record with
      | .giveUp reason => ((giveUp reason sender slot).1, [.inr (lossOf reason record)])
      | .wait => (sender, [])
      | .resend => sendAgain now sender slot := by
  simp only [revisit, found, verdict, giveUp_of_found found]
  by_cases old : config.queueTimeout.any (· ≤ now.since record.value.firstSentAt)
  · rw [if_pos old, if_pos old]
    rfl
  rw [if_neg old, if_neg old]
  by_cases early : now.since record.touchedAt < timeout
  · rw [if_pos early, if_pos early]
  rw [if_neg early, if_neg early]
  by_cases often : config.retransmitLimit ≤ record.value.retransmissions
  · rw [if_pos often, if_pos often]
    rfl
  · rw [if_neg often, if_neg often]

/-- While the next id is not in use, an item with room for it that goes out again takes it. -/
theorem sendAgain_of_unheld (found : sender.pending.record? slot = some record)
    (unheld : sender.pending.holder? sender.nextTransmissionId = none)
    (room : record.keys.length < Capacity.keysPerRecord) (now : Instant) :
    sendAgain now sender slot =
      ((sender.filed (sender.pending.refile sender.nextTransmissionId slot)).repeated now slot,
        [.inl ⟨record.primary, record.keys ++ [sender.nextTransmissionId],
          record.value.payload⟩]) := by
  have registered := Table.register_of_unheld unheld found room
  have filed := Table.record?_register_of_unheld unheld found registered slot
  rw [if_pos rfl] at filed
  exact sendAgain_eq_of_ok registered filed (Option.some_ne_none slot).symm now

/-- While the next id is not in use, an item that goes out again takes it and no other item
changes. -/
theorem record?_again {pending : Table PendingItem} {displaced : Option Nat}
    (unheld : sender.pending.holder? sender.nextTransmissionId = none)
    (found : sender.pending.record? slot = some record)
    (registered : sender.pending.register sender.nextTransmissionId slot =
      .ok (pending, displaced)) (now : Instant) (other : Nat) :
    ((sender.filed pending).repeated now slot).pending.record? other =
      if other = slot then some (again now sender.nextTransmissionId record)
      else sender.pending.record? other := by
  have filed := Table.record?_register_of_unheld unheld found registered
  have stored (place : Nat) : (sender.filed pending).pending.record? place = _ := filed place
  rw [record?_repeated, stored, stored, if_pos rfl]
  split
  · rfl
  · rfl

end Visit

/-! ## Fates -/

/-- What becomes of a pending item. -/
structure Fate where
  slot : Nat
  /-- What is left in the slot. -/
  left : Option (Record PendingItem)
  answer : Option (Segment ⊕ SendEvent)

/-- What becomes of a pending item if a segment of it would go out under an id. -/
def fate (config : Config) (timeout : Duration) (now : Instant) (next : SeqId)
    (entry : Nat × Record PendingItem) : Fate :=
  match verdict config timeout now entry.2 with
  | .giveUp reason => ⟨entry.1, none, some (.inr (lossOf reason entry.2))⟩
  | .wait => ⟨entry.1, some entry.2, none⟩
  | .resend =>
      ⟨entry.1, some (again now next entry.2),
        some (.inl ⟨entry.2.primary, entry.2.keys ++ [next], entry.2.value.payload⟩)⟩

theorem slot_fate (config : Config) (timeout : Duration) (now : Instant) (next : SeqId)
    (entry : Nat × Record PendingItem) : (fate config timeout now next entry).slot = entry.1 := by
  unfold fate
  split
  · rfl
  · rfl
  · rfl

/-- The fates of items one after the other.  Those that go out again take consecutive ids. -/
def judge (config : Config) (timeout : Duration) (now : Instant) :
    Transition SeqId (Nat × Record PendingItem) Fate :=
  fun next entry =>
    (match verdict config timeout now entry.2 with
      | .resend => next.next
      | _ => next,
      [fate config timeout now next entry])

/-- Whether what is done between two states are the fates of items, up to the next id. -/
structure Handled (before : Sender config) (fates : List Fate) (next : SeqId)
    (outputs : List (Segment ⊕ SendEvent)) (after : Sender config) : Prop where
  answers : outputs = fates.filterMap Fate.answer
  left : ∀ fate ∈ fates, after.pending.record? fate.slot = fate.left
  others : ∀ slot, slot ∉ fates.map Fate.slot →
    after.pending.record? slot = before.pending.record? slot
  nextTransmissionId : after.nextTransmissionId = next
  dataIds : after.dataIds = before.dataIds
  roundTrip : after.roundTrip = before.roundTrip

namespace Handled

variable {before middle last : Sender config} {next final : SeqId}
  {outputs others : List (Segment ⊕ SendEvent)} {fates more : List Fate}

theorem none (sender : Sender config) : Handled sender [] sender.nextTransmissionId [] sender where
  answers := rfl
  left := nofun
  others _ _ := rfl
  nextTransmissionId := rfl
  dataIds := rfl
  roundTrip := rfl

theorem single {fate : Fate} (answers : outputs = fate.answer.toList)
    (records : ∀ slot, last.pending.record? slot =
      if slot = fate.slot then fate.left else before.pending.record? slot)
    (nextTransmissionId : last.nextTransmissionId = next)
    (dataIds : last.dataIds = before.dataIds) (roundTrip : last.roundTrip = before.roundTrip) :
    Handled before [fate] next outputs last where
  answers := by
    rw [answers]
    cases answer : fate.answer with
    | none => simp [answer]
    | some output => simp [answer]
  left other member := by
    rw [List.mem_singleton.mp member, records, if_pos rfl]
  others slot absent := by
    rw [records, if_neg (by simpa using absent)]
  nextTransmissionId := nextTransmissionId
  dataIds := dataIds
  roundTrip := roundTrip

theorem trans (first : Handled before fates next outputs middle)
    (second : Handled middle more final others last)
    (apart : (fates.map Fate.slot).Disjoint (more.map Fate.slot)) :
    Handled before (fates ++ more) final (outputs ++ others) last where
  answers := by rw [List.filterMap_append, ← first.answers, ← second.answers]
  left fate member := by
    rcases List.mem_append.mp member with early | late
    · have absent := apart (List.mem_map_of_mem early)
      rw [second.others fate.slot absent, first.left fate early]
    · exact second.left fate late
  others slot absent := by
    rw [List.map_append, List.mem_append, not_or] at absent
    rw [second.others slot absent.2, first.others slot absent.1]
  nextTransmissionId := second.nextTransmissionId
  dataIds := second.dataIds.trans first.dataIds
  roundTrip := second.roundTrip.trans first.roundTrip

end Handled

/-! ## The walk -/

/-- Whether the next ids, as many as given, are not in use. -/
def Unused (sender : Sender config) (count : Nat) : Prop :=
  ∀ offset < count, sender.pending.holder? (sender.nextTransmissionId.advance offset) = none

theorem Unused.next {count : Nat} (unused : sender.Unused (count + 1)) :
    sender.pending.holder? sender.nextTransmissionId = none := by
  have first := unused 0 (Nat.succ_pos count)
  rwa [SeqId.advance_zero] at first

theorem Traced.unused {items : List Item} {segments : List Segment}
    (traced : Traced sender items segments) {count : Nat}
    (few : segments.length + count ≤ SeqId.space) : sender.Unused count :=
  fun _ less => traced.unheld_advance (Nat.lt_of_lt_of_le (Nat.add_lt_add_left less _) few)

section Walk

variable {timeout : Duration} {now : Instant} {slot : Nat} {record : Record PendingItem}
  {count : Nat}

theorem unused_giveUp (reason : GiveUpReason) (found : sender.pending.record? slot = some record)
    (unused : sender.Unused (count + 1)) : (giveUp reason sender slot).1.Unused count := by
  intro offset less
  rw [giveUp_of_found found]
  have free := unused offset (Nat.lt_succ_of_lt less)
  refine (Table.holder?_remove found _).trans ?_
  split
  · rfl
  · exact free

/-- Behind the id that is taken the ids stay unused, until they start over. -/
theorem unused_repeated (unused : sender.Unused (count + 1)) (few : count < SeqId.space)
    (now : Instant) (slot : Nat) :
    ((sender.filed (sender.pending.refile sender.nextTransmissionId slot)).repeated now
      slot).Unused count := by
  intro offset less
  have free := unused (offset + 1) (Nat.succ_lt_succ less)
  have apart : sender.nextTransmissionId.advance (offset + 1) ≠ sender.nextTransmissionId := by
    intro same
    rw [← SeqId.advance_zero sender.nextTransmissionId, SeqId.advance_advance] at same
    have none := SeqId.advance_injective (by omega) (by decide) same
    omega
  have next : ((sender.filed (sender.pending.refile sender.nextTransmissionId slot)).repeated now
      slot).nextTransmissionId.advance offset = sender.nextTransmissionId.advance (offset + 1) := by
    rw [Nat.add_comm, ← SeqId.advance_advance]
    rfl
  rw [next]
  refine (Table.holder?_refile _ _ _ _).trans ?_
  rw [if_neg apart]
  exact free

/-- A visit does what the fate of the item says. -/
theorem handled_revisit (room : config.retransmitLimit < Capacity.keysPerRecord)
    (timeout : Duration) (now : Instant)
    (found : sender.pending.record? slot = some record)
    (few : record.keys.length ≤ record.value.retransmissions + 1)
    (unused : sender.Unused (count + 1)) (within : count < SeqId.space) :
    Handled sender (judge config timeout now sender.nextTransmissionId (slot, record)).2
        (judge config timeout now sender.nextTransmissionId (slot, record)).1
        (revisit timeout now sender slot).2 (revisit timeout now sender slot).1 ∧
      (revisit timeout now sender slot).1.Unused count := by
  cases judged : verdict config timeout now record with
  | giveUp reason =>
      have fated : judge config timeout now sender.nextTransmissionId (slot, record) =
          (sender.nextTransmissionId, [⟨slot, none, some (.inr (lossOf reason record))⟩]) := by
        simp only [judge, fate, judged]
      have visit : revisit timeout now sender slot =
          ((giveUp reason sender slot).1, [.inr (lossOf reason record)]) := by
        rw [revisit_eq timeout now found, judged]
      have given := giveUp_of_found found reason
      rw [fated, visit]
      refine ⟨.single rfl (fun other => ?_) (congrArg (·.1.nextTransmissionId) given)
        (congrArg (·.1.dataIds) given) (congrArg (·.1.roundTrip) given),
        unused_giveUp reason found unused⟩
      rw [given]
      exact Table.record?_remove _ _ _
  | wait =>
      have fated : judge config timeout now sender.nextTransmissionId (slot, record) =
          (sender.nextTransmissionId, [⟨slot, some record, none⟩]) := by
        simp only [judge, fate, judged]
      have visit : revisit timeout now sender slot = (sender, []) := by
        rw [revisit_eq timeout now found, judged]
      rw [fated, visit]
      refine ⟨.single rfl (fun other => ?_) rfl rfl rfl, fun offset less =>
        unused offset (Nat.lt_succ_of_lt less)⟩
      split
      · next here => exact here ▸ found
      · rfl
  | resend =>
      have fated : judge config timeout now sender.nextTransmissionId (slot, record) =
          (sender.nextTransmissionId.next,
            [⟨slot, some (again now sender.nextTransmissionId record), some (.inl ⟨record.primary,
              record.keys ++ [sender.nextTransmissionId], record.value.payload⟩)⟩]) := by
        simp only [judge, fate, judged]
      have allowed := (verdict_eq_resend_iff.mp judged).allowed
      have free : record.keys.length < Capacity.keysPerRecord := by omega
      have registered := Table.register_of_unheld unused.next found free
      have visit := revisit_eq timeout now found
      rw [judged] at visit
      rw [fated, visit, sendAgain_of_unheld found unused.next free]
      exact ⟨.single rfl (record?_again unused.next found registered now) rfl rfl rfl,
        unused_repeated unused within now slot⟩

theorem map_slot_judge (timeout : Duration) (now : Instant) (next : SeqId)
    (entry : Nat × Record PendingItem) :
    (judge config timeout now next entry).2.map Fate.slot = [entry.1] :=
  congrArg ([·]) (slot_fate config timeout now next entry)

theorem map_slot_run_judge (timeout : Duration) (now : Instant) (next : SeqId)
    (order : List (Nat × Record PendingItem)) :
    (Transition.run (judge config timeout now) next order).2.map Fate.slot =
      order.map Prod.fst := by
  induction order generalizing next with
  | nil => rfl
  | cons entry rest ih =>
      rw [Transition.run_cons, List.map_append, map_slot_judge, ih]
      rfl

theorem exists_fate {next : SeqId} {order : List (Nat × Record PendingItem)} {fate : Fate}
    (member : fate ∈ (Transition.run (judge config timeout now) next order).2) :
    ∃ id, ∃ entry ∈ order, fate = Sender.fate config timeout now id entry := by
  induction order generalizing next with
  | nil => cases member
  | cons entry rest ih =>
      rw [Transition.run_cons] at member
      rcases List.mem_append.mp member with here | later
      · exact ⟨next, entry, List.mem_cons_self, List.mem_singleton.mp here⟩
      · obtain ⟨id, other, listed, same⟩ := ih later
        exact ⟨id, other, List.mem_cons_of_mem _ listed, same⟩

/-- A walk over different slots does what the fates of the items say.  A visit changes its
own slot alone, so the next ones find the records that were listed. -/
theorem handled_walk (room : config.retransmitLimit < Capacity.keysPerRecord)
    (timeout : Duration) (now : Instant) {order : List (Nat × Record PendingItem)}
    (distinct : (order.map Prod.fst).Nodup)
    (stored : ∀ entry ∈ order, sender.pending.record? entry.1 = some entry.2 ∧
      entry.2.keys.length ≤ entry.2.value.retransmissions + 1)
    (unused : sender.Unused order.length) (within : order.length ≤ SeqId.space) :
    let judged := Transition.run (judge config timeout now) sender.nextTransmissionId order
    let walk := Transition.run (revisit timeout now) sender (order.map Prod.fst)
    Handled sender judged.2 judged.1 walk.2 walk.1 := by
  induction order generalizing sender with
  | nil => exact .none sender
  | cons entry rest ih =>
      obtain ⟨slot, record⟩ := entry
      obtain ⟨absent, distinct⟩ := List.nodup_cons.mp distinct
      obtain ⟨found, few⟩ := stored _ List.mem_cons_self
      obtain ⟨first, unused⟩ := handled_revisit room timeout now found few unused within
      have later : ∀ entry ∈ rest,
          (revisit timeout now sender slot).1.pending.record? entry.1 = some entry.2 ∧
            entry.2.keys.length ≤ entry.2.value.retransmissions + 1 := by
        intro entry member
        have apart : entry.1 ∉
            (judge config timeout now sender.nextTransmissionId (slot, record)).2.map
              Fate.slot := by
          rw [map_slot_judge, List.mem_singleton]
          exact fun same => absent (same ▸ List.mem_map_of_mem member)
        rw [first.others _ apart]
        exact stored entry (List.mem_cons_of_mem _ member)
      have second := ih distinct later unused (Nat.le_of_succ_le within)
      rw [first.nextTransmissionId] at second
      simp only [List.map_cons, Transition.run_cons]
      refine first.trans second ?_
      rw [map_slot_judge, map_slot_run_judge]
      exact fun _ here there => absent (List.mem_singleton.mp here ▸ there)

theorem Handled.exists_left {now : Instant} {next : SeqId}
    {outputs : List (Segment ⊕ SendEvent)}
    (handled : Handled sender
      (Transition.run (judge config timeout now) sender.nextTransmissionId sender.queue).2
      next outputs after) (slot : Nat) :
    ∃ id, after.pending.record? slot = (sender.pending.record? slot).bind
      fun record => (fate config timeout now id (slot, record)).left := by
  have slots : (Transition.run (judge config timeout now) sender.nextTransmissionId
      sender.queue).2.map Fate.slot = sender.queue.map Prod.fst := map_slot_run_judge _ _ _ _
  cases found : sender.pending.record? slot with
  | none =>
      refine ⟨default, (handled.others slot ?_).trans found⟩
      intro listed
      rw [slots, map_fst_queue] at listed
      obtain ⟨record, there⟩ := mem_oldestFirst_iff.mp listed
      cases found.symm.trans there
  | some record =>
      have listed := mem_oldestFirst found
      rw [← map_fst_queue, ← slots] at listed
      obtain ⟨fate, member, here⟩ := List.mem_map.mp listed
      obtain ⟨id, ⟨place, stored⟩, queued, same⟩ := exists_fate member
      have left := handled.left fate member
      rw [same, slot_fate] at here
      subst here
      cases found.symm.trans (mem_queue_iff.mp queued)
      rw [same, slot_fate] at left
      exact ⟨id, left⟩

end Walk

/-- While there are enough ids that are not in use, a retransmission does what the fates of the
pending items say. -/
theorem handled_retransmit (room : config.retransmitLimit < Capacity.keysPerRecord)
    (few : ∀ {slot record}, sender.pending.record? slot = some record →
      record.keys.length ≤ record.value.retransmissions + 1)
    (unused : sender.Unused sender.pendingCount) (within : sender.pendingCount ≤ SeqId.space)
    (now : Instant) :
    let judged := Transition.run (judge config sender.timeout now) sender.nextTransmissionId
      sender.queue
    let outputs := judged.2.filterMap Fate.answer
    ∃ after, sender.retransmit now =
        (after, outputs.filterMap Sum.getLeft?, outputs.filterMap Sum.getRight?) ∧
      Handled sender judged.2 judged.1 outputs after := by
  intro judged outputs
  have distinct := nodup_oldestFirst sender
  rw [← map_fst_queue] at distinct
  have stored : ∀ entry ∈ sender.queue, sender.pending.record? entry.1 = some entry.2 ∧
      entry.2.keys.length ≤ entry.2.value.retransmissions + 1 := by
    intro entry member
    have found := mem_queue_iff.mp member
    exact ⟨found, few found⟩
  rw [← length_queue] at unused within
  have handled := handled_walk room sender.timeout now distinct stored unused within
  rw [map_fst_queue] at handled
  have same : outputs = _ := handled.answers.symm
  rw [same]
  exact ⟨_, rfl, handled⟩

end Sender

end ReliableDatagram
