import ReliableDatagram.Proofs.Receiver.Receipts

/-!
# Receivers of numbered items

A receiver follows a sender whose items, fewer than half the space, are numbered one after
the other (`Follows`).  Then its cursor counts items, and an arrived item was announced or
else missed: skipped before its first copy arrived.  Each unit keeps this up
(`Follows.ingestUnit`).
-/

namespace ReliableDatagram

namespace Receiver

variable {config : Config} {receiver : Receiver config}

/-! ## Numbered items -/

/-- Whether items have the ids that a sender gives out one after the other. -/
def Numbered (config : Config) (items : List Delivery) : Prop :=
  ∀ {index : Nat} {item : Delivery}, items[index]? = some item →
    item.dataId = config.initialDataId.advance index

theorem Numbered.unique {items : List Delivery} (numbered : Numbered config items)
    (few : items.length < SeqId.halfSpace) {left right : Delivery} (leftMem : left ∈ items)
    (rightMem : right ∈ items) (same : left.dataId = right.dataId) : left = right := by
  rcases List.mem_iff_getElem?.mp leftMem with ⟨first, leftFound⟩
  rcases List.mem_iff_getElem?.mp rightMem with ⟨second, rightFound⟩
  have firstLt := (List.getElem?_eq_some_iff.mp leftFound).1
  have secondLt := (List.getElem?_eq_some_iff.mp rightFound).1
  rw [numbered leftFound, numbered rightFound] at same
  have equal := SeqId.advance_injective
    (Nat.lt_trans firstLt (Nat.lt_trans few (by decide)))
    (Nat.lt_trans secondLt (Nat.lt_trans few (by decide))) same
  rw [equal, rightFound] at leftFound
  exact (Option.some.inj leftFound).symm

/-- What a receiver knows of numbered items when its cursor has passed some of them. -/
structure Follows (receiver : Receiver config) (items : List Delivery)
    (arrived : List Segment) (seen : List Delivery) (missed : SeqId → Prop)
    (passed : Nat) : Prop where
  orderly : receiver.Orderly
  cursor : receiver.cursor = config.initialDataId.previous.advance passed
  passed_le : passed ≤ items.length
  seen_subset : seen ⊆ items
  noted : Backed (fun id => ∃ item ∈ seen, item.dataId = id) receiver.items
  waiting : ∀ {delivery}, receiver.Waits delivery → delivery ∈ seen
  behind : ∀ {index : Nat} {item : Delivery}, index < passed → items[index]? = some item →
    item ∈ seen ∨ missed item.dataId
  settled : ∀ segment ∈ arrived,
    ⟨segment.dataId, segment.payload⟩ ∈ seen ∨ missed segment.dataId

theorem follows_start (config : Config) (missed : SeqId → Prop) :
    Follows (start config) [] [] [] missed 0 where
  orderly := orderly_start config
  cursor := (SeqId.advance_zero _).symm
  passed_le := Nat.le_refl 0
  seen_subset := List.Subset.refl []
  noted := nofun
  waiting {delivery} waits := by simp [Waits, start] at waits
  behind {index item} less := nomatch less
  settled := nofun

theorem Follows.congr {other : Receiver config} {items : List Delivery}
    {arrived : List Segment} {seen : List Delivery} {missed : SeqId → Prop} {passed : Nat}
    (follows : Follows receiver items arrived seen missed passed)
    (cursor : other.cursor = receiver.cursor) (noted : other.items = receiver.items)
    (buffer : other.buffer = receiver.buffer) :
    Follows other items arrived seen missed passed where
  orderly := follows.orderly.congr cursor buffer
  cursor := cursor.trans follows.cursor
  passed_le := follows.passed_le
  seen_subset := follows.seen_subset
  noted := noted ▸ follows.noted
  waiting {delivery} waits := by
    rw [Waits, buffer] at waits
    exact follows.waiting waits
  behind := follows.behind
  settled := follows.settled

namespace Follows

variable {items : List Delivery} {arrived : List Segment} {seen : List Delivery}
  {missed : SeqId → Prop} {passed : Nat}

/-! ## Positions of items -/

theorem dataId_eq (numbered : Numbered config items) {index : Nat} {item : Delivery}
    (found : items[index]? = some item) :
    item.dataId = config.initialDataId.previous.advance (index + 1) := by
  rw [numbered found, Nat.add_comm, ← SeqId.advance_advance]
  exact congrArg (SeqId.advance · index) (SeqId.previous_next _).symm

/-- An item that was not passed lies as far ahead as it has unpassed predecessors. -/
theorem distanceTo_item (follows : Follows receiver items arrived seen missed passed)
    (numbered : Numbered config items) (few : items.length < SeqId.halfSpace) {index : Nat}
    {item : Delivery} (found : items[index]? = some item) (unpassed : passed ≤ index) :
    receiver.cursor.distanceTo item.dataId + passed = index + 1 := by
  have inside := (List.getElem?_eq_some_iff.mp found).1
  have ordered : passed ≤ index + 1 := Nat.le_succ_of_le unpassed
  rw [follows.cursor, dataId_eq numbered found, SeqId.distanceTo_between _ ordered]
  · exact Nat.sub_add_cancel ordered
  · simp only [SeqId.halfSpace, SeqId.space] at *
    omega

theorem isAhead_iff (follows : Follows receiver items arrived seen missed passed)
    (numbered : Numbered config items) (few : items.length < SeqId.halfSpace) {index : Nat}
    {item : Delivery} (found : items[index]? = some item) :
    receiver.IsAhead item.dataId ↔ passed ≤ index := by
  have inside := (List.getElem?_eq_some_iff.mp found).1
  have within := follows.passed_le
  constructor
  · intro ahead
    apply Nat.le_of_not_lt
    intro earlier
    have back : item.dataId.distanceTo receiver.cursor = passed - (index + 1) := by
      rw [follows.cursor, dataId_eq numbered found]
      apply SeqId.distanceTo_between _ earlier
      simp only [SeqId.halfSpace, SeqId.space] at *
      omega
    have swap := SeqId.distanceTo_comm receiver.cursor item.dataId
    rcases ahead with ⟨positive, near⟩
    simp only [SeqId.halfSpace, SeqId.space] at *
    omega
  · intro unpassed
    have distance := follows.distanceTo_item numbered few found unpassed
    constructor
    · omega
    · omega

/-- No item lies farther ahead than there are items left. -/
theorem distanceTo_add_le (follows : Follows receiver items arrived seen missed passed)
    (numbered : Numbered config items) (few : items.length < SeqId.halfSpace)
    {item : Delivery} (member : item ∈ items) (ahead : receiver.IsAhead item.dataId) :
    receiver.cursor.distanceTo item.dataId + passed ≤ items.length := by
  rcases List.mem_iff_getElem?.mp member with ⟨index, found⟩
  have unpassed := (follows.isAhead_iff numbered few found).mp ahead
  rw [follows.distanceTo_item numbered few found unpassed]
  exact (List.getElem?_eq_some_iff.mp found).1

/-! ## New items and new losses -/

theorem append (follows : Follows receiver items arrived seen missed passed)
    (more : List Delivery) :
    Follows receiver (items ++ more) arrived seen missed passed where
  orderly := follows.orderly
  cursor := follows.cursor
  passed_le := Nat.le_trans follows.passed_le (List.length_append ▸ Nat.le_add_right _ _)
  seen_subset := List.subset_append_of_subset_left more follows.seen_subset
  noted := follows.noted
  waiting := follows.waiting
  behind {index item} less found := by
    rw [List.getElem?_append_left (Nat.lt_of_lt_of_le less follows.passed_le)] at found
    exact follows.behind less found
  settled := follows.settled

theorem mono {more : SeqId → Prop}
    (follows : Follows receiver items arrived seen missed passed)
    (weaker : ∀ id, missed id → more id) :
    Follows receiver items arrived seen more passed where
  orderly := follows.orderly
  cursor := follows.cursor
  passed_le := follows.passed_le
  seen_subset := follows.seen_subset
  noted := follows.noted
  waiting := follows.waiting
  behind less found := (follows.behind less found).imp_right (weaker _)
  settled segment member := (follows.settled segment member).imp_right (weaker _)

/-! ## Arrival -/

theorem seen_of_same_id (follows : Follows receiver items arrived seen missed passed)
    (numbered : Numbered config items) (few : items.length < SeqId.halfSpace)
    {item other : Delivery} (member : item ∈ items) (known : other ∈ seen)
    (same : other.dataId = item.dataId) : item ∈ seen := by
  rwa [← numbered.unique few (follows.seen_subset known) member same]

theorem seen_of_waits (follows : Follows receiver items arrived seen missed passed)
    (numbered : Numbered config items) (few : items.length < SeqId.halfSpace)
    {item delivery : Delivery} (member : item ∈ items)
    (waits : receiver.buffer[item.dataId]? = some delivery) : item ∈ seen := by
  have named := follows.orderly.named waits
  rw [← named] at waits
  have known : delivery ∈ seen := follows.waiting waits
  exact follows.seen_of_same_id numbered few member known named

/-- An item is dropped for one of three reasons: it was passed, it is remembered, or it
waits. -/
theorem settled_of_isDuplicate (follows : Follows receiver items arrived seen missed passed)
    (numbered : Numbered config items) (few : items.length < SeqId.halfSpace)
    {item : Delivery} (member : item ∈ items)
    (dropped : receiver.isDuplicate item.dataId = true) :
    item ∈ seen ∨ missed item.dataId := by
  rcases List.mem_iff_getElem?.mp member with ⟨index, found⟩
  rcases Nat.lt_or_ge index passed with earlier | unpassed
  · exact follows.behind earlier found
  · have ahead := (follows.isAhead_iff numbered few found).mpr unpassed
    left
    cases remembered : receiver.items.any (·.contains item.dataId) with
    | true =>
        rcases (Option.any_eq_true _ _).mp remembered with ⟨window, noted, contained⟩
        have observed := ReceiptWindow.mem_observed_of_contains contained
        rcases (follows.noted window noted).2 _ observed with ⟨other, known, same⟩
        exact follows.seen_of_same_id numbered few member known same
    | false =>
        cases waits : receiver.buffer[item.dataId]? with
        | some delivery => exact follows.seen_of_waits numbered few member waits
        | none =>
            have fresh := isDuplicate_eq_false_iff.mpr ⟨ahead, remembered, waits⟩
            cases dropped.symm.trans fresh

theorem ingest (follows : Follows receiver items arrived seen missed passed)
    (numbered : Numbered config items) (few : items.length < SeqId.halfSpace)
    {segment : Segment} (member : ⟨segment.dataId, segment.payload⟩ ∈ items) :
    Follows (ingest receiver segment).1 items (arrived ++ [segment])
      (seen ++ (Receiver.ingest receiver segment).2) missed passed := by
  have orderly := follows.orderly.ingest segment
  rcases ingest_cases receiver segment with
    ⟨dropped, outputs, cursor, noted, buffer⟩ | ⟨fresh, outputs, cursor, noted, buffer⟩
  · rw [outputs, List.append_nil]
    refine ⟨orderly, cursor.trans follows.cursor, follows.passed_le, follows.seen_subset,
      noted ▸ follows.noted, ?_, follows.behind, ?_⟩
    · intro delivery waits
      rw [Waits, buffer] at waits
      exact follows.waiting waits
    · intro other listed
      rcases List.mem_append.mp listed with older | newest
      · exact follows.settled other older
      · rw [List.mem_singleton.mp newest]
        exact follows.settled_of_isDuplicate numbered few member dropped
  · rw [outputs]
    have absent := (isDuplicate_eq_false_iff.mp fresh).2.2
    have older := List.subset_append_left seen [⟨segment.dataId, segment.payload⟩]
    have newest : ⟨segment.dataId, segment.payload⟩ ∈
        seen ++ [⟨segment.dataId, segment.payload⟩] := by simp
    refine ⟨orderly, cursor.trans follows.cursor, follows.passed_le, ?_, ?_, ?_, ?_, ?_⟩
    · apply List.append_subset.mpr
      exact ⟨follows.seen_subset, List.cons_subset.mpr ⟨member, List.nil_subset _⟩⟩
    · rw [noted]
      apply Backed.note
      · apply follows.noted.mono
        rintro id ⟨item, known, same⟩
        exact ⟨item, older known, same⟩
      · exact ⟨_, newest, rfl⟩
    · intro delivery waits
      rcases (waits_insert_iff ⟨segment.dataId, segment.payload⟩ absent buffer).mp waits
        with before | rfl
      · exact older (follows.waiting before)
      · exact newest
    · intro index item less found
      exact (follows.behind less found).imp_left fun known => older known
    · intro other listed
      rcases List.mem_append.mp listed with before | now
      · exact (follows.settled other before).imp_left fun known => older known
      · rw [List.mem_singleton.mp now]
        exact .inl newest

theorem run_ingest (follows : Follows receiver items arrived seen missed passed)
    (numbered : Numbered config items) (few : items.length < SeqId.halfSpace)
    {segments : List Segment}
    (members : ∀ segment ∈ segments, ⟨segment.dataId, segment.payload⟩ ∈ items) :
    Follows (Transition.run Receiver.ingest receiver segments).1 items (arrived ++ segments)
      (seen ++ (Transition.run Receiver.ingest receiver segments).2) missed passed := by
  induction segments generalizing receiver arrived seen with
  | nil => simpa using follows
  | cons segment rest ih =>
      rcases List.forall_mem_cons.mp members with ⟨first, later⟩
      rw [Transition.run_cons, ← List.singleton_append, ← List.append_assoc,
        ← List.append_assoc]
      exact ih (follows.ingest numbered few first) later

/-! ## Delivery in order -/

theorem seen_of_newest (follows : Follows receiver items arrived seen missed passed)
    {highest : SeqId} (newest : receiver.highestDataId = some highest) :
    ∃ item ∈ seen, item.dataId = highest := by
  rcases Option.map_eq_some_iff.mp newest with ⟨window, found, rfl⟩
  rcases follows.noted window found with ⟨anchored, observed⟩
  exact observed _ (ReceiptWindow.anchor_mem_observed anchored)

/-- The cursor does not pass the last item, for its way ends at an item that was seen or short
of one: the last item that is ready waits, and a skip stops before the newest item. -/
theorem passed_add_le (follows : Follows receiver items arrived seen missed passed)
    (numbered : Numbered config items) (few : items.length < SeqId.halfSpace) {ready : Nat}
    (within : receiver.skipped + ready < SeqId.halfSpace)
    (consecutive : ∀ steps, receiver.skipped < steps → steps ≤ receiver.skipped + ready →
      ∃ delivery, receiver.buffer[receiver.cursor.advance steps]? = some delivery) :
    passed + (receiver.skipped + ready) ≤ items.length := by
  have start := follows.passed_le
  cases ready with
  | succ ready =>
      rcases consecutive (receiver.skipped + (ready + 1)) (by omega)
          (Nat.le_refl _) with ⟨delivery, found⟩
      have named := follows.orderly.named found
      have ahead := follows.orderly.ahead found
      rw [← named] at found ahead
      have bound := follows.distanceTo_add_le numbered few
        (follows.seen_subset (follows.waiting found)) ahead
      rw [named, SeqId.distanceTo_advance_of_lt _ (Nat.lt_trans within (by decide))] at bound
      omega
  | zero =>
      cases due : receiver.skipTarget? with
      | none =>
          have none : receiver.skipped = 0 := by simp [skipped, due]
          omega
      | some target =>
          rcases skipTarget?_eq_some due with ⟨_, highest, newest, ahead, distance⟩
          rcases follows.seen_of_newest newest with ⟨item, known, rfl⟩
          have bound := follows.distanceTo_add_le numbered few (follows.seen_subset known) ahead
          have passes : receiver.skipped = receiver.cursor.distanceTo target := by
            simp [skipped, due]
          omega

/-- The items on the way of the cursor were seen, or missed already, or the skip passes them
before a copy of them arrived. -/
theorem advance {more : SeqId → Prop} {after : Receiver config} {delivered : List Delivery}
    {ready : Nat} (follows : Follows receiver items arrived seen missed passed)
    (numbered : Numbered config items) (few : items.length < SeqId.halfSpace)
    (weaker : ∀ id, missed id → more id)
    (lost : ∀ id, 0 < receiver.cursor.distanceTo id →
      receiver.cursor.distanceTo id ≤ receiver.skipped →
      (∀ segment ∈ arrived, segment.dataId ≠ id) → more id)
    (advances : Advances receiver (receiver.skipped + ready) after delivered)
    (consecutive : ∀ steps, receiver.skipped < steps → steps ≤ receiver.skipped + ready →
      ∃ delivery, receiver.buffer[receiver.cursor.advance steps]? = some delivery) :
    Follows after items arrived seen more (passed + (receiver.skipped + ready)) := by
  have bound := follows.passed_add_le numbered few advances.steps_lt consecutive
  refine ⟨advances.orderly follows.orderly, ?_, bound, follows.seen_subset,
    advances.items ▸ follows.noted, ?_, ?_, ?_⟩
  · rw [advances.cursor, follows.cursor, SeqId.advance_advance]
  · intro delivery waits
    exact follows.waiting ((advances.waits_iff delivery).mp waits).1
  · intro index item less found
    rcases Nat.lt_or_ge index passed with earlier | unpassed
    · exact (follows.behind earlier found).imp_right (weaker _)
    · have distance := follows.distanceTo_item numbered few found unpassed
      have member := List.mem_of_getElem? found
      rcases Nat.lt_or_ge receiver.skipped (receiver.cursor.distanceTo item.dataId)
        with beyond | within
      · rcases consecutive _ beyond (by omega) with ⟨delivery, waits⟩
        rw [SeqId.advance_distanceTo] at waits
        exact .inl (follows.seen_of_waits numbered few member waits)
      · cases Classical.em (∃ segment ∈ arrived, segment.dataId = item.dataId) with
        | inl copied =>
            rcases copied with ⟨segment, copy, same⟩
            rcases follows.settled segment copy with known | gone
            · exact .inl (follows.seen_of_same_id numbered few member known same)
            · exact .inr (weaker _ (same ▸ gone))
        | inr unseen =>
            right
            apply lost _ (by omega) within
            intro segment copy same
            exact unseen ⟨segment, copy, same⟩
  · intro segment copy
    exact (follows.settled segment copy).imp_right (weaker _)

theorem deliverOrdered {more : SeqId → Prop}
    (follows : Follows receiver items arrived seen missed passed)
    (numbered : Numbered config items) (few : items.length < SeqId.halfSpace)
    (weaker : ∀ id, missed id → more id)
    (lost : ∀ id, 0 < receiver.cursor.distanceTo id →
      receiver.cursor.distanceTo id ≤ receiver.skipped →
      (∀ segment ∈ arrived, segment.dataId ≠ id) → more id) :
    ∃ after, Follows receiver.deliverOrdered.1 items arrived seen more after := by
  rcases deliverOrdered_advances follows.orderly with ⟨ready, advances, consecutive⟩
  exact ⟨_, follows.advance numbered few weaker lost advances consecutive⟩

/-! ## Units -/

theorem ingestUnit {unit : WireUnit} {more : SeqId → Prop}
    (follows : Follows receiver items arrived seen missed passed)
    (numbered : Numbered config items) (few : items.length < SeqId.halfSpace)
    (members : ∀ segment ∈ unit.segments, ⟨segment.dataId, segment.payload⟩ ∈ items)
    (weaker : ∀ id, missed id → more id)
    (lost : ∀ id, 0 < receiver.cursor.distanceTo id →
      receiver.cursor.distanceTo id ≤ (receiver.gather unit).1.skipped →
      (∀ segment ∈ arrived ++ unit.segments, segment.dataId ≠ id) → more id) :
    ∃ after, Follows (receiver.ingestUnit unit).1 items (arrived ++ unit.segments)
      (seen ++ (receiver.gather unit).2) more after := by
  have counted : Follows receiver.counted items arrived seen missed passed :=
    follows.congr rfl rfl rfl
  have gathered := counted.run_ingest numbered few members
  apply gathered.deliverOrdered numbered few weaker
  rw [cursor_run_ingest]
  exact lost

end Follows

end Receiver

end ReliableDatagram
