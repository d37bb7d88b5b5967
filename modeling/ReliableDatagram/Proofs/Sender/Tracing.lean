import ReliableDatagram.Proofs.SeqOrder
import ReliableDatagram.Proofs.Sender.Moves

/-!
# Tracing ids back to transmissions

Every transmission id that a sender has in use was drawn for an earlier
transmission of the same item.  `Traced` says so of a sender with respect to the
items it took on and the segments it transmitted, and that the two counts
determine the ids to come.  It is kept by every call to a sender whose
retransmission limit leaves room for all ids of an item (`Traced.performs`).
-/

namespace ReliableDatagram

namespace Sender

variable {config : Config}

/-- An item with its id. -/
abbrev Item : Type := SeqId × Payload

/-- The items that a run took on, in order. -/
def itemsSent (outputs : List Output) : List Item :=
  (outputs.filterMap Output.sent?).map fun segment => (segment.dataId, segment.payload)

/-- The segments that a run transmitted, in order. -/
def transmitted (outputs : List Output) : List Segment :=
  outputs.filterMap Output.segment?

theorem itemsSent_append (outputs more : List Output) :
    itemsSent (outputs ++ more) = itemsSent outputs ++ itemsSent more := by
  simp [itemsSent, List.filterMap_append]

theorem transmitted_append (outputs more : List Output) :
    transmitted (outputs ++ more) = transmitted outputs ++ transmitted more :=
  List.filterMap_append

theorem itemsSent_resolved (events : List SendEvent) :
    itemsSent (events.map .resolved) = [] := by
  rw [itemsSent, filterMap_sent?_resolved]
  rfl

theorem transmitted_resolved (events : List SendEvent) :
    transmitted (events.map .resolved) = [] :=
  filterMap_segment?_resolved events

theorem itemsSent_sent (segment : Segment) (events : List SendEvent) :
    itemsSent (.sent segment :: events.map .resolved) =
      [(segment.dataId, segment.payload)] :=
  congrArg ((segment.dataId, segment.payload) :: ·) (itemsSent_resolved events)

theorem transmitted_sent (segment : Segment) (events : List SendEvent) :
    transmitted (.sent segment :: events.map .resolved) = [segment] :=
  congrArg (segment :: ·) (transmitted_resolved events)

theorem itemsSent_resent (segments : List Segment) (events : List SendEvent) :
    itemsSent (segments.map .resent ++ events.map .resolved) = [] := by
  rw [itemsSent_append, itemsSent_resolved, itemsSent, filterMap_sent?_resent]
  rfl

theorem transmitted_resent (segments : List Segment) (events : List SendEvent) :
    transmitted (segments.map .resent ++ events.map .resolved) = segments := by
  rw [transmitted_append, transmitted_resolved, transmitted, filterMap_segment?_resent,
    List.append_nil]

theorem length_itemsSent_le (outputs : List Output) :
    (itemsSent outputs).length ≤ (transmitted outputs).length := by
  rw [itemsSent, List.length_map]
  induction outputs with
  | nil => exact Nat.le_refl 0
  | cons output rest ih =>
      cases output with
      | sent segment => exact Nat.succ_le_succ ih
      | resent segment => exact Nat.le_succ_of_le ih
      | resolved event => exact ih

/-- Each of the ids was drawn for a transmission of the item. -/
def TracedIds (config : Config) (segments : List Segment) (item : Item)
    (ids : List SeqId) : Prop :=
  ∀ id ∈ ids, ∃ index segment, segments[index]? = some segment ∧
    id = config.initialTransmissionId.advance index ∧ (segment.dataId, segment.payload) = item

theorem TracedIds.append {segments : List Segment} {item : Item} {ids : List SeqId}
    (traced : TracedIds config segments item ids) (more : List Segment) :
    TracedIds config (segments ++ more) item ids := by
  intro id member
  rcases traced id member with ⟨index, segment, found, drawn, same⟩
  have inside := (List.getElem?_eq_some_iff.mp found).1
  exact ⟨index, segment, (List.getElem?_append_left inside).trans found, drawn, same⟩

theorem TracedIds.subset {segments : List Segment} {item : Item} {ids fewer : List SeqId}
    (traced : TracedIds config segments item ids) (subset : fewer ⊆ ids) :
    TracedIds config segments item fewer :=
  fun id member => traced id (subset member)

/-- The item of a record. -/
def itemOf (record : Record PendingItem) : Item := (record.primary, record.value.payload)

/-- What the items taken on and the segments transmitted tell about a pending item. -/
structure TracedRecord (config : Config) (items : List Item) (segments : List Segment)
    (record : Record PendingItem) : Prop where
  keys_le : record.keys.length ≤ record.value.retransmissions + 1
  retransmissions_le : record.value.retransmissions ≤ config.retransmitLimit
  item : itemOf record ∈ items
  ids : TracedIds config segments (itemOf record) record.keys

/-- What the items taken on tell about a transmitted segment. -/
structure TracedSegment (config : Config) (items : List Item) (segments : List Segment)
    (segment : Segment) : Prop where
  item : (segment.dataId, segment.payload) ∈ items
  ids : TracedIds config segments (segment.dataId, segment.payload) segment.transmissionIds

/-- What the items taken on and the segments transmitted tell about a sender. -/
structure Traced (sender : Sender config) (items : List Item) (segments : List Segment) :
    Prop where
  agrees : sender.pending.Agrees
  nextDataId : sender.nextDataId = config.initialDataId.advance items.length
  nextTransmissionId :
    sender.nextTransmissionId = config.initialTransmissionId.advance segments.length
  records : ∀ {slot record}, sender.pending.record? slot = some record →
    TracedRecord config items segments record
  numbered : ∀ {index : Nat} {item : Item}, items[index]? = some item →
    item.1 = config.initialDataId.advance index
  segments : ∀ segment ∈ segments, TracedSegment config items segments segment

theorem traced_start (config : Config) : Traced (start config) [] [] where
  agrees := Table.agrees_empty
  nextDataId := by simp [Sender.nextDataId, start, SeqId.advance]
  nextTransmissionId := by simp [Sender.nextTransmissionId, start, SeqId.advance]
  records {slot record} found := by simp [start, Table.record?_empty] at found
  numbered {index item} found := by simp at found
  segments := nofun

/-! ## What a move keeps -/

theorem TracedIds.last (config : Config) (segments : List Segment) (segment : Segment) :
    TracedIds config (segments ++ [segment]) (segment.dataId, segment.payload)
      [config.initialTransmissionId.advance segments.length] := by
  intro id member
  refine ⟨segments.length, segment, ?_, List.mem_singleton.mp member, rfl⟩
  rw [List.getElem?_append_right (Nat.le_refl _), Nat.sub_self]
  rfl

theorem TracedRecord.append {items : List Item} {segments : List Segment}
    {record : Record PendingItem} (traced : TracedRecord config items segments record)
    (newItems : List Item) (newSegments : List Segment) :
    TracedRecord config (items ++ newItems) (segments ++ newSegments) record where
  keys_le := traced.keys_le
  retransmissions_le := traced.retransmissions_le
  item := List.mem_append_left _ traced.item
  ids := traced.ids.append newSegments

theorem TracedRecord.dropKey {items : List Item} {segments : List Segment}
    {record : Record PendingItem} (traced : TracedRecord config items segments record)
    (key : SeqId) : TracedRecord config items segments (record.dropKey key) where
  keys_le := Nat.le_trans (List.length_filter_le _ _) traced.keys_le
  retransmissions_le := traced.retransmissions_le
  item := traced.item
  ids := traced.ids.subset (List.filter_sublist.subset)

theorem TracedSegment.append {items : List Item} {segments : List Segment}
    {segment : Segment} (traced : TracedSegment config items segments segment)
    (newItems : List Item) (newSegments : List Segment) :
    TracedSegment config (items ++ newItems) (segments ++ newSegments) segment where
  item := List.mem_append_left _ traced.item
  ids := traced.ids.append newSegments

namespace Traced

variable {sender : Sender config} {items : List Item} {segments : List Segment}

/-- A change that draws no id and leaves only records that are traced. -/
theorem of_records {after : Sender config} (traced : Traced sender items segments)
    (agrees : after.pending.Agrees)
    (sameIds : after.dataIds = sender.dataIds ∧ after.transmissionIds = sender.transmissionIds)
    (records : ∀ {slot record}, after.pending.record? slot = some record →
      TracedRecord config items segments record) :
    Traced after items segments where
  agrees := agrees
  nextDataId := (congrArg SeqId.Generator.upcoming sameIds.1).trans traced.nextDataId
  nextTransmissionId :=
    (congrArg SeqId.Generator.upcoming sameIds.2).trans traced.nextTransmissionId
  records := records
  numbered := traced.numbered
  segments := traced.segments

theorem record_of_remove (traced : Traced sender items segments) {gone slot : Nat}
    {record : Record PendingItem}
    (found : (sender.pending.remove gone).record? slot = some record) :
    TracedRecord config items segments record := by
  rw [Table.record?_remove] at found
  split at found
  · cases found
  · exact traced.records found

theorem record_of_release (traced : Traced sender items segments) {id : SeqId}
    {holder slot : Nat} {record : Record PendingItem}
    (held : sender.pending.holder? id = some holder)
    (found : (sender.pending.release id).record? slot = some record) :
    TracedRecord config items segments record := by
  rw [Table.record?_release held] at found
  split at found
  · rcases Option.map_eq_some_iff.mp found with ⟨before, there, rfl⟩
    exact (traced.records there).dropKey id
  · exact traced.records found

theorem advance_nextTransmissionId (traced : Traced sender items segments)
    (segment : Segment) :
    sender.transmissionIds.draw.2.upcoming =
      config.initialTransmissionId.advance (segments ++ [segment]).length := by
  have upcoming : sender.transmissionIds.upcoming =
      config.initialTransmissionId.advance segments.length := traced.nextTransmissionId
  simp [SeqId.Generator.draw, SeqId.next, upcoming]

theorem newRecord (traced : Traced sender items segments) (payload : Payload)
    (now : Instant) {keys : List SeqId} (subset : keys ⊆ [sender.nextTransmissionId])
    (single : keys.length ≤ 1) :
    TracedRecord config (items ++ [(sender.nextDataId, payload)])
      (segments ++ [⟨sender.nextDataId, [sender.nextTransmissionId], payload⟩])
      ⟨sender.nextDataId, keys, now, ⟨payload, 0, now⟩⟩ where
  keys_le := single
  retransmissions_le := Nat.zero_le _
  item := List.mem_append_right _ (List.mem_singleton.mpr rfl)
  ids := by
    rw [traced.nextTransmissionId] at subset ⊢
    exact (TracedIds.last config segments ⟨sender.nextDataId, _, payload⟩).subset subset

theorem takeOn {payload : Payload} {now : Instant} {pending : Table PendingItem}
    {displaced : Option Nat} (traced : Traced sender items segments)
    (registered : (sender.pending.create sender.nextDataId ⟨payload, 0, now⟩ now).register
      sender.nextTransmissionId sender.pending.freshSlot = .ok (pending, displaced)) :
    Traced (sender.admitted payload pending) (items ++ [(sender.nextDataId, payload)])
      (segments ++ [⟨sender.nextDataId, [sender.nextTransmissionId], payload⟩]) where
  agrees := (traced.agrees.create _ _ _).register registered
  nextDataId := by
    have upcoming : sender.dataIds.upcoming = config.initialDataId.advance items.length :=
      traced.nextDataId
    simp [Sender.nextDataId, admitted, SeqId.Generator.draw, SeqId.next, upcoming]
  nextTransmissionId := traced.advance_nextTransmissionId _
  records {slot record} found := by
    rcases Table.record?_register registered found with ⟨before, there, changed⟩
    rw [Table.record?_create] at there
    split at there
    · rw [← Option.some.inj there] at changed
      rcases changed with rfl | rfl | ⟨_, rfl⟩
      · exact traced.newRecord payload now (List.nil_subset _) (Nat.zero_le _)
      · exact traced.newRecord payload now (List.nil_subset _) (Nat.zero_le _)
      · exact traced.newRecord payload now (List.Subset.refl _) (Nat.le_refl _)
    · next older =>
      have known := (traced.records there).append [(sender.nextDataId, payload)]
        [⟨sender.nextDataId, [sender.nextTransmissionId], payload⟩]
      rcases changed with rfl | rfl | ⟨fresh, _⟩
      · exact known
      · exact known.dropKey _
      · exact absurd fresh older
  numbered {index item} found := by
    rcases Nat.lt_or_ge index items.length with older | newest
    · rw [List.getElem?_append_left older] at found
      exact traced.numbered found
    · rw [List.getElem?_append_right newest, List.getElem?_singleton] at found
      split at found
      · next last =>
        have here : index = items.length := by omega
        rw [← Option.some.inj found, here]
        exact traced.nextDataId
      · cases found
  segments segment member := by
    rcases List.mem_append.mp member with older | newest
    · exact (traced.segments segment older).append _ _
    · rw [List.mem_singleton.mp newest]
      refine ⟨List.mem_append_right _ (List.mem_singleton.mpr rfl), ?_⟩
      rw [traced.nextTransmissionId]
      exact TracedIds.last config segments ⟨sender.nextDataId, _, payload⟩

/-- The ids under which an item goes out again were drawn for it, the last of them for
this transmission. -/
theorem tracedIds_again {slot : Nat} {record : Record PendingItem}
    {pending : Table PendingItem} {displaced : Option Nat}
    (traced : Traced sender items segments)
    (registered : sender.pending.register sender.nextTransmissionId slot =
      .ok (pending, displaced))
    (filed : pending.record? slot = some record) :
    TracedIds config
      (segments ++ [⟨record.primary, record.keys, record.value.payload⟩])
      (itemOf record) record.keys := by
  rcases Table.record?_register registered filed with ⟨before, there, changed⟩
  have known := (traced.records there).ids.append
    [⟨record.primary, record.keys, record.value.payload⟩]
  rcases changed with rfl | rfl | ⟨_, rfl⟩
  · exact known
  · exact known.subset List.filter_sublist.subset
  · intro id member
    rcases Record.mem_addKey.mp member with older | newest
    · exact known id older
    · have drawn := TracedIds.last config segments
        ⟨before.primary, (before.addKey sender.nextTransmissionId).keys, before.value.payload⟩
      rw [← traced.nextTransmissionId] at drawn
      exact drawn id (List.mem_singleton.mpr newest)

theorem record_again {slot : Nat} {before after : Record PendingItem}
    {pending : Table PendingItem} {displaced : Option Nat}
    (found : sender.pending.record? slot = some before)
    (registered : sender.pending.register sender.nextTransmissionId slot =
      .ok (pending, displaced))
    (filed : pending.record? slot = some after) :
    after.value = before.value ∧ itemOf after = itemOf before ∧
      after.keys.length ≤ before.keys.length + 1 := by
  rcases Table.record?_register registered filed with ⟨stored, there, changed⟩
  rw [found] at there
  cases there
  rcases changed with rfl | rfl | ⟨_, rfl⟩
  · exact ⟨rfl, rfl, Nat.le_succ _⟩
  · exact ⟨rfl, rfl, Nat.le_trans (List.length_filter_le _ _) (Nat.le_succ _)⟩
  · exact ⟨rfl, rfl, Nat.le_of_eq List.length_append⟩

theorem again {slot : Nat} {before after : Record PendingItem}
    {pending : Table PendingItem} {displaced : Option Nat}
    (traced : Traced sender items segments) (now : Instant)
    (found : sender.pending.record? slot = some before)
    (allowed : before.value.retransmissions < config.retransmitLimit)
    (registered : sender.pending.register sender.nextTransmissionId slot =
      .ok (pending, displaced))
    (filed : pending.record? slot = some after) :
    Traced ((sender.filed pending).repeated now slot) items
      (segments ++ [⟨after.primary, after.keys, after.value.payload⟩]) where
  agrees := (Move.again now found allowed registered filed).agrees traced.agrees
  nextDataId := traced.nextDataId
  nextTransmissionId := traced.advance_nextTransmissionId _
  records {other record} noted := by
    rw [record?_repeated] at noted
    split at noted
    · rcases Option.map_eq_some_iff.mp noted with ⟨stored, there, rfl⟩
      cases filed.symm.trans there
      rcases record_again found registered filed with ⟨sameValue, sameItem, longer⟩
      have known := traced.records found
      constructor
      · rw [sameValue]
        exact Nat.le_trans longer (Nat.succ_le_succ known.keys_le)
      · rw [sameValue]
        exact allowed
      · exact sameItem ▸ known.item
      · exact traced.tracedIds_again registered filed
    · rcases Table.record?_register registered noted with ⟨stored, there, changed⟩
      have known := (traced.records there).append []
        [⟨after.primary, after.keys, after.value.payload⟩]
      rw [List.append_nil] at known
      rcases changed with rfl | rfl | ⟨here, _⟩
      · exact known
      · exact known.dropKey _
      · contradiction
  numbered := traced.numbered
  segments segment member := by
    rcases List.mem_append.mp member with older | newest
    · have known := (traced.segments segment older).append []
        [⟨after.primary, after.keys, after.value.payload⟩]
      rwa [List.append_nil] at known
    · rw [List.mem_singleton.mp newest]
      have sameItem := (record_again found registered filed).2.1
      have item : itemOf after ∈ items := sameItem ▸ (traced.records found).item
      exact ⟨item, traced.tracedIds_again registered filed⟩

/-- While the limit leaves room for all ids of an item, no transmission id is drawn in
vain. -/
theorem register_isOk (traced : Traced sender items segments)
    (room : config.retransmitLimit < Capacity.keysPerRecord) {slot : Nat}
    {record : Record PendingItem} (found : sender.pending.record? slot = some record)
    (allowed : record.value.retransmissions < config.retransmitLimit) (key : SeqId) :
    ∃ after displaced, sender.pending.register key slot = .ok (after, displaced) := by
  apply Table.register_isOk key found
  have bound := (traced.records found).keys_le
  omega

theorem move {after : Sender config} {outputs : List Output}
    (room : config.retransmitLimit < Capacity.keysPerRecord)
    (traced : Traced sender items segments) (move : Move sender outputs after) :
    Traced after (items ++ itemsSent outputs) (segments ++ transmitted outputs) := by
  have agrees := move.agrees traced.agrees
  cases move with
  | giveUp reason found =>
      rw [giveUp_of_found found] at agrees ⊢
      simp only [itemsSent, transmitted, List.filterMap_cons, Output.sent?, Output.segment?,
        List.filterMap_nil, List.map_nil, List.append_nil]
      exact traced.of_records agrees ⟨rfl, rfl⟩ traced.record_of_remove
  | confirm now holder found =>
      simp only [itemsSent, transmitted, List.filterMap_cons, Output.sent?, Output.segment?,
        List.filterMap_nil, List.map_nil, List.append_nil]
      apply traced.of_records agrees (ids_confirm now sender _)
      rw [pending_confirm holder found now]
      exact traced.record_of_remove
  | release holder superseded =>
      simp only [itemsSent, transmitted, List.filterMap_nil, List.map_nil, List.append_nil]
      exact traced.of_records agrees ⟨rfl, rfl⟩ (traced.record_of_release holder)
  | takeOn fits registered => exact traced.takeOn registered
  | again now found allowed registered filed =>
      simp only [itemsSent, List.filterMap_cons, Output.sent?, List.filterMap_nil,
        List.map_nil, List.append_nil]
      exact traced.again now found allowed registered filed
  | forfeit found allowed refused =>
      rcases traced.register_isOk room found allowed sender.nextTransmissionId with
        ⟨_, _, accepted⟩
      cases refused.symm.trans accepted

theorem moves {after : Sender config} {outputs : List Output}
    (room : config.retransmitLimit < Capacity.keysPerRecord)
    (traced : Traced sender items segments) (moves : Moves sender outputs after) :
    Traced after (items ++ itemsSent outputs) (segments ++ transmitted outputs) := by
  induction moves generalizing items segments with
  | none => simpa [itemsSent, transmitted] using traced
  | next first _ ih =>
      rw [itemsSent_append, transmitted_append, ← List.append_assoc, ← List.append_assoc]
      exact ih (traced.move room first)

theorem performs {after : Sender config} {outputs : List Output}
    (room : config.retransmitLimit < Capacity.keysPerRecord)
    (traced : Traced sender items segments) (performs : Performs sender outputs after) :
    Traced after (items ++ itemsSent outputs) (segments ++ transmitted outputs) := by
  rcases performs with ⟨actual, moves, alike⟩
  have after := traced.moves room moves
  simp only [itemsSent, transmitted, alike.sent, alike.segments] at after
  exact after

end Traced

/-- Whatever is asked of a sender, its ids can be traced back to what it answered. -/
theorem traced_reached (room : config.retransmitLimit < Capacity.keysPerRecord)
    (calls : List Call) :
    Traced (reached config calls) (itemsSent (Transition.run step (start config) calls).2)
      (transmitted (Transition.run step (start config) calls).2) :=
  (traced_start config).performs room (run_performs (start config) calls)

end Sender

end ReliableDatagram
