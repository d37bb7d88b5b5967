import Mathlib.Data.List.Sort
import ReliableDatagram.Proofs.Receiver.Completeness
import ReliableDatagram.Proofs.Receiver.Reporting

/-!
# Items that arrive one after the other

When each item arrives once and in the order of the ids, a receiver has nothing to drop and
nothing to wait for.  A unit is announced and delivered as a whole (`Collects.ingestUnit`),
also when its items are more than the limit on the lag allows: the skip then passes items
that wait, and gives up on none.  Nothing here bounds the number of items, so the ids may
start over any number of times.

The newest transmissions are remembered without a gap (`noteAll_consecutive`), so an
acknowledgment reports as many of them as it can describe (`reported_consecutive`).
-/

namespace ReliableDatagram

namespace ReceiptWindow

/-! ## The id next to the anchor -/

theorem offsetOf_next (window : ReceiptWindow) :
    window.offsetOf window.anchor.next = .negSucc 0 := by
  have anchorLt := window.anchor.toNat_lt
  rw [offsetOf, SeqId.diff, SeqId.next, SeqId.toNat_advance, Int.bmod_def]
  simp only [SeqId.space] at *
  omega

theorem contains_next (window : ReceiptWindow) : window.contains window.anchor.next = false := by
  have ahead : ¬ (0 : Int) ≤ .negSucc 0 := by decide
  rw [contains, covers, offsetOf_next, decide_eq_false ahead]
  rfl

theorem mark_next (window : ReceiptWindow) :
    window.mark window.anchor.next = window.set (.negSucc 0) true := by
  have ordered : ¬ (window.anchor.compare window.anchor.next).isNone := by
    rw [SeqId.compare_isNone_iff, SeqId.next, SeqId.distanceTo_advance_of_lt _ (by decide)]
    decide
  rw [mark, if_neg ordered, offsetOf_next]

end ReceiptWindow

namespace Receiver

variable {config : Config} {receiver : Receiver config}

/-! ## Consecutive transmissions -/

theorem note_next {window : Option ReceiptWindow} {id : SeqId}
    (next : ∀ known, window = some known → known.anchor = id.previous) :
    (note window id).anchor = id ∧ (note window id).get 0 := by
  cases window with
  | none => exact ⟨rfl, by simp [note]⟩
  | some known =>
      have here : id = known.anchor.next := by rw [next known rfl, SeqId.previous_next]
      rw [note, here, ReceiptWindow.mark_next]
      exact ⟨rfl, (ReceiptWindow.get_set_negSucc (by decide)).mpr (.inl rfl)⟩

theorem noteAll_consecutive {window : Option ReceiptWindow} {id : SeqId}
    (next : ∀ known, window = some known → known.anchor = id.previous) (count : Nat) :
    ∃ latest, noteAll window ((List.range (count + 1)).map id.advance) = some latest ∧
      latest.anchor = id.advance count ∧
      ∀ back ≤ count, back < ReceiptWindow.capacity → latest.get back := by
  induction count with
  | zero =>
      rcases note_next next with ⟨anchor, arrived⟩
      refine ⟨note window id, congrArg (noteAll window [·]) id.advance_zero,
        anchor.trans id.advance_zero.symm, ?_⟩
      intro back none _
      rwa [Nat.le_zero.mp none]
  | succ count ih =>
      rcases ih with ⟨known, noted, anchor, arrived⟩
      have here : id.advance (count + 1) = known.anchor.next := by
        rw [anchor, SeqId.next, SeqId.advance_advance]
      refine ⟨known.mark (id.advance (count + 1)), ?_, ?_, ?_⟩
      · rw [List.range_succ, List.map_append, noteAll_append, noted]
        rfl
      · rw [here, ReceiptWindow.mark_next]
        rfl
      · intro back within inside
        rw [here, ReceiptWindow.mark_next]
        apply (ReceiptWindow.get_set_negSucc inside).mpr
        rcases Nat.eq_zero_or_pos back with rfl | positive
        · exact .inl rfl
        · exact .inr ⟨positive, arrived _ (by omega) (by omega)⟩

/-- The acknowledgment of consecutive transmissions names the last of them, and reports as
many as it can describe. -/
theorem reported_consecutive {window : Option ReceiptWindow} {id : SeqId} {count : Nat}
    (next : ∀ known, window = some known → known.anchor = id.previous)
    (noted : receiver.transmissions = noteAll window ((List.range (count + 1)).map id.advance)) :
    receiver.acknowledgment.newest = id.advance count ∧
      (count ≤ Acknowledgment.width → ∀ index ≤ count, id.advance index ∈
        (ReceiptWindow.ofAcknowledgment receiver.acknowledgment).observed) := by
  rcases noteAll_consecutive next count with ⟨latest, same, anchor, arrived⟩
  have reported : receiver.acknowledgment = latest.acknowledgment := by
    rw [acknowledgment, noted, same]
  refine ⟨by rw [reported]; exact anchor, ?_⟩
  intro described index within
  have anchored : latest.Anchored := arrived 0 (Nat.zero_le _) (by decide)
  rw [reported, ReceiptWindow.observed_ofAcknowledgment anchored, List.mem_map]
  refine ⟨count - index, List.mem_filter.mpr ⟨List.mem_range.mpr (by omega), ?_⟩, ?_⟩
  · apply arrived _ (Nat.sub_le _ _)
    simp only [Acknowledgment.width, ReceiptWindow.capacity] at *
    omega
  · -- The way back from the last id leads to this one.
    have way : id.advance count = (id.advance index).advance (count - index) := by
      rw [SeqId.advance_advance, Nat.add_sub_cancel' within]
    rw [anchor, way, ReceiptWindow.retreat_advance_of_le _ (Nat.le_refl _), Nat.sub_self]
    exact SeqId.retreat_zero _

/-! ## Items that go out once each -/

/-- The segments in which items go out when nothing is ever sent again, from the item at a
position on. -/
def firstSegments (config : Config) : (position : Nat) → List Payload → List Segment
  | _, [] => []
  | position, payload :: rest =>
      ⟨config.initialDataId.advance position, [config.initialTransmissionId.advance position],
        payload⟩ :: firstSegments config (position + 1) rest

/-- The items at a position and after it. -/
def itemsFrom (config : Config) (position : Nat) (payloads : List Payload) : List Delivery :=
  (firstSegments config position payloads).map Segment.delivery

theorem length_firstSegments (config : Config) (position : Nat) (payloads : List Payload) :
    (firstSegments config position payloads).length = payloads.length := by
  induction payloads generalizing position with
  | nil => rfl
  | cons payload rest ih => exact congrArg Nat.succ (ih (position + 1))

theorem firstSegments_append (config : Config) (position : Nat) (payloads more : List Payload) :
    firstSegments config position (payloads ++ more) =
      firstSegments config position payloads ++
        firstSegments config (position + payloads.length) more := by
  induction payloads generalizing position with
  | nil => rfl
  | cons payload rest ih =>
      rw [List.cons_append, firstSegments, firstSegments, ih, List.cons_append, List.length_cons,
        Nat.add_assoc, Nat.add_comm 1]

theorem itemsFrom_append (config : Config) (position : Nat) (payloads more : List Payload) :
    itemsFrom config position (payloads ++ more) =
      itemsFrom config position payloads ++
        itemsFrom config (position + payloads.length) more := by
  rw [itemsFrom, firstSegments_append, List.map_append]
  rfl

/-- A cut through the segments is a cut through the items. -/
theorem firstSegments_eq_append {position : Nat} {payloads : List Payload}
    {first rest : List Segment} (cut : firstSegments config position payloads = first ++ rest) :
    ∃ front back, payloads = front ++ back ∧ first = firstSegments config position front ∧
      rest = firstSegments config (position + front.length) back := by
  have parts := firstSegments_append config position
    (payloads.take first.length) (payloads.drop first.length)
  have whole := congrArg List.length cut
  rw [length_firstSegments, List.length_append] at whole
  rw [List.take_append_drop, cut] at parts
  have sizes : first.length =
      (firstSegments config position (payloads.take first.length)).length := by
    rw [length_firstSegments, List.length_take]
    omega
  rcases List.append_inj parts sizes with ⟨front, back⟩
  exact ⟨_, _, (List.take_append_drop _ _).symm, front, back⟩

theorem transmissionIds_firstSegments (config : Config) (position : Nat) (payloads : List Payload) :
    (firstSegments config position payloads).flatMap Segment.transmissionIds =
      (List.range payloads.length).map (config.initialTransmissionId.advance position).advance := by
  induction payloads generalizing position with
  | nil => rfl
  | cons payload rest ih =>
      have shifted : ∀ index, (config.initialTransmissionId.advance position).advance (index + 1) =
          (config.initialTransmissionId.advance (position + 1)).advance index := by
        intro index
        rw [SeqId.advance_advance, SeqId.advance_advance, Nat.add_right_comm, Nat.add_assoc]
      rw [firstSegments, List.flatMap_cons, ih, List.length_cons, List.range_succ_eq_map,
        List.map_cons, List.map_map, SeqId.advance_zero]
      exact congrArg (_ :: ·) (List.map_congr_left fun index _ => (shifted index).symm)

theorem mem_itemsFrom {position : Nat} {payloads : List Payload} {delivery : Delivery} :
    delivery ∈ itemsFrom config position payloads ↔
      ∃ index payload, payloads[index]? = some payload ∧
        delivery = ⟨config.initialDataId.advance (position + index), payload⟩ := by
  induction payloads generalizing position with
  | nil => simp [itemsFrom, firstSegments]
  | cons payload rest ih =>
      rw [itemsFrom, firstSegments, List.map_cons, List.mem_cons]
      refine (or_congr_right ih).trans ?_
      constructor
      · intro either
        rcases either with rfl | ⟨index, other, found, rfl⟩
        · exact ⟨0, payload, rfl, rfl⟩
        · exact ⟨index + 1, other, found, by rw [Nat.add_assoc, Nat.add_comm 1]⟩
      · intro listed
        rcases listed with ⟨_ | index, other, found, rfl⟩
        · cases found
          exact .inl rfl
        · exact .inr ⟨index, other, found, by rw [Nat.add_assoc, Nat.add_comm 1]⟩

/-- The items of a run are numbered from the first one on. -/
theorem numberedItems_eq_itemsFrom (config : Config) (payloads : List Payload) :
    numberedItems config payloads = itemsFrom config 0 payloads := by
  suffices shifted : ∀ position, itemsFrom config position payloads =
      payloads.mapIdx fun index payload =>
        ⟨config.initialDataId.advance (position + index), payload⟩ by
    rw [shifted]
    simp only [numberedItems, Nat.zero_add]
  induction payloads with
  | nil => exact fun _ => rfl
  | cons payload rest ih =>
      intro position
      have later := ih (position + 1)
      rw [itemsFrom] at later
      rw [itemsFrom, firstSegments, List.map_cons, later, List.mapIdx_cons]
      simp only [Segment.delivery, Nat.add_zero, Nat.add_assoc, Nat.add_comm 1]

theorem numberedItems_append (config : Config) (payloads more : List Payload) :
    numberedItems config (payloads ++ more) =
      numberedItems config payloads ++ itemsFrom config payloads.length more := by
  rw [numberedItems_eq_itemsFrom, numberedItems_eq_itemsFrom, itemsFrom_append, Nat.zero_add]

theorem inBounds_of_mem_firstSegments {position : Nat} {payloads : List Payload}
    (fits : ∀ payload ∈ payloads, payload.length ≤ Capacity.payloadBytes) :
    ∀ segment ∈ firstSegments config position payloads, segment.InBounds := by
  induction payloads generalizing position with
  | nil => nofun
  | cons payload rest ih =>
      rcases List.forall_mem_cons.mp fits with ⟨first, others⟩
      have single : 1 ≤ Capacity.keysPerRecord := by decide
      exact List.forall_mem_cons.mpr ⟨⟨Nat.le_refl 1, single, first⟩, ih others⟩

/-! ## Receivers that miss nothing and get nothing twice -/

/-- What a receiver knows that delivered a number of items in order, and to which others
came since, one after the other. -/
structure Collects (receiver : Receiver config) (count : Nat) (waiting : List Payload) :
    Prop where
  orderly : receiver.Orderly
  cursor : receiver.cursor = (config.initialDataId.advance count).previous
  /-- Nothing came after the last of the waiting items. -/
  newest : ∀ window, receiver.items = some window →
    window.anchor = (config.initialDataId.advance (count + waiting.length)).previous
  waits_iff : ∀ {delivery}, receiver.Waits delivery ↔ delivery ∈ itemsFrom config count waiting
  duplicates : receiver.counters.duplicates = 0
  skipped : receiver.counters.skipped = 0

namespace Collects

variable {count : Nat} {waiting : List Payload}

theorem start (config : Config) : Collects (start config) 0 [] where
  orderly := orderly_start config
  cursor := congrArg SeqId.previous config.initialDataId.advance_zero.symm
  newest _ none := nomatch none
  waits_iff {delivery} := by simp [Waits, Receiver.start, itemsFrom, firstSegments]
  duplicates := rfl
  skipped := rfl

theorem congr {other : Receiver config} (collects : Collects receiver count waiting)
    (cursor : other.cursor = receiver.cursor) (items : other.items = receiver.items)
    (buffer : other.buffer = receiver.buffer)
    (duplicates : other.counters.duplicates = receiver.counters.duplicates)
    (skipped : other.counters.skipped = receiver.counters.skipped) :
    Collects other count waiting where
  orderly := collects.orderly.congr cursor buffer
  cursor := cursor.trans collects.cursor
  newest window noted := collects.newest window (items ▸ noted)
  waits_iff {delivery} := by
    rw [Waits, buffer]
    exact collects.waits_iff
  duplicates := duplicates.trans collects.duplicates
  skipped := skipped.trans collects.skipped

theorem distanceTo_item (collects : Collects receiver count waiting) {index : Nat}
    (near : index + 1 < SeqId.space) :
    receiver.cursor.distanceTo (config.initialDataId.advance (count + index)) = index + 1 := by
  have way := (config.initialDataId.advance count).advance_previous index
  rw [SeqId.advance_advance] at way
  rw [collects.cursor, ← way]
  exact SeqId.distanceTo_advance_of_lt _ near

theorem isDuplicate_next (collects : Collects receiver count waiting)
    (few : waiting.length + 1 < SeqId.halfSpace) :
    receiver.isDuplicate (config.initialDataId.advance (count + waiting.length)) = false := by
  have near : waiting.length + 1 < SeqId.space := Nat.lt_trans few (by decide)
  have distance := collects.distanceTo_item near
  refine isDuplicate_eq_false_iff.mpr ⟨?_, ?_, ?_⟩
  · rw [IsAhead, distance]
    exact ⟨Nat.succ_pos _, few⟩
  · cases items : receiver.items with
    | none => rfl
    | some window =>
        have unseen := window.contains_next
        rwa [collects.newest window items, SeqId.previous_next] at unseen
  · cases found : receiver.buffer[config.initialDataId.advance (count + waiting.length)]? with
    | none => rfl
    | some delivery =>
        have named := collects.orderly.named found
        rw [← named] at found distance
        rcases mem_itemsFrom.mp (collects.waits_iff.mp found) with ⟨index, payload, listed, rfl⟩
        have earlier := (List.getElem?_eq_some_iff.mp listed).1
        rw [collects.distanceTo_item (by omega)] at distance
        omega

theorem ingest (collects : Collects receiver count waiting)
    (few : waiting.length + 1 < SeqId.halfSpace) {segment : Segment}
    (next : segment.dataId = config.initialDataId.advance (count + waiting.length)) :
    Collects (ingest receiver segment).1 count (waiting ++ [segment.payload]) ∧
      (ingest receiver segment).2 = [segment.delivery] := by
  have fresh := collects.isDuplicate_next few
  rw [← next] at fresh
  have counters : (Receiver.ingest receiver segment).1.counters.duplicates =
        receiver.counters.duplicates ∧
      (Receiver.ingest receiver segment).1.counters.skipped = receiver.counters.skipped := by
    have same : (receiver.noteTransmissions segment.transmissionIds).isDuplicate
        segment.dataId = false := fresh
    simp only [Receiver.ingest, same]
    exact ⟨rfl, rfl⟩
  rcases ingest_cases receiver segment with ⟨dropped, _⟩ | ⟨_, outputs, cursor, items, buffer⟩
  · rw [fresh] at dropped
    cases dropped
  · refine ⟨⟨collects.orderly.ingest segment, cursor.trans collects.cursor, ?_, ?_,
      counters.1.trans collects.duplicates, counters.2.trans collects.skipped⟩, outputs⟩
    · intro window noted
      have known : ∀ earlier, receiver.items = some earlier →
          earlier.anchor = segment.dataId.previous := by
        rw [next]
        exact collects.newest
      rw [items] at noted
      rw [← Option.some.inj noted, (note_next known).1, next, List.length_append,
        List.length_singleton, ← Nat.add_assoc, SeqId.previous_advance]
    · intro delivery
      have absent := (isDuplicate_eq_false_iff.mp fresh).2.2
      rw [waits_insert_iff segment.delivery absent buffer, collects.waits_iff, itemsFrom_append,
        List.mem_append, itemsFrom, itemsFrom, firstSegments, firstSegments, ← next]
      simp [Segment.delivery]

theorem run_ingest (collects : Collects receiver count waiting) (more : List Payload)
    (few : waiting.length + more.length < SeqId.halfSpace) :
    Collects (Transition.run Receiver.ingest receiver
        (firstSegments config (count + waiting.length) more)).1 count (waiting ++ more) ∧
      (Transition.run Receiver.ingest receiver
        (firstSegments config (count + waiting.length) more)).2 =
        itemsFrom config (count + waiting.length) more := by
  induction more generalizing receiver waiting with
  | nil => simpa [firstSegments, itemsFrom] using collects
  | cons payload rest ih =>
      rw [List.length_cons] at few
      rw [firstSegments, Transition.run_cons]
      let segment : Segment := ⟨config.initialDataId.advance (count + waiting.length),
        [config.initialTransmissionId.advance (count + waiting.length)], payload⟩
      rcases collects.ingest (by omega) (rfl : segment.dataId = _) with ⟨first, output⟩
      have later := ih first (by rw [List.length_append, List.length_singleton]; omega)
      rw [List.append_assoc, List.length_append, List.length_singleton, ← Nat.add_assoc] at later
      rw [output]
      exact ⟨later.1, congrArg (_ :: ·) later.2⟩

/-! ## Delivery in order -/

/-- Items that come one after the other are ever farther away. -/
theorem pairwise_itemsFrom (collects : Collects receiver count waiting) (offset : Nat)
    (payloads : List Payload) (near : offset + payloads.length < SeqId.space) :
    (itemsFrom config (count + offset) payloads).Pairwise fun left right =>
      receiver.cursor.distanceTo left.dataId < receiver.cursor.distanceTo right.dataId := by
  induction payloads generalizing offset with
  | nil => exact List.Pairwise.nil
  | cons payload rest ih =>
      rw [List.length_cons] at near
      have others := ih (offset + 1) (by omega)
      refine List.pairwise_cons.mpr ⟨?_, others⟩
      intro later member
      rcases mem_itemsFrom.mp member with ⟨index, other, listed, rfl⟩
      have inside := (List.getElem?_eq_some_iff.mp listed).1
      change receiver.cursor.distanceTo (config.initialDataId.advance (count + offset)) <
        receiver.cursor.distanceTo (config.initialDataId.advance (count + offset + 1 + index))
      rw [Nat.add_assoc, Nat.add_assoc, collects.distanceTo_item (by omega),
        collects.distanceTo_item (by omega)]
      omega

/-- Among the items that wait, those up to some step are the first ones. -/
theorem waits_iff_split (collects : Collects receiver count waiting)
    (few : waiting.length < SeqId.halfSpace) {steps : Nat} (within : steps ≤ waiting.length)
    (delivery : Delivery) :
    (receiver.Waits delivery ∧ receiver.cursor.distanceTo delivery.dataId ≤ steps ↔
        delivery ∈ itemsFrom config count (waiting.take steps)) ∧
      (receiver.Waits delivery ∧ steps < receiver.cursor.distanceTo delivery.dataId ↔
        delivery ∈ itemsFrom config (count + steps) (waiting.drop steps)) := by
  have split := itemsFrom_append config count (waiting.take steps)
    (waiting.drop steps)
  rw [List.take_append_drop, List.length_take, Nat.min_eq_left within] at split
  have near : delivery ∈ itemsFrom config count (waiting.take steps) →
      receiver.cursor.distanceTo delivery.dataId ≤ steps := by
    intro member
    rcases mem_itemsFrom.mp member with ⟨index, payload, listed, rfl⟩
    have inside := (List.getElem?_eq_some_iff.mp listed).1
    rw [List.length_take] at inside
    rw [collects.distanceTo_item (by simp only [SeqId.halfSpace, SeqId.space] at *; omega)]
    omega
  have far : delivery ∈ itemsFrom config (count + steps) (waiting.drop steps) →
      steps < receiver.cursor.distanceTo delivery.dataId := by
    intro member
    rcases mem_itemsFrom.mp member with ⟨index, payload, listed, rfl⟩
    have inside := (List.getElem?_eq_some_iff.mp listed).1
    rw [List.length_drop] at inside
    rw [Nat.add_assoc,
      collects.distanceTo_item (by simp only [SeqId.halfSpace, SeqId.space] at *; omega)]
    omega
  rw [collects.waits_iff, split, List.mem_append]
  constructor
  · constructor
    · rintro ⟨front | back, close⟩
      · exact front
      · exact absurd (far back) (Nat.not_lt_of_le close)
    · exact fun front => ⟨.inl front, near front⟩
  · constructor
    · rintro ⟨front | back, beyond⟩
      · exact absurd (near front) (Nat.not_le_of_lt beyond)
      · exact back
    · exact fun back => ⟨.inr back, far back⟩

/-- When the cursor moves over waiting items only, they are delivered one after the other. -/
theorem delivered_eq (collects : Collects receiver count waiting)
    (few : waiting.length < SeqId.halfSpace) {after : Receiver config} {steps : Nat}
    {delivered : List Delivery} (advances : Advances receiver steps after delivered)
    (within : steps ≤ waiting.length) :
    delivered = itemsFrom config count (waiting.take steps) := by
  have ordered := collects.pairwise_itemsFrom 0 (waiting.take steps) (by
    rw [List.length_take]
    simp only [SeqId.halfSpace, SeqId.space] at *
    omega)
  have irreflexive : Std.Irrefl fun left right : Delivery =>
      receiver.cursor.distanceTo left.dataId < receiver.cursor.distanceTo right.dataId :=
    ⟨fun _ => Nat.lt_irrefl _⟩
  have antisymmetric : Std.Antisymm fun left right : Delivery =>
      receiver.cursor.distanceTo left.dataId < receiver.cursor.distanceTo right.dataId :=
    ⟨fun _ _ less greater => absurd less (Nat.lt_asymm greater)⟩
  refine advances.ordered.eq_of_mem_iff ordered ?_
  intro delivery
  exact advances.mem_delivered.trans (collects.waits_iff_split few within delivery).1

/-- The items that the cursor has not reached wait on. -/
theorem advance (collects : Collects receiver count waiting)
    (few : waiting.length < SeqId.halfSpace) {after : Receiver config} {steps : Nat}
    {delivered : List Delivery} (advances : Advances receiver steps after delivered)
    (within : steps ≤ waiting.length)
    (duplicates : after.counters.duplicates = receiver.counters.duplicates)
    (skipped : after.counters.skipped = receiver.counters.skipped) :
    Collects after (count + steps) (waiting.drop steps) where
  orderly := advances.orderly collects.orderly
  cursor := by
    rw [advances.cursor, collects.cursor, SeqId.advance_previous_comm, SeqId.advance_advance]
  newest window noted := by
    rw [advances.items] at noted
    rw [collects.newest window noted, List.length_drop, Nat.add_assoc,
      Nat.add_sub_cancel' within]
  waits_iff {delivery} := by
    rw [advances.waits_iff]
    exact (collects.waits_iff_split few within delivery).2
  duplicates := duplicates.trans collects.duplicates
  skipped := skipped.trans collects.skipped

theorem waits_advance (collects : Collects receiver count waiting) {steps : Nat}
    (positive : 0 < steps) (within : steps ≤ waiting.length) :
    ∃ delivery, receiver.buffer[receiver.cursor.advance steps]? = some delivery := by
  have inside : steps - 1 < waiting.length := by omega
  have waits := collects.waits_iff.mpr (mem_itemsFrom.mpr
    ⟨steps - 1, _, List.getElem?_eq_getElem inside, rfl⟩)
  have way := (config.initialDataId.advance count).advance_previous (steps - 1)
  rw [Nat.sub_add_cancel positive, SeqId.advance_advance] at way
  rw [Waits, ← way, ← collects.cursor] at waits
  exact ⟨_, waits⟩

theorem length_readyIds (collects : Collects receiver count waiting)
    (few : waiting.length < SeqId.halfSpace) : receiver.readyIds.length = waiting.length := by
  have near : waiting.length < SeqId.space := Nat.lt_trans few (by decide)
  refine Nat.le_antisymm ?_ (le_length_readyIds near fun _ => collects.waits_advance)
  apply Nat.le_of_not_lt
  intro more
  rcases waits_of_le_length_readyIds (Nat.succ_pos _) more with ⟨delivery, found⟩
  have beyond : waiting.length + 1 < SeqId.space := by
    simp only [SeqId.halfSpace, SeqId.space] at *
    omega
  have distance := receiver.cursor.distanceTo_advance_of_lt beyond
  have named := collects.orderly.named found
  rw [← named] at found distance
  rcases mem_itemsFrom.mp (collects.waits_iff.mp found) with ⟨index, payload, listed, rfl⟩
  have inside := (List.getElem?_eq_some_iff.mp listed).1
  rw [collects.distanceTo_item (by omega)] at distance
  omega

theorem deliverReady (collects : Collects receiver count waiting)
    (few : waiting.length < SeqId.halfSpace) :
    Collects receiver.deliverReady.1 (count + waiting.length) [] ∧
      receiver.deliverReady.2 = itemsFrom config count waiting := by
  have advances := deliverReady_advances collects.orderly
  rw [collects.length_readyIds few] at advances
  have kept := collects.advance few advances (Nat.le_refl _) rfl rfl
  have delivered := collects.delivered_eq few advances (Nat.le_refl _)
  rw [List.drop_length] at kept
  rw [List.take_length] at delivered
  exact ⟨kept, delivered⟩

theorem distanceTo_skipTarget (collects : Collects receiver count waiting)
    (few : waiting.length < SeqId.halfSpace) {target : SeqId}
    (due : receiver.skipTarget? = some target) :
    receiver.cursor.distanceTo target ≤ waiting.length := by
  rcases skipTarget?_eq_some due with ⟨_, highest, newest, _, distance⟩
  rcases Option.map_eq_some_iff.mp newest with ⟨window, items, rfl⟩
  rw [collects.newest window items, ← SeqId.advance_advance, ← SeqId.advance_previous_comm,
    collects.cursor, SeqId.distanceTo_advance_of_lt _ (Nat.lt_trans few (by decide)),
    ← collects.cursor] at distance
  exact Nat.le_of_add_right_le (Nat.le_of_eq distance)

/-- A skip over items that wait gives up on none. -/
theorem skipTo (collects : Collects receiver count waiting)
    (few : waiting.length < SeqId.halfSpace) {target : SeqId}
    (due : receiver.skipTarget? = some target) :
    Collects (receiver.skipTo target).1 (count + receiver.cursor.distanceTo target)
        (waiting.drop (receiver.cursor.distanceTo target)) ∧
      (receiver.skipTo target).2 =
        itemsFrom config count (waiting.take (receiver.cursor.distanceTo target)) := by
  have ahead := (skipTarget?_eq_some due).1
  have within := collects.distanceTo_skipTarget few due
  have advances := skipTo_advances collects.orderly ahead
  have delivered := collects.delivered_eq few advances within
  have whole : (receiver.passedBy target).length = receiver.cursor.distanceTo target := by
    have passed : ((receiver.passedBy target).map Prod.snd).length = _ :=
      congrArg List.length delivered
    rwa [List.length_map, itemsFrom, List.length_map, length_firstSegments, List.length_take,
      Nat.min_eq_left within] at passed
  have skips : (receiver.skipTo target).1.counters.skipped = receiver.counters.skipped +
      (receiver.cursor.next.distanceTo target + 1 - (receiver.passedBy target).length) := rfl
  rw [SeqId.distanceTo_next ahead.1, whole, Nat.sub_self, Nat.add_zero] at skips
  exact ⟨collects.advance few advances within rfl skips, delivered⟩

/-- All that waits is delivered, also when the limit on the lag demands a skip. -/
theorem deliverOrdered (collects : Collects receiver count waiting)
    (few : waiting.length < SeqId.halfSpace) :
    Collects receiver.deliverOrdered.1 (count + waiting.length) [] ∧
      receiver.deliverOrdered.2 = itemsFrom config count waiting := by
  unfold Receiver.deliverOrdered
  split
  · exact collects.deliverReady few
  · next target due =>
    have within := collects.distanceTo_skipTarget few due
    rcases collects.skipTo few due with ⟨skips, passed⟩
    have left : (waiting.drop (receiver.cursor.distanceTo target)).length < SeqId.halfSpace :=
      Nat.lt_of_le_of_lt (List.length_drop ▸ Nat.sub_le _ _) few
    rcases skips.deliverReady left with ⟨ready, delivered⟩
    have split := itemsFrom_append config count
      (waiting.take (receiver.cursor.distanceTo target))
      (waiting.drop (receiver.cursor.distanceTo target))
    rw [List.take_append_drop, List.length_take, Nat.min_eq_left within] at split
    rw [List.length_drop, Nat.add_assoc, Nat.add_sub_cancel' within] at ready
    refine ⟨ready, ?_⟩
    rw [split, ← passed, ← delivered]

/-! ## Units -/

/-- A unit with the next items is announced and delivered as a whole. -/
theorem ingestUnit (collects : Collects receiver count []) {unit : WireUnit}
    {payloads : List Payload} (carries : unit.segments = firstSegments config count payloads)
    (few : payloads.length < SeqId.halfSpace) :
    Collects (receiver.ingestUnit unit).1 (count + payloads.length) [] ∧
      (receiver.ingestUnit unit).2 =
        (itemsFrom config count payloads).map .unordered ++
          (itemsFrom config count payloads).map .ordered := by
  have counted : Collects receiver.counted count [] := collects.congr rfl rfl rfl rfl rfl
  rcases counted.run_ingest payloads (by rwa [List.length_nil, Nat.zero_add]) with
    ⟨gathered, announced⟩
  rw [List.length_nil, Nat.add_zero, ← carries] at gathered announced
  rcases gathered.deliverOrdered few with ⟨kept, delivered⟩
  rw [ingestUnit_eq]
  refine ⟨kept, ?_⟩
  rw [gather, announced, delivered]
  rfl

end Collects

theorem ackSent_of_settled (settled : receiver.ackDue = false) : receiver.ackSent = receiver := by
  rcases receiver with ⟨transmissions, items, cursor, buffer, ackDue, counters⟩
  cases settled
  rfl

theorem ackDue_ingestUnit (receiver : Receiver config) (unit : WireUnit) :
    (receiver.ingestUnit unit).1.ackDue =
      (receiver.ackDue || unit.segments.any fun segment => !segment.transmissionIds.isEmpty) := by
  have gathered : ∀ (segments : List Segment) (before : Receiver config),
      (Transition.run ingest before segments).1.ackDue =
        (before.ackDue || segments.any fun segment => !segment.transmissionIds.isEmpty) := by
    intro segments
    induction segments with
    | nil => exact fun before => (Bool.or_false _).symm
    | cons segment rest ih =>
        intro before
        have first : (ingest before segment).1.ackDue =
            (before.ackDue || !segment.transmissionIds.isEmpty) := by
          simp only [ingest]
          split
          · rfl
          · rfl
        rw [Transition.run_cons, ih, first, List.any_cons, Bool.or_assoc]
  have delivered : ∀ before : Receiver config, before.deliverOrdered.1.ackDue = before.ackDue := by
    intro before
    unfold deliverOrdered
    split
    · rfl
    · rfl
  rw [ingestUnit_eq, delivered]
  exact gathered unit.segments receiver.counted

end Receiver

end ReliableDatagram
