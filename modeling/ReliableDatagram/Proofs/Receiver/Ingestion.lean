import ReliableDatagram.Proofs.SeqMap
import ReliableDatagram.Proofs.SeqOrder
import ReliableDatagram.Receiver

/-!
# What a receiver does with a segment

A new item is one that lies after the cursor, less than half the space away, and that
does not wait already (`isDuplicate_eq_false_iff`).  It joins the items that wait, and
is delivered at once (`ingest_cases`).  Every item waits under its own id and ahead of
the cursor (`Orderly`).
-/

namespace ReliableDatagram

namespace Receiver

variable {config : Config} {receiver : Receiver config}

/-! ## Two halves of a unit -/

/-- The receiver with one more unit counted. -/
def counted (receiver : Receiver config) : Receiver config :=
  { receiver with
    counters := { receiver.counters with
      unitsReceived := receiver.counters.unitsReceived + 1 } }

/-- The receiver after all segments of a unit arrived and before anything is delivered in
order, with the new items. -/
def gather (receiver : Receiver config) (unit : WireUnit) : Receiver config × List Delivery :=
  Transition.run ingest receiver.counted unit.segments

/-- A unit is gathered, and then what is due is delivered. -/
theorem ingestUnit_eq (receiver : Receiver config) (unit : WireUnit) :
    receiver.ingestUnit unit =
      ((receiver.gather unit).1.deliverOrdered.1,
        (receiver.gather unit).2.map .unordered ++
          (receiver.gather unit).1.deliverOrdered.2.map .ordered) := rfl

/-! ## Waiting items -/

/-- Whether an id lies after the cursor. -/
def IsAhead (receiver : Receiver config) (id : SeqId) : Prop :=
  0 < receiver.cursor.distanceTo id ∧ receiver.cursor.distanceTo id < SeqId.halfSpace

/-- Whether an item waits for its predecessors. -/
def Waits (receiver : Receiver config) (delivery : Delivery) : Prop :=
  receiver.buffer[delivery.dataId]? = some delivery

/-- Every item waits under its own id and ahead of the cursor. -/
structure Orderly (receiver : Receiver config) : Prop where
  named : ∀ {id : SeqId} {delivery : Delivery},
    receiver.buffer[id]? = some delivery → delivery.dataId = id
  ahead : ∀ {id : SeqId} {delivery : Delivery},
    receiver.buffer[id]? = some delivery → receiver.IsAhead id

theorem orderly_start (config : Config) : (start config).Orderly where
  named {id delivery} found := by simp [start] at found
  ahead {id delivery} found := by simp [start] at found

theorem Orderly.congr {other : Receiver config} (orderly : receiver.Orderly)
    (cursor : other.cursor = receiver.cursor) (buffer : other.buffer = receiver.buffer) :
    other.Orderly where
  named {id delivery} found := orderly.named (buffer ▸ found)
  ahead {id delivery} found := by
    rw [buffer] at found
    rw [IsAhead, cursor]
    exact orderly.ahead found

/-! ## Arrival -/

theorem isDuplicate_eq_false_iff {dataId : SeqId} :
    receiver.isDuplicate dataId = false ↔
      receiver.IsAhead dataId ∧ receiver.items.any (·.contains dataId) = false ∧
        receiver.buffer[dataId]? = none := by
  have swap := SeqId.distanceTo_comm dataId receiver.cursor
  have near := SeqId.distanceTo_lt receiver.cursor dataId
  have absent : receiver.buffer.contains dataId = false ↔ receiver.buffer[dataId]? = none := by
    rw [Std.ExtTreeMap.contains_eq_isSome_getElem?, Option.isSome_eq_false_iff,
      Option.isNone_iff_eq_none]
  have ahead : dataId.isAtOrBefore receiver.cursor = false ∧
      (receiver.cursor.compare dataId).isNone = false ↔ receiver.IsAhead dataId := by
    rw [← Bool.not_eq_true, ← Bool.not_eq_true, SeqId.isAtOrBefore_iff,
      SeqId.compare_isNone_iff, IsAhead]
    simp only [SeqId.space, SeqId.halfSpace] at *
    omega
  simp only [isDuplicate, Bool.or_eq_false_iff, absent, ← ahead, and_assoc]

/-- With a new item in the buffer, just that item waits besides. -/
theorem waits_insert_iff {after : Receiver config} (delivery : Delivery) {other : Delivery}
    (absent : receiver.buffer[delivery.dataId]? = none)
    (buffer : after.buffer = receiver.buffer.insert delivery.dataId delivery) :
    after.Waits other ↔ receiver.Waits other ∨ other = delivery := by
  rw [Waits, Waits, buffer, SeqMap.getElem?_insert]
  split
  · next same => simp [same, absent, eq_comm]
  · next different =>
    have apart : other ≠ delivery := fun equal => different (congrArg _ equal)
    simp [apart]

/-- A segment is dropped, or it brings a new item that waits from then on. -/
theorem ingest_cases (receiver : Receiver config) (segment : Segment) :
    (receiver.isDuplicate segment.dataId = true ∧
        (ingest receiver segment).2 = [] ∧
        (ingest receiver segment).1.cursor = receiver.cursor ∧
        (ingest receiver segment).1.items = receiver.items ∧
        (ingest receiver segment).1.buffer = receiver.buffer) ∨
      (receiver.isDuplicate segment.dataId = false ∧
        (ingest receiver segment).2 = [⟨segment.dataId, segment.payload⟩] ∧
        (ingest receiver segment).1.cursor = receiver.cursor ∧
        (ingest receiver segment).1.items = some (note receiver.items segment.dataId) ∧
        (ingest receiver segment).1.buffer =
          receiver.buffer.insert segment.dataId ⟨segment.dataId, segment.payload⟩) := by
  have same : (receiver.noteTransmissions segment.transmissionIds).isDuplicate
      segment.dataId = receiver.isDuplicate segment.dataId := rfl
  cases seen : receiver.isDuplicate segment.dataId with
  | true =>
      left
      simp only [ingest, same, seen, if_true]
      exact ⟨trivial, trivial, rfl, rfl, rfl⟩
  | false =>
      right
      simp only [ingest, same, seen]
      exact ⟨trivial, rfl, rfl, rfl, rfl⟩

theorem transmissions_ingest (receiver : Receiver config) (segment : Segment) :
    (ingest receiver segment).1.transmissions =
      segment.transmissionIds.foldl (fun window id => some (note window id))
        receiver.transmissions := by
  simp only [ingest]
  split
  · rfl
  · rfl

theorem cursor_ingest (receiver : Receiver config) (segment : Segment) :
    (ingest receiver segment).1.cursor = receiver.cursor := by
  rcases ingest_cases receiver segment with ⟨_, _, cursor, _⟩ | ⟨_, _, cursor, _⟩
  · exact cursor
  · exact cursor

theorem cursor_run_ingest (receiver : Receiver config) (segments : List Segment) :
    (Transition.run ingest receiver segments).1.cursor = receiver.cursor :=
  Transition.run_preserves ingest (fun other => other.cursor = receiver.cursor)
    (fun other segment same => (cursor_ingest other segment).trans same) receiver segments rfl

theorem Orderly.ingest (orderly : receiver.Orderly) (segment : Segment) :
    (ingest receiver segment).1.Orderly := by
  rcases ingest_cases receiver segment with
    ⟨_, _, cursor, _, buffer⟩ | ⟨fresh, _, cursor, _, buffer⟩
  · exact orderly.congr cursor buffer
  · constructor
    · intro id delivery found
      rw [buffer, SeqMap.getElem?_insert] at found
      split at found
      · next same =>
        cases found
        exact same.symm
      · exact orderly.named found
    · intro id delivery found
      rw [buffer, SeqMap.getElem?_insert] at found
      rw [IsAhead, cursor]
      split at found
      · next same =>
        rw [same]
        exact (isDuplicate_eq_false_iff.mp fresh).1
      · exact orderly.ahead found

end Receiver

end ReliableDatagram
