import ReliableDatagram.Capacity

/-!
# Segments

A segment is one copy of an item as it travels: the item's own id, every id it
has gone out under so far, and its bytes.
-/

namespace ReliableDatagram

/-- One data item as framed on the wire. -/
structure Segment where
  /-- The id of the item. -/
  dataId : SeqId
  /-- The ids of its transmissions, oldest first. -/
  transmissionIds : List SeqId
  /-- What the item carries. -/
  payload : Payload
  deriving DecidableEq, Repr

namespace Segment

/-- The id under which this copy of the item goes out. -/
def latest? (segment : Segment) : Option SeqId := segment.transmissionIds.getLast?

/-- The bytes of a segment that do not depend on its content: its id and the two
counts. -/
def overhead : Nat := 6

/-- The number of bytes the segment takes on the wire. -/
def encodedLength (segment : Segment) : Nat :=
  overhead + 2 * segment.transmissionIds.length + segment.payload.length

/-- The number of bytes that several segments take on the wire. -/
def totalLength : List Segment → Nat
  | [] => 0
  | segment :: rest => segment.encodedLength + totalLength rest

/-- Whether both counts of the segment can be written and it lists an id. -/
def InBounds (segment : Segment) : Prop :=
  1 ≤ segment.transmissionIds.length ∧
    segment.transmissionIds.length ≤ Capacity.keysPerRecord ∧
    segment.payload.length ≤ Capacity.payloadBytes

instance (segment : Segment) : Decidable segment.InBounds :=
  inferInstanceAs (Decidable (_ ∧ _ ∧ _))

end Segment

end ReliableDatagram
