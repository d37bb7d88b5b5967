import ReliableDatagram.Acknowledgment
import ReliableDatagram.Segment

/-!
# Wire units

One datagram carries one wire unit: what its sender has received from the other
side, followed by a chain of segments.

A unit is in bounds when all its counts can be written.  A builder accepts
segments one at a time and refuses each that would leave the bounds.
-/

namespace ReliableDatagram

/-- An acknowledgment and a chain of segments. -/
structure WireUnit where
  /-- What the sender of the unit has received. -/
  ack : Acknowledgment
  /-- The items that travel with it. -/
  segments : List Segment
  deriving DecidableEq, Repr

namespace WireUnit

/-- The unit that carries an acknowledgment and nothing else. -/
def ackOnly (ack : Acknowledgment) : WireUnit := ⟨ack, []⟩

/-- The bytes in front of the segments: the acknowledgment and the number of
segments. -/
def headerLength : Nat := 8

/-- The number of bytes the unit takes on the wire. -/
def encodedLength (unit : WireUnit) : Nat :=
  headerLength + Segment.totalLength unit.segments

/-- Whether the unit and each of its segments can be written. -/
def InBounds (unit : WireUnit) : Prop :=
  unit.segments.length ≤ Capacity.segmentsPerUnit ∧
    ∀ segment ∈ unit.segments, segment.InBounds

instance (unit : WireUnit) : Decidable unit.InBounds :=
  inferInstanceAs (Decidable (_ ∧ ∀ segment ∈ unit.segments, segment.InBounds))

/-- A unit under construction, with the number of segments it may take. -/
structure Builder where
  /-- What has been accepted so far. -/
  unit : WireUnit
  /-- The largest number of segments. -/
  limit : Nat
  deriving DecidableEq, Repr

namespace Builder

/-- A builder that takes at most `limit` segments, and never more than a unit may
hold. -/
def withLimit (ack : Acknowledgment) (limit : Nat) : Builder :=
  ⟨ackOnly ack, min limit Capacity.segmentsPerUnit⟩

/-- A builder that takes as many segments as a unit may hold. -/
def start (ack : Acknowledgment) : Builder := withLimit ack Capacity.segmentsPerUnit

/-- The number of segments accepted so far. -/
def size (builder : Builder) : Nat := builder.unit.segments.length

/-- Whether no segment has been accepted. -/
def isEmpty (builder : Builder) : Bool := builder.unit.segments.isEmpty

/-- Whether no further segment will be accepted. -/
def isFull (builder : Builder) : Bool := builder.limit ≤ builder.size

/-- Accept one more segment at the end of the chain. -/
def push (builder : Builder) (segment : Segment) : Except CapacityError Builder :=
  if builder.isFull then
    .error (.tooManySegments builder.limit)
  else if Capacity.payloadBytes < segment.payload.length then
    .error (.payloadTooLarge segment.payload.length Capacity.payloadBytes)
  else if segment.transmissionIds.isEmpty then
    .error (.noTransmissionIds segment.dataId)
  else if Capacity.keysPerRecord < segment.transmissionIds.length then
    .error (.tooManyKeys segment.dataId Capacity.keysPerRecord)
  else
    .ok { builder with
      unit := { builder.unit with segments := builder.unit.segments ++ [segment] } }

end Builder

end WireUnit

end ReliableDatagram
