import ReliableDatagram.ReceiptWindow
import ReliableDatagram.Config
import ReliableDatagram.SeqMap
import ReliableDatagram.Statistics
import ReliableDatagram.Transition
import ReliableDatagram.WireUnit.Encoding

/-!
# Receivers

A receiver takes in wire units.  It notes which transmissions arrived, for the
acknowledgment it owes the other side, drops items it has seen before, and
delivers each new item twice: at once, and in the order of the item ids as soon
as all its predecessors were delivered.

Items that arrive ahead of a gap wait in a buffer.  When delivery in order lags
behind the newest item by more than the configured limit, the oldest gaps are
given up on and delivery skips forward.
-/

namespace ReliableDatagram

/-- An item handed to the application. -/
structure Delivery where
  /-- The id of the item. -/
  dataId : SeqId
  /-- What the item carries. -/
  payload : Payload
  deriving DecidableEq, Repr

/-- Data for the application. -/
inductive ReceiveEvent where
  /-- A new item has arrived.  Predecessors may be missing. -/
  | unordered (delivery : Delivery)
  /-- The item and all its predecessors have arrived or were given up on. -/
  | ordered (delivery : Delivery)
  deriving DecidableEq, Repr

namespace ReceiveEvent

/-- The item of the event. -/
def delivery : ReceiveEvent → Delivery
  | unordered delivery => delivery
  | ordered delivery => delivery

/-- Whether the event belongs to the delivery in order. -/
def isOrdered : ReceiveEvent → Bool
  | unordered _ => false
  | ordered _ => true

end ReceiveEvent

/-- What a datagram brought. -/
structure Incoming where
  /-- What the other side has received, for the sender on this side. -/
  ack : Acknowledgment
  /-- What is new for the application. -/
  events : List ReceiveEvent
  deriving DecidableEq, Repr

/-- The receiving half of one end of a connection. -/
structure Receiver (config : Config) where
  /-- The transmissions that arrived. -/
  transmissions : Option ReceiptWindow
  /-- The items that arrived. -/
  items : Option ReceiptWindow
  /-- The id of the last item delivered in order. -/
  cursor : SeqId
  /-- The items that arrived ahead of a gap. -/
  buffer : SeqMap Delivery
  /-- Whether a transmission arrived since the last acknowledgment was sent. -/
  ackDue : Bool
  /-- What happened so far. -/
  counters : ReceiverCounters

namespace Receiver

variable {config : Config}

/-- The receiver before its first unit. -/
def start (config : Config) : Receiver config where
  transmissions := none
  items := none
  cursor := config.initialDataId.previous
  buffer := ∅
  ackDue := false
  counters := {}

/-! ## Readings -/

/-- The id of the newest item that arrived. -/
def highestDataId (receiver : Receiver config) : Option SeqId :=
  receiver.items.map (·.anchor)

/-- The id of the newest transmission that arrived. -/
def highestTransmissionId (receiver : Receiver config) : Option SeqId :=
  receiver.transmissions.map (·.anchor)

/-- The number of items waiting behind a gap. -/
def buffered (receiver : Receiver config) : Nat := receiver.buffer.size

/-- What to report to the other side.  Before anything has arrived the report
names the id just before the first transmission, and nothing before it. -/
def acknowledgment (receiver : Receiver config) : Acknowledgment :=
  match receiver.transmissions with
  | some window => window.acknowledgment
  | none => ⟨config.initialTransmissionId.previous, 0#32⟩

/-- The report on the receiver. -/
def stats (receiver : Receiver config) : ReceiverStats :=
  { receiver.counters with
    buffered := receiver.buffered
    cursor := receiver.cursor }

/-- The receiver after its acknowledgment was sent. -/
def ackSent (receiver : Receiver config) : Receiver config :=
  { receiver with ackDue := false }

/-! ## Arrival -/

/-- The window after one more id arrived.  The first id becomes the anchor. -/
def note (window : Option ReceiptWindow) (id : SeqId) : ReceiptWindow :=
  match window with
  | some window => window.mark id
  | none => .anchoredAt id

/-- The receiver after the transmissions that a segment names arrived. -/
def noteTransmissions (receiver : Receiver config) (ids : List SeqId) : Receiver config :=
  { receiver with
    transmissions := ids.foldl (fun window id => some (note window id)) receiver.transmissions
    ackDue := receiver.ackDue || !ids.isEmpty }

/-- Whether an item was seen before, or is so far away that it cannot be told
whether it was. -/
def isDuplicate (receiver : Receiver config) (dataId : SeqId) : Bool :=
  dataId.isAtOrBefore receiver.cursor ||
    (receiver.cursor.compare dataId).isNone ||
    receiver.items.any (·.contains dataId) ||
    receiver.buffer.contains dataId

/-- Take in one segment.  A new item goes into the buffer and is delivered at
once. -/
def ingest : Transition (Receiver config) Segment Delivery :=
  fun receiver segment =>
    let receiver := receiver.noteTransmissions segment.transmissionIds
    let counters := { receiver.counters with
      segmentsReceived := receiver.counters.segmentsReceived + 1 }
    if receiver.isDuplicate segment.dataId then
      ({ receiver with
          counters := { counters with duplicates := counters.duplicates + 1 } }, [])
    else
      let delivery : Delivery := ⟨segment.dataId, segment.payload⟩
      ({ receiver with
          items := some (note receiver.items segment.dataId)
          buffer := receiver.buffer.insert segment.dataId delivery
          counters := { counters with
            bytesReceived := counters.bytesReceived + segment.payload.length
            deliveredUnordered := counters.deliveredUnordered + 1 } }, [delivery])

/-! ## Delivery in order -/

/-- The buffer without the items of the given ids. -/
def takeOut (buffer : SeqMap Delivery) (ids : List SeqId) : SeqMap Delivery :=
  ids.foldl (fun buffer id => buffer.erase id) buffer

/-- Where delivery has to skip to, if it lags too far behind the newest item. -/
def skipTarget? (receiver : Receiver config) : Option SeqId :=
  match receiver.highestDataId with
  | none => none
  | some highest =>
      if highest.isAfter receiver.cursor &&
          config.offsetLimit < receiver.cursor.distanceTo highest then
        some (highest.retreat config.offsetLimit)
      else none

/-- Move the cursor forward to `target`.  What waits in the buffer on the way is
delivered and all else on the way is given up on. -/
def skipTo (receiver : Receiver config) (target : SeqId) : Receiver config × List Delivery :=
  let origin := receiver.cursor.next
  let span := origin.distanceTo target
  let passed := (receiver.buffer.entriesFrom origin).takeWhile fun entry =>
    origin.distanceTo entry.1 ≤ span
  ({ receiver with
      cursor := target
      buffer := takeOut receiver.buffer (passed.map (·.1))
      counters := { receiver.counters with
        skipped := receiver.counters.skipped + (span + 1 - passed.length)
        deliveredOrdered := receiver.counters.deliveredOrdered + passed.length } },
    passed.map (·.2))

/-- The ids right after the cursor of which every one waits in the buffer. -/
def readyIds (receiver : Receiver config) : List SeqId :=
  ((List.range receiver.buffer.size).map fun steps =>
    receiver.cursor.advance (steps + 1)).takeWhile receiver.buffer.contains

/-- Deliver what waits right after the cursor, and move the cursor along. -/
def deliverReady (receiver : Receiver config) : Receiver config × List Delivery :=
  let ready := receiver.readyIds
  let deliveries := ready.filterMap fun id => receiver.buffer[id]?
  ({ receiver with
      cursor := receiver.cursor.advance ready.length
      buffer := takeOut receiver.buffer ready
      counters := { receiver.counters with
        deliveredOrdered := receiver.counters.deliveredOrdered + deliveries.length } },
    deliveries)

/-- Skip forward if the limit demands it, and then deliver what is ready. -/
def deliverOrdered (receiver : Receiver config) : Receiver config × List Delivery :=
  match receiver.skipTarget? with
  | none => receiver.deliverReady
  | some target =>
      let (receiver, passed) := receiver.skipTo target
      let (receiver, ready) := receiver.deliverReady
      (receiver, passed ++ ready)

/-! ## Units -/

/-- Take in a unit.  The new items come first in the answer, and then the items
whose turn in the order has come. -/
def ingestUnit (receiver : Receiver config) (unit : WireUnit) :
    Receiver config × List ReceiveEvent :=
  let counted := { receiver with
    counters := { receiver.counters with
      unitsReceived := receiver.counters.unitsReceived + 1 } }
  let (receiver, arrived) := Transition.run ingest counted unit.segments
  let (receiver, delivered) := receiver.deliverOrdered
  (receiver, arrived.map .unordered ++ delivered.map .ordered)

/-- Take in a datagram.  One that holds no unit is counted and changes nothing
else. -/
def ingestDatagram (receiver : Receiver config) (datagram : Datagram) :
    Receiver config × Except WireError Incoming :=
  match WireUnit.decode datagram with
  | .error error =>
      ({ receiver with
          counters := { receiver.counters with
            malformedUnits := receiver.counters.malformedUnits + 1 } }, .error error)
  | .ok unit =>
      let (receiver, events) := receiver.ingestUnit unit
      (receiver, .ok ⟨unit.ack, events⟩)

end Receiver

end ReliableDatagram
