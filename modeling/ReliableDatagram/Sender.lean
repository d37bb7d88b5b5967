import ReliableDatagram.ReceiptWindow
import ReliableDatagram.RoundTrip
import ReliableDatagram.Segment
import ReliableDatagram.Statistics
import ReliableDatagram.Table
import ReliableDatagram.Transition

/-!
# Senders

A sender gives every item an id of its own and every transmission of it a fresh
transmission id.  The item stays pending, and can be found under all its
transmission ids, until it is resolved: the other side acknowledges one of these
ids, or the sender gives the item up.

Nothing is sent here.  `send` and `retransmit` answer with the segments to
transmit, `acknowledge` takes in what the other side reports, and all three
answer with the items that were resolved.  The state depends on the
configuration by its type.
-/

namespace ReliableDatagram

/-- What a sender keeps of a pending item.  Its id, its transmission ids and the
time of its latest transmission are kept by the table. -/
structure PendingItem where
  /-- What the item carries. -/
  payload : Payload
  /-- How often it was retransmitted. -/
  retransmissions : Nat
  /-- When it was transmitted first. -/
  firstSentAt : Instant
  deriving DecidableEq, Repr

/-- The sending half of one end of a connection. -/
structure Sender (config : Config) where
  /-- The items in flight, filed under their transmission ids and touched at
  each transmission. -/
  pending : Table PendingItem
  /-- The ids of items to come. -/
  dataIds : SeqId.Generator
  /-- The ids of transmissions to come. -/
  transmissionIds : SeqId.Generator
  /-- What is known of the round-trip time. -/
  roundTrip : RoundTrip
  /-- What happened so far. -/
  counters : SenderCounters

namespace Sender

variable {config : Config}

/-- The sender before its first item. -/
def start (config : Config) : Sender config where
  pending := ∅
  dataIds := ⟨config.initialDataId⟩
  transmissionIds := ⟨config.initialTransmissionId⟩
  roundTrip := RoundTrip.start
  counters := {}

/-! ## Readings -/

/-- The id that the next item gets. -/
def nextDataId (sender : Sender config) : SeqId := sender.dataIds.upcoming

/-- The id under which the next segment goes out. -/
def nextTransmissionId (sender : Sender config) : SeqId := sender.transmissionIds.upcoming

/-- The number of items awaiting acknowledgment. -/
def pendingCount (sender : Sender config) : Nat := sender.pending.size

/-- Whether an item awaits acknowledgment. -/
def isPending (sender : Sender config) (dataId : SeqId) : Bool :=
  sender.pending.toList.any fun entry => entry.2.primary == dataId

/-- How long to wait for an acknowledgment before an item is sent again. -/
def timeout (sender : Sender config) : Duration := sender.roundTrip.timeout config

/-- A duration in microseconds as a report gives it, in 64 bits. -/
def reportMicros (duration : Duration) : Nat := duration.micros % UInt64.size

/-- The report on the sender. -/
def stats (sender : Sender config) : SenderStats :=
  { sender.counters with
    meanRttMicros := (sender.roundTrip.mean?.map reportMicros).getD 0
    timeoutMicros := reportMicros sender.timeout
    pending := sender.pendingCount }

/-! ## Giving up -/

/-- Give up on the item in a slot. -/
def giveUp (reason : GiveUpReason) : Transition (Sender config) Nat SendEvent :=
  fun sender slot =>
    match sender.pending.record? slot with
    | none => (sender, [])
    | some record =>
        ({ sender with
            pending := sender.pending.remove slot
            counters := sender.counters.countUnacked reason },
          [.unacked record.primary record.value.payload reason])

/-- Give up on an item that has just lost its last transmission id to another
item.  It can no longer be acknowledged. -/
def giveUpOrphan (sender : Sender config) (displaced : Option Nat) :
    Sender config × List SendEvent :=
  match displaced with
  | none => (sender, [])
  | some slot =>
      if (sender.pending.record? slot).any (·.keys.isEmpty) then
        giveUp .outOfWindow sender slot
      else (sender, [])

/-- How many items were sent since the one with this id, itself included. -/
def age (sender : Sender config) (dataId : SeqId) : Nat :=
  dataId.distanceTo sender.nextDataId

/-- The slot of the pending item with the greatest age.  Of several, the one in
the highest slot. -/
def oldest? (sender : Sender config) : Option Nat :=
  let older (best : Option (Nat × Nat)) (entry : Nat × Record PendingItem) :=
    let age := sender.age entry.2.primary
    match best with
    | none => some (age, entry.1)
    | some (bestAge, _) => if bestAge ≤ age then some (age, entry.1) else best
  (sender.pending.toList.foldl older none).map (·.2)

/-- Give up on the oldest item, if there is one. -/
def evictOldest : Transition (Sender config) Unit SendEvent :=
  fun sender () =>
    match sender.oldest? with
    | none => (sender, [])
    | some slot => giveUp .queueOverflow sender slot

/-- Give up on the oldest items until there is room for one more. -/
def makeRoom (sender : Sender config) : Sender config × List SendEvent :=
  let surplus := sender.pendingCount + 1 - config.queueLimit
  Transition.run evictOldest sender (List.replicate surplus ())

/-! ## Sending -/

/-- Take on an item.  The answer holds its first segment and the items that were
given up on for it.

A full queue gives up on its oldest item first.  An item that is too long is
refused and changes nothing. -/
def send (sender : Sender config) (payload : Payload) (now : Instant) :
    Except CapacityError (Sender config × Segment × List SendEvent) :=
  if Capacity.payloadBytes < payload.length then
    .error (.payloadTooLarge payload.length Capacity.payloadBytes)
  else do
    let (sender, evicted) := sender.makeRoom
    let (dataId, dataIds) := sender.dataIds.draw
    let (transmissionId, transmissionIds) := sender.transmissionIds.draw
    let slot := sender.pending.freshSlot
    let created := sender.pending.create dataId ⟨payload, 0, now⟩ now
    let (pending, displaced) ← created.register transmissionId slot
    let counters := { sender.counters with
      itemsSent := sender.counters.itemsSent + 1
      transmissions := sender.counters.transmissions + 1
      bytesSent := sender.counters.bytesSent + payload.length }
    let registered : Sender config :=
      { sender with pending, dataIds, transmissionIds, counters }
    let (sender, orphaned) := registered.giveUpOrphan displaced
    .ok (sender, ⟨dataId, [transmissionId], payload⟩, evicted ++ orphaned)

/-! ## Acknowledgments -/

/-- Take a round-trip sample from an item that was just acknowledged under its
latest transmission id.  A transmission that lies in the future gives none. -/
def sampleRoundTrip (sender : Sender config) (sentAt now : Instant) : Sender config :=
  match now.since? sentAt with
  | some sample =>
      { sender with
        roundTrip := sender.roundTrip.observe config sample
        counters := { sender.counters with
          rttSamples := sender.counters.rttSamples + 1
          lastRttMicros := reportMicros sample } }
  | none =>
      { sender with
        counters := { sender.counters with
          rttSamplesDiscarded := sender.counters.rttSamplesDiscarded + 1 } }

/-- Resolve the item that went out under an acknowledged transmission id.

Only the latest transmission has a send time of its own, so an item that is
acknowledged under an older id gives no round-trip sample. -/
def confirm (now : Instant) : Transition (Sender config) SeqId SendEvent :=
  fun sender transmissionId =>
    match sender.pending.holder? transmissionId with
    | none => (sender, [])
    | some slot =>
        match sender.pending.record? slot with
        | none => (sender, [])
        | some record =>
            let removed := { sender with
              pending := sender.pending.remove slot
              counters := { sender.counters with acked := sender.counters.acked + 1 } }
            let sampled :=
              if record.latest? = some transmissionId then
                removed.sampleRoundTrip record.touchedAt now
              else removed
            (sampled, [.acked record.primary record.value.payload])

/-- The transmission ids before `threshold` that are in use, oldest first. -/
def idsBefore (sender : Sender config) (threshold : SeqId) : List (SeqId × Nat) :=
  (sender.pending.keysFrom (threshold.advance (SeqId.halfSpace + 1))).takeWhile
    fun entry => entry.1.isBefore threshold

/-- Give up on every item whose latest transmission id is before `threshold`, and
forget the ids before it that later transmissions have superseded. -/
def pruneBefore (sender : Sender config) (threshold : SeqId) :
    Sender config × List SendEvent :=
  let stale := sender.idsBefore threshold
  let lost := stale.filter fun entry => sender.pending.isLatest entry.1 entry.2
  let superseded := stale.filter fun entry => !sender.pending.isLatest entry.1 entry.2
  let pending := superseded.foldl (fun table entry => table.release entry.1) sender.pending
  Transition.run (giveUp .outOfWindow) { sender with pending } (lost.map (·.2))

/-- Take in what the other side has received.

Every item of which one transmission is reported is resolved.  Of the others,
those whose latest transmission is older than all that the report describes are
given up on.  A report of a transmission that was never sent is ignored. -/
def acknowledge (sender : Sender config) (ack : Acknowledgment) (now : Instant) :
    Sender config × List SendEvent :=
  if ack.newest.isAtOrBefore sender.nextTransmissionId.previous then
    let received := (ReceiptWindow.ofAcknowledgment ack).observed
    let (sender, confirmed) := Transition.run (confirm now) sender received
    let (sender, lost) := sender.pruneBefore (ack.newest.retreat Acknowledgment.width)
    (sender, confirmed ++ lost)
  else (sender, [])

/-! ## Retransmission -/

/-- The slots of the pending items, the oldest item first.  Any order is allowed among
items of one age, and here it is the one of their slots. -/
def oldestFirst (sender : Sender config) : List Nat :=
  let aged := sender.pending.toList.map fun entry => (sender.age entry.2.primary, entry.1)
  (aged.mergeSort fun left right => right.1 ≤ left.1).map (·.2)

/-- Send the item in a slot again under a fresh transmission id. -/
def sendAgain (now : Instant) :
    Transition (Sender config) Nat (Segment ⊕ SendEvent) :=
  fun sender slot =>
    let (transmissionId, transmissionIds) := sender.transmissionIds.draw
    let sender := { sender with transmissionIds }
    match sender.pending.register transmissionId slot with
    | .error _ =>
        let (sender, given) := giveUp .retransmitLimit sender slot
        (sender, given.map Sum.inr)
    | .ok (pending, displaced) =>
        let registered : Sender config := { sender with pending }
        let (sender, orphaned) := registered.giveUpOrphan displaced
        let pending := (sender.pending.touch slot now).update slot fun item =>
          { item with retransmissions := item.retransmissions + 1 }
        let sender := { sender with pending }
        match pending.record? slot with
        | none => (sender, orphaned.map Sum.inr)
        | some record =>
            let counters := { sender.counters with
              retransmissions := sender.counters.retransmissions + 1
              transmissions := sender.counters.transmissions + 1 }
            let segment : Segment := ⟨record.primary, record.keys, record.value.payload⟩
            ({ sender with counters }, orphaned.map Sum.inr ++ [Sum.inl segment])

/-- Decide what to do with the item in a slot: give it up, leave it or send it
again. -/
def revisit (timeout : Duration) (now : Instant) :
    Transition (Sender config) Nat (Segment ⊕ SendEvent) :=
  fun sender slot =>
    let abandon (reason : GiveUpReason) :=
      let (sender, given) := giveUp reason sender slot
      (sender, given.map Sum.inr)
    match sender.pending.record? slot with
    | none => (sender, [])
    | some record =>
        if config.queueTimeout.any (· ≤ now.since record.value.firstSentAt) then
          abandon .queueTimeout
        else if now.since record.touchedAt < timeout then (sender, [])
        else if config.retransmitLimit ≤ record.value.retransmissions then
          abandon .retransmitLimit
        else sendAgain now sender slot

/-- Send every item again that has waited for the timeout, oldest first.  Items
that are too old or were sent too often are given up on instead. -/
def retransmit (sender : Sender config) (now : Instant) :
    Sender config × List Segment × List SendEvent :=
  let (after, outputs) :=
    Transition.run (revisit sender.timeout now) sender sender.oldestFirst
  (after, outputs.filterMap Sum.getLeft?, outputs.filterMap Sum.getRight?)

end Sender

end ReliableDatagram
