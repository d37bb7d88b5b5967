import ReliableDatagram.SendEvent

/-!
# Statistics

Counters that a sender and a receiver keep, the reports made of them, and the
ratios that tell how well a connection does.  Counters are natural numbers and
never overflow.
-/

namespace ReliableDatagram

/-- The share of `part` in `whole` as a binary64 number, zero when there is
nothing to share. -/
def ratio (part whole : Nat) : Float :=
  if whole = 0 then 0 else Float.ofNat part / Float.ofNat whole

/-- What a sender counts. -/
structure SenderCounters where
  /-- Items handed to the sender. -/
  itemsSent : Nat := 0
  /-- Segments produced, first transmissions and retransmissions. -/
  transmissions : Nat := 0
  /-- Segments produced because a timeout had passed. -/
  retransmissions : Nat := 0
  /-- Payload bytes of first transmissions. -/
  bytesSent : Nat := 0
  /-- Items confirmed by the other side. -/
  acked : Nat := 0
  /-- Items given up on because they fell out of the window. -/
  outOfWindow : Nat := 0
  /-- Items given up on at the retransmission limit. -/
  retransmitLimit : Nat := 0
  /-- Items given up on at the queue timeout. -/
  queueTimeout : Nat := 0
  /-- Items given up on to make room. -/
  queueOverflow : Nat := 0
  /-- Round-trip samples fed to the estimator. -/
  rttSamples : Nat := 0
  /-- Round-trip samples dropped because the clock had gone backwards. -/
  rttSamplesDiscarded : Nat := 0
  /-- The last sample fed to the estimator, in microseconds. -/
  lastRttMicros : Nat := 0
  deriving DecidableEq, Repr, Inhabited

namespace SenderCounters

/-- Items given up on, over all reasons. -/
def unacked (counters : SenderCounters) : Nat :=
  counters.outOfWindow + counters.retransmitLimit + counters.queueTimeout +
    counters.queueOverflow

/-- Count an item that was given up on. -/
def countUnacked (counters : SenderCounters) : GiveUpReason → SenderCounters
  | .outOfWindow => { counters with outOfWindow := counters.outOfWindow + 1 }
  | .retransmitLimit => { counters with retransmitLimit := counters.retransmitLimit + 1 }
  | .queueTimeout => { counters with queueTimeout := counters.queueTimeout + 1 }
  | .queueOverflow => { counters with queueOverflow := counters.queueOverflow + 1 }

/-- The share of resolved items that were never confirmed. -/
def lossRate (counters : SenderCounters) : Float :=
  ratio counters.unacked (counters.acked + counters.unacked)

/-- The share of transmissions that were retransmissions. -/
def retransmitRatio (counters : SenderCounters) : Float :=
  ratio counters.retransmissions counters.transmissions

@[simp] theorem unacked_countUnacked (counters : SenderCounters) (reason : GiveUpReason) :
    (counters.countUnacked reason).unacked = counters.unacked + 1 := by
  cases reason <;> simp only [countUnacked, unacked] <;> omega

end SenderCounters

/-- A report on a sender: its counters and three readings of its state. -/
structure SenderStats extends SenderCounters where
  /-- The smoothed round-trip time in microseconds, zero before any sample. -/
  meanRttMicros : Nat := 0
  /-- The retransmission timeout in microseconds. -/
  timeoutMicros : Nat := 0
  /-- Items awaiting acknowledgment. -/
  pending : Nat := 0
  deriving DecidableEq, Repr, Inhabited

/-- What a receiver counts. -/
structure ReceiverCounters where
  /-- Wire units ingested. -/
  unitsReceived : Nat := 0
  /-- Datagrams that held no wire unit. -/
  malformedUnits : Nat := 0
  /-- Segments ingested, duplicates included. -/
  segmentsReceived : Nat := 0
  /-- Payload bytes of new items. -/
  bytesReceived : Nat := 0
  /-- Segments whose item was known already. -/
  duplicates : Nat := 0
  /-- Items delivered on arrival. -/
  deliveredUnordered : Nat := 0
  /-- Items delivered in order. -/
  deliveredOrdered : Nat := 0
  /-- Items given up on because delivery lagged too far behind. -/
  skipped : Nat := 0
  deriving DecidableEq, Repr, Inhabited

namespace ReceiverCounters

/-- The share of segments that carried a new item. -/
def goodputRatio (counters : ReceiverCounters) : Float :=
  ratio (counters.segmentsReceived - counters.duplicates) counters.segmentsReceived

/-- The share of items passed by delivery in order that never arrived. -/
def skipRatio (counters : ReceiverCounters) : Float :=
  ratio counters.skipped (counters.deliveredOrdered + counters.skipped)

end ReceiverCounters

/-- A report on a receiver: its counters and two readings of its state. -/
structure ReceiverStats extends ReceiverCounters where
  /-- Items waiting behind a gap. -/
  buffered : Nat := 0
  /-- The id of the last item delivered in order. -/
  cursor : SeqId := .ofNat 0
  deriving DecidableEq, Repr, Inhabited

end ReliableDatagram
