import ReliableDatagram.Capacity

/-!
# What becomes of a sent item

Each item that is sent is resolved once: it is acknowledged, or given up on for
one of four reasons.
-/

namespace ReliableDatagram

/-- Why an item was given up on. -/
inductive GiveUpReason where
  /-- Its latest transmission fell behind the range that an acknowledgment
  describes. -/
  | outOfWindow
  /-- It was retransmitted as often as allowed. -/
  | retransmitLimit
  /-- It was pending for longer than allowed. -/
  | queueTimeout
  /-- It was the oldest item when the queue was full. -/
  | queueOverflow
  deriving DecidableEq, Repr

namespace GiveUpReason

/-- The text shown for the reason. -/
def text : GiveUpReason → String
  | outOfWindow => "out of window"
  | retransmitLimit => "retransmit limit"
  | queueTimeout => "queue timeout"
  | queueOverflow => "queue overflow"

end GiveUpReason

/-- The resolution of a sent item. -/
inductive SendEvent where
  /-- The other side has confirmed the item. -/
  | acked (dataId : SeqId) (payload : Payload)
  /-- The item was given up on. -/
  | unacked (dataId : SeqId) (payload : Payload) (reason : GiveUpReason)
  deriving DecidableEq, Repr

namespace SendEvent

/-- The id of the item. -/
def dataId : SendEvent → SeqId
  | acked dataId _ => dataId
  | unacked dataId _ _ => dataId

/-- What the item carried. -/
def payload : SendEvent → Payload
  | acked _ payload => payload
  | unacked _ payload _ => payload

/-- Whether the item was confirmed. -/
def isAcked : SendEvent → Bool
  | acked _ _ => true
  | unacked _ _ _ => false

end SendEvent

end ReliableDatagram
