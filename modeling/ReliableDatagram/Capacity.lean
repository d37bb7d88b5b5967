import ReliableDatagram.SeqId

/-!
# Size bounds

The bounds on records, segments and wire units, and the errors raised by what
would exceed them.
-/

namespace ReliableDatagram

/-- The bytes that one item carries. -/
abbrev Payload : Type := List UInt8

namespace Capacity

/-- The number of keys a record may be filed under, and of transmission ids a
segment may list. -/
def keysPerRecord : Nat := 256

/-- The number of segments a wire unit may chain. -/
def segmentsPerUnit : Nat := 256

/-- The number of bytes a segment may carry. -/
def payloadBytes : Nat := 65535

end Capacity

/-- A record, a segment or a unit would leave its size bounds. -/
inductive CapacityError where
  /-- The record named `primary` holds as many keys as it may. -/
  | tooManyKeys (primary : SeqId) (limit : Nat)
  /-- The unit holds as many segments as it may. -/
  | tooManySegments (limit : Nat)
  /-- The payload is longer than a segment may carry. -/
  | payloadTooLarge (length limit : Nat)
  /-- The segment lists no transmission id. -/
  | noTransmissionIds (dataId : SeqId)
  deriving DecidableEq, Repr

namespace CapacityError

/-- The text shown for the error. -/
def message : CapacityError → String
  | tooManyKeys primary limit =>
      "record " ++ primary.decimal ++ " already holds " ++ toString limit ++ " transmission ids"
  | tooManySegments limit => "wire unit already holds " ++ toString limit ++ " segments"
  | payloadTooLarge length limit =>
      "payload of " ++ toString length ++ " bytes exceeds the " ++ toString limit ++
        "-byte segment limit"
  | noTransmissionIds dataId => "segment " ++ dataId.decimal ++ " carries no transmission id"

end CapacityError

end ReliableDatagram
