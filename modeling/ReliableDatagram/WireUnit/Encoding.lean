import ReliableDatagram.WireUnit
import ReliableDatagram.Word

/-!
# The wire format

All numbers are unsigned and start with their most significant byte.

A unit is the newest id acknowledged (2 bytes), the acknowledgment's bitmap
(4 bytes), the number of segments (2 bytes) and then the segments.  Bit `i` of
the bitmap stands for the id `i + 1` places before the newest.

A segment is its data id (2 bytes), the number of its transmission ids
(2 bytes), these ids (2 bytes each), the length of the payload (2 bytes) and the
payload.

Reading goes from left to right and stops at the first fault.  A datagram holds
one unit, and bytes after it are a fault of their own.
-/

namespace ReliableDatagram

/-- What one transmission carries. -/
abbrev Datagram : Type := List UInt8

/-- A datagram does not hold a wire unit. -/
inductive WireError where
  /-- The next field takes `needed` bytes and only `remaining` are left. -/
  | truncated (needed remaining : Nat)
  /-- The unit announces more segments than it may hold. -/
  | tooManySegments (count limit : Nat)
  /-- A segment announces more transmission ids than it may list. -/
  | tooManyTransmissionIds (dataId : SeqId) (count limit : Nat)
  /-- A segment announces that it lists no transmission id. -/
  | noTransmissionIds (dataId : SeqId)
  /-- Bytes follow the last segment. -/
  | trailingBytes (count : Nat)
  deriving DecidableEq, Repr

namespace WireError

/-- The text shown for the error. -/
def message : WireError → String
  | truncated needed remaining =>
      "truncated wire unit: needed " ++ toString needed ++ " more bytes, " ++
        toString remaining ++ " left"
  | tooManySegments count limit =>
      "segment count " ++ toString count ++ " exceeds limit " ++ toString limit
  | tooManyTransmissionIds dataId count limit =>
      "segment " ++ dataId.decimal ++ " lists " ++ toString count ++
        " transmission ids, limit " ++ toString limit
  | noTransmissionIds dataId => "segment " ++ dataId.decimal ++ " lists no transmission ids"
  | trailingBytes count => toString count ++ " trailing bytes after the last segment"

end WireError

/-! ## Ids -/

namespace SeqId

/-- The two bytes of an id. -/
def encode (id : SeqId) : List UInt8 := Word.encode 2 id.toNat

/-- The id in the first two bytes, and the bytes after them. -/
def split (bytes : List UInt8) : SeqId × List UInt8 :=
  match Word.split 2 bytes with
  | (value, rest) => (ofNat value, rest)

/-- The first `count` ids, and the bytes after them. -/
def splitMany : (count : Nat) → List UInt8 → List SeqId × List UInt8
  | 0, bytes => ([], bytes)
  | count + 1, bytes =>
      match split bytes with
      | (id, rest) =>
          match splitMany count rest with
          | (ids, rest) => (id :: ids, rest)

end SeqId

/-- The error that the bytes end too early, if they do. -/
def demand (needed : Nat) (bytes : List UInt8) : Except WireError Unit :=
  if bytes.length < needed then .error (.truncated needed bytes.length) else .ok ()

/-! ## Segments -/

namespace Segment

/-- The bytes of a segment. -/
def encode (segment : Segment) : List UInt8 :=
  segment.dataId.encode ++ Word.encode 2 segment.transmissionIds.length ++
    segment.transmissionIds.flatMap SeqId.encode ++
    Word.encode 2 segment.payload.length ++ segment.payload

/-- The segment at the start of the bytes, and the bytes after it. -/
def split (bytes : List UInt8) : Except WireError (Segment × List UInt8) := do
  demand 4 bytes
  let (dataId, bytes) := SeqId.split bytes
  let (count, bytes) := Word.split 2 bytes
  if count = 0 then .error (.noTransmissionIds dataId)
  else if Capacity.keysPerRecord < count then
    .error (.tooManyTransmissionIds dataId count Capacity.keysPerRecord)
  else do
    demand (2 * count + 2) bytes
    let (transmissionIds, bytes) := SeqId.splitMany count bytes
    let (length, bytes) := Word.split 2 bytes
    demand length bytes
    .ok (⟨dataId, transmissionIds, bytes.take length⟩, bytes.drop length)

/-- The first `count` segments, and the bytes after them. -/
def splitMany : (count : Nat) → List UInt8 → Except WireError (List Segment × List UInt8)
  | 0, bytes => .ok ([], bytes)
  | count + 1, bytes => do
      let (segment, bytes) ← split bytes
      let (segments, bytes) ← splitMany count bytes
      .ok (segment :: segments, bytes)

end Segment

/-! ## Units -/

namespace WireUnit

/-- The datagram that carries a unit. -/
def encode (unit : WireUnit) : Datagram :=
  unit.ack.newest.encode ++ Word.encode 4 unit.ack.bitmap.toNat ++
    Word.encode 2 unit.segments.length ++ unit.segments.flatMap Segment.encode

/-- The unit that a datagram carries. -/
def decode (datagram : Datagram) : Except WireError WireUnit := do
  demand headerLength datagram
  let (newest, bytes) := SeqId.split datagram
  let (bitmap, bytes) := Word.split 4 bytes
  let (count, bytes) := Word.split 2 bytes
  if Capacity.segmentsPerUnit < count then
    .error (.tooManySegments count Capacity.segmentsPerUnit)
  else do
    let (segments, bytes) ← Segment.splitMany count bytes
    if bytes.isEmpty then .ok ⟨⟨newest, BitVec.ofNat 32 bitmap⟩, segments⟩
    else .error (.trailingBytes bytes.length)

end WireUnit

end ReliableDatagram
