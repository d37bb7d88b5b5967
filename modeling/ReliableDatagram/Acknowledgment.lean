import ReliableDatagram.SeqId

/-!
# Acknowledgments

What one side tells the other about the transmissions it has received.
-/

namespace ReliableDatagram

/-- A report of received transmissions: the newest of them, and for each of the
32 ids before it whether it arrived. -/
structure Acknowledgment where
  /-- The newest transmission id received. -/
  newest : SeqId
  /-- Bit `k` says whether the id `k + 1` places before `newest` arrived. -/
  bitmap : BitVec 32
  deriving DecidableEq, Repr, Inhabited

namespace Acknowledgment

/-- The number of ids before the newest one that a report describes. -/
def width : Nat := 32

end Acknowledgment

end ReliableDatagram
