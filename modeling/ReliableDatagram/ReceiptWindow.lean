import ReliableDatagram.Acknowledgment

/-!
# Receipt windows

A receipt window remembers which of the 64 newest sequence ids arrived.  It is
anchored at the newest id and counts offsets backwards from there: offset 0 is
the anchor and offset `k` the id `k` places before it.

A window is wider than an acknowledgment, which describes 32 offsets past the
anchor.  The history beyond that survives until `acknowledgment` packs it.
-/

namespace ReliableDatagram

/-- Receipt history of the newest ids. -/
structure ReceiptWindow where
  /-- The newest id, at offset 0. -/
  anchor : SeqId
  /-- Bit `k` says whether the id at offset `k` arrived. -/
  history : BitVec 64
  deriving DecidableEq, Repr

namespace ReceiptWindow

/-- The number of offsets a window remembers, the anchor included. -/
def capacity : Nat := 64

/-- The window in which the anchor arrived and nothing else. -/
def anchoredAt (anchor : SeqId) : ReceiptWindow := ⟨anchor, 1#64⟩

/-- Whether the id at `offset` arrived.  Offsets past the capacity read as not
arrived. -/
def get (window : ReceiptWindow) (offset : Nat) : Bool := window.history.getLsbD offset

/-- The history in which the bit at `offset` has the given value.  Bits past the
capacity are not stored. -/
def write (history : BitVec 64) (offset : Nat) (value : Bool) : BitVec 64 :=
  if offset < capacity then
    if value then history ||| BitVec.twoPow 64 offset
    else history &&& ~~~ BitVec.twoPow 64 offset
  else history

/-- The window with its anchor moved `steps` ids forward.  The ids in between
have not arrived. -/
def shift (window : ReceiptWindow) (steps : Nat) : ReceiptWindow where
  anchor := window.anchor.advance steps
  history := if steps < capacity then window.history <<< steps else 0#64

/-- The window in which the id at `offset` did or did not arrive.  A negative
offset names an id newer than the anchor; that id becomes the anchor. -/
def set (window : ReceiptWindow) (offset : Int) (value : Bool) : ReceiptWindow :=
  match offset with
  | .ofNat older => { window with history := write window.history older value }
  | .negSucc ahead =>
      let moved := window.shift (ahead + 1)
      { moved with history := write moved.history 0 value }

/-- How far `id` lies behind the anchor, negative for an id newer than it. -/
def offsetOf (window : ReceiptWindow) (id : SeqId) : Int := window.anchor.diff id

/-- The window after `id` arrived.  An id exactly half the space from the anchor
is neither older nor newer and is ignored. -/
def mark (window : ReceiptWindow) (id : SeqId) : ReceiptWindow :=
  if (window.anchor.compare id).isNone then window
  else window.set (window.offsetOf id) true

/-- Whether the window remembers anything about `id`. -/
def covers (window : ReceiptWindow) (id : SeqId) : Bool :=
  0 ≤ window.offsetOf id && window.offsetOf id < capacity

/-- Whether the window remembers that `id` arrived. -/
def contains (window : ReceiptWindow) (id : SeqId) : Bool :=
  window.covers id && window.get (window.offsetOf id).toNat

/-- The ids that arrived, newest first. -/
def observed (window : ReceiptWindow) : List SeqId :=
  ((List.range capacity).filter window.get).map window.anchor.retreat

/-! ## Look-up -/

theorem get_eq_false_of_capacity_le {window : ReceiptWindow} {offset : Nat}
    (outside : capacity ≤ offset) : window.get offset = false :=
  BitVec.getLsbD_of_ge _ _ outside

@[simp] theorem get_anchoredAt (anchor : SeqId) (offset : Nat) :
    (anchoredAt anchor).get offset = decide (offset = 0) := by
  simp [get, anchoredAt, BitVec.getLsbD_one]

/-- Writing changes the bit at one offset, if there is such a bit. -/
theorem getLsbD_write (history : BitVec 64) (offset : Nat) (value : Bool) (other : Nat) :
    (write history offset value).getLsbD other =
      if other = offset ∧ offset < capacity then value else history.getLsbD other := by
  unfold write
  by_cases inside : offset < capacity
  · by_cases same : other = offset
    · subst same
      have stored : other < 64 := inside
      cases value <;> simp [inside, stored]
    · by_cases stored : other < 64
      · cases value <;> simp [inside, same, stored]
      · have beyond : 64 ≤ other := Nat.le_of_not_lt stored
        rw [BitVec.getLsbD_of_ge _ _ beyond, BitVec.getLsbD_of_ge _ _ beyond]
        simp [same]
  · simp [inside]

/-- What is remembered moves away from the anchor by the number of steps, and is
forgotten when it moves past the capacity. -/
theorem get_shift (window : ReceiptWindow) (steps offset : Nat) :
    (window.shift steps).get offset =
      (decide (steps ≤ offset) && decide (offset < capacity) && window.get (offset - steps)) := by
  simp only [get, shift]
  split
  · rw [BitVec.getLsbD_shiftLeft]
    by_cases reached : steps ≤ offset
    · by_cases inside : offset < capacity
      · have stored : offset < 64 := inside
        simp [reached, inside, stored]
      · have beyond : ¬ offset < 64 := inside
        simp [inside, beyond]
    · simp [reached, Nat.lt_of_not_le reached]
  · next far =>
    by_cases reached : steps ≤ offset
    · have outside : ¬ offset < capacity := fun inside => far (Nat.lt_of_le_of_lt reached inside)
      simp [outside]
    · simp [reached]

/-! ## Packed form -/

/-- The number whose lowest `width` bits are set and no others. -/
def lowMask (width : Nat) : BitVec 64 := BitVec.allOnes 64 >>> (capacity - width)

/-- The widest packed form: every offset but the anchor's. -/
def clampWidth (width : Nat) : Nat := min width (capacity - 1)

/-- The offsets `1` to `width` as the bits `0` to `width - 1`.  The anchor and
the history beyond `width` are left out. -/
def pack (window : ReceiptWindow) (width : Nat) : BitVec 64 :=
  (window.history >>> 1) &&& lowMask (clampWidth width)

/-- The window that a packed form describes.  Its anchor has arrived, and nothing
beyond `width` has. -/
def unpack (anchor : SeqId) (bits : BitVec 64) (width : Nat) : ReceiptWindow :=
  ⟨anchor, ((bits &&& lowMask (clampWidth width)) <<< 1) ||| 1#64⟩

/-- The packed form that an acknowledgment carries. -/
def bitmap (window : ReceiptWindow) : BitVec 32 :=
  (window.pack Acknowledgment.width).setWidth 32

/-- The acknowledgment of what the window remembers. -/
def acknowledgment (window : ReceiptWindow) : Acknowledgment :=
  ⟨window.anchor, window.bitmap⟩

/-- The window that an acknowledgment describes. -/
def ofAcknowledgment (ack : Acknowledgment) : ReceiptWindow :=
  unpack ack.newest (ack.bitmap.setWidth 64) Acknowledgment.width

end ReceiptWindow

end ReliableDatagram
