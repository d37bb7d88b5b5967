import ReliableDatagram.Arena
import ReliableDatagram.Capacity
import ReliableDatagram.SeqMap
import ReliableDatagram.Time

/-!
# Association tables

A record is one logical item that can be found under several keys at once.  On
the sending side these are the ids of all transmissions that carried it.  Each
key leads to one record: a key that is registered again moves to its new record.

A table is an arena of records, each of which lists its own keys, and an index
from keys to slots.  Every operation keeps the two in agreement, which
`isConsistent` checks.  A table evicts nothing on its own, and a record stays in
its slot even when it has lost its last key.
-/

namespace ReliableDatagram

/-- A logical item with the keys it is filed under. -/
structure Record (α : Type) where
  /-- The id of the item itself, which never changes. -/
  primary : SeqId
  /-- The keys in the order of registration. -/
  keys : List SeqId
  /-- When the record was last touched. -/
  touchedAt : Instant
  /-- What the owner of the table keeps in the record. -/
  value : α
  deriving DecidableEq, Repr

namespace Record

variable {α : Type}

/-- The key registered last. -/
def latest? (record : Record α) : Option SeqId := record.keys.getLast?

/-- Whether the record is filed under `key`. -/
def holds (record : Record α) (key : SeqId) : Bool := record.keys.contains key

/-- The record without one of its keys. -/
def dropKey (record : Record α) (key : SeqId) : Record α :=
  { record with keys := record.keys.filter (· ≠ key) }

/-- The record with one more key, the latest. -/
def addKey (record : Record α) (key : SeqId) : Record α :=
  { record with keys := record.keys ++ [key] }

end Record

/-- Records in slots, with an index from keys to slots. -/
structure Table (α : Type) where
  /-- The records. -/
  records : Arena (Record α)
  /-- The slot that each key leads to. -/
  index : SeqMap Nat

namespace Table

variable {α : Type}

/-- The table without records. -/
def empty : Table α := ⟨∅, ∅⟩

instance : EmptyCollection (Table α) := ⟨empty⟩

/-! ## Queries -/

/-- The record in a slot. -/
def record? (table : Table α) (slot : Nat) : Option (Record α) := table.records.get? slot

/-- The slot that a key leads to. -/
def holder? (table : Table α) (key : SeqId) : Option Nat := table.index[key]?

/-- The record that a key leads to. -/
def lookup (table : Table α) (key : SeqId) : Option (Record α) :=
  (table.holder? key).bind table.record?

/-- Whether a key leads to a slot. -/
def containsKey (table : Table α) (key : SeqId) : Bool := table.index.contains key

/-- The number of records. -/
def size (table : Table α) : Nat := table.records.size

/-- The number of keys. -/
def keyCount (table : Table α) : Nat := table.index.size

/-- Whether the table has no record. -/
def isEmpty (table : Table α) : Bool := table.size == 0

/-- The records with their slots, in the order of the slots. -/
def toList (table : Table α) : List (Nat × Record α) := table.records.toList

/-- The keys with their slots, in the order in which a forward walk from `origin`
meets them. -/
def keysFrom (table : Table α) (origin : SeqId) : List (SeqId × Nat) :=
  table.index.entriesFrom origin

/-- Whether `key` is the latest key of the record in `slot`. -/
def isLatest (table : Table α) (key : SeqId) (slot : Nat) : Bool :=
  (table.record? slot).any (·.latest? == some key)

/-! ## Records -/

/-- The slot that the next new record takes. -/
def freshSlot (table : Table α) : Nat := table.records.fresh

/-- Put a record without keys into the slot `freshSlot`. -/
def create (table : Table α) (primary : SeqId) (value : α) (now : Instant) : Table α :=
  { table with records := table.records.allocate ⟨primary, [], now, value⟩ }

/-- Change the record in a slot.  Its keys belong to the index and must stay. -/
def modify (table : Table α) (slot : Nat) (change : Record α → Record α) : Table α :=
  { table with records := table.records.modify slot change }

/-- Note that the record in a slot was touched now. -/
def touch (table : Table α) (slot : Nat) (now : Instant) : Table α :=
  table.modify slot fun record => { record with touchedAt := now }

/-- Change what the owner keeps in the record of a slot. -/
def update (table : Table α) (slot : Nat) (change : α → α) : Table α :=
  table.modify slot fun record => { record with value := change record.value }

/-- Take the record out of a slot, together with all its keys. -/
def remove (table : Table α) (slot : Nat) : Table α :=
  match table.record? slot with
  | none => table
  | some record =>
      { records := table.records.remove slot
        index := record.keys.foldl (fun index key => index.erase key) table.index }

theorem record?_freshSlot (table : Table α) : table.record? table.freshSlot = none :=
  table.records.get?_fresh

theorem record?_create (table : Table α) (primary : SeqId) (value : α) (now : Instant)
    (slot : Nat) :
    (table.create primary value now).record? slot =
      if slot = table.freshSlot then some ⟨primary, [], now, value⟩ else table.record? slot :=
  table.records.get?_allocate _ slot

theorem record?_modify (table : Table α) (target : Nat) (change : Record α → Record α)
    (slot : Nat) :
    (table.modify target change).record? slot =
      if slot = target then (table.record? slot).map change else table.record? slot :=
  table.records.get?_modify target change slot

theorem record?_remove (table : Table α) (target slot : Nat) :
    (table.remove target).record? slot =
      if slot = target then none else table.record? slot := by
  unfold remove
  split
  · next vacant =>
    split
    · next same => exact same ▸ vacant
    · rfl
  · exact table.records.get?_remove target slot

/-! ## Keys -/

/-- The records after `key` was taken from the one in `slot`. -/
def detach (records : Arena (Record α)) (key : SeqId) (slot : Option Nat) :
    Arena (Record α) :=
  match slot with
  | none => records
  | some slot => records.modify slot (·.dropKey key)

/-- File the record of `slot` under `key`.  The answer names the slot of the
record that held the key until now and has lost it.

Nothing happens when the slot is vacant or the key leads there already. -/
def register (table : Table α) (key : SeqId) (slot : Nat) :
    Except CapacityError (Table α × Option Nat) :=
  match table.record? slot with
  | none => .ok (table, none)
  | some record =>
      let holder := table.holder? key
      if holder = some slot then .ok (table, none)
      else if Capacity.keysPerRecord ≤ record.keys.length then
        .error (.tooManyKeys record.primary Capacity.keysPerRecord)
      else
        .ok ({ records := (detach table.records key holder).modify slot (·.addKey key)
               index := table.index.insert key slot }, holder)

/-- The keys that `held` does not contain yet, each once and in order of first
occurrence. -/
def freshKeys (held : List SeqId) (keys : List SeqId) : List SeqId :=
  keys.foldl (fun fresh key =>
    if held.contains key || fresh.contains key then fresh else fresh ++ [key]) []

/-- File the record of `slot` under all of `keys`, or under none of them when it
cannot hold them all. -/
def registerAll (table : Table α) (keys : List SeqId) (slot : Nat) :
    Except CapacityError (Table α) :=
  match table.record? slot with
  | none => .ok table
  | some record =>
      let fresh := freshKeys record.keys keys
      if Capacity.keysPerRecord < record.keys.length + fresh.length then
        .error (.tooManyKeys record.primary Capacity.keysPerRecord)
      else
        fresh.foldlM (fun table key => (table.register key slot).map (·.1)) table

/-- Forget a key.  Its record stays, even without keys. -/
def release (table : Table α) (key : SeqId) : Table α :=
  match table.holder? key with
  | none => table
  | some slot =>
      { records := detach table.records key (some slot), index := table.index.erase key }

/-! ## Consistency -/

/-- Whether the index entry from `key` to `slot` is matched by exactly one
occurrence of the key in the record there. -/
def indexEntryAgrees (table : Table α) (key : SeqId) (slot : Nat) : Bool :=
  (table.record? slot).any (·.keys.count key == 1)

/-- Whether the record in `slot` is within its bound and every key it lists leads
to it. -/
def recordAgrees (table : Table α) (slot : Nat) (record : Record α) : Bool :=
  record.keys.length ≤ Capacity.keysPerRecord &&
    record.keys.all fun key => table.holder? key == some slot

/-- Whether the index and the key lists of the records agree. -/
def isConsistent (table : Table α) : Bool :=
  table.index.toList.all (fun entry => table.indexEntryAgrees entry.1 entry.2) &&
    table.toList.all (fun entry => table.recordAgrees entry.1 entry.2) &&
    (table.toList.flatMap fun entry => entry.2.keys).length == table.keyCount

/-! ## Cursors -/

/-- A place in a forward walk over the keys.  It names the key visited last and
not a position, so what is removed from the table never disturbs the walk. -/
structure Cursor where
  /-- Where the walk starts. -/
  origin : SeqId
  /-- The key visited last. -/
  current : Option SeqId
  deriving DecidableEq, Repr

namespace Cursor

/-- The place before the first key. -/
def start (origin : SeqId) : Cursor := ⟨origin, none⟩

/-- The least distance from the origin that is still ahead. -/
def reach (cursor : Cursor) : Nat :=
  match cursor.current with
  | none => 0
  | some key => cursor.origin.distanceTo key + 1

/-- The next key and its slot. -/
def peek (cursor : Cursor) (table : Table α) : Option (SeqId × Nat) :=
  table.index.first? cursor.origin cursor.reach

/-- The place at the next key, or the same place when there is none. -/
def advance (cursor : Cursor) (table : Table α) : Cursor :=
  match cursor.peek table with
  | none => cursor
  | some (key, _) => { cursor with current := some key }

/-- The slot that the current key leads to. -/
def slot? (cursor : Cursor) (table : Table α) : Option Nat :=
  cursor.current.bind table.holder?

/-- The table without the current key. -/
def releaseCurrent (cursor : Cursor) (table : Table α) : Table α :=
  match cursor.current with
  | none => table
  | some key => table.release key

/-- The table without the record that the current key leads to. -/
def removeCurrentRecord (cursor : Cursor) (table : Table α) : Table α :=
  match cursor.slot? table with
  | none => table
  | some slot => table.remove slot

end Cursor

end Table

end ReliableDatagram
