import Mathlib.Data.List.Dedup
import ReliableDatagram.Table

/-!
# Ledgers

A ledger is what remains of a table without its index: records in numbered slots, each of
which lists its own keys.  A key leads to the slot whose record lists it, and whatever else
one asks of a ledger is found by looking through its records.

Nothing in a ledger says which slot a new record takes.  It can go into any slot that is
not in use, and `Ledger.Runs` leaves open which one it is.
-/

namespace ReliableDatagram

/-! ## What is asked of a table -/

namespace Table

/-- An operation on a table, or on a cursor that walks it. -/
inductive Operation (α : Type) where
  | create (primary : SeqId) (value : α) (now : Instant)
  | register (key : SeqId) (slot : Nat)
  | registerAll (keys : List SeqId) (slot : Nat)
  | release (key : SeqId)
  | remove (slot : Nat)
  | touch (slot : Nat) (now : Instant)
  | update (slot : Nat) (change : α → α)
  /-- Start a walk. -/
  | walk (origin : SeqId)
  /-- Go to the next key. -/
  | next
  | peek
  | releaseCurrent
  | removeCurrentRecord

/-- The answer to an operation. -/
inductive Answer (α : Type) where
  | done
  | refused (error : CapacityError)
  /-- The slot of the new record, of the one that lost a key, or of neither. -/
  | slot (slot : Option Nat)
  /-- The record as it was before the operation. -/
  | record (record : Option (Record α))
  /-- A key and its slot. -/
  | entry (entry : Option (SeqId × Nat))

end Table

/-! ## Records that list their keys -/

/-- Records in numbered slots. -/
structure Ledger (α : Type) where
  /-- The record of each slot in use. -/
  records : Std.ExtTreeMap Nat (Record α)

namespace Ledger

open Table (Operation Answer Cursor)

variable {α : Type}

/-- The ledger without records. -/
def empty : Ledger α := ⟨∅⟩

instance : EmptyCollection (Ledger α) := ⟨empty⟩

/-! ### Queries -/

/-- The record in a slot. -/
def record? (ledger : Ledger α) (slot : Nat) : Option (Record α) := ledger.records[slot]?

/-- The records with their slots, in the order of the slots. -/
def toList (ledger : Ledger α) : List (Nat × Record α) := ledger.records.toList

/-- The slot of the record that lists a key. -/
def holder? (ledger : Ledger α) (key : SeqId) : Option Nat :=
  (ledger.toList.find? fun entry => entry.2.holds key).map (·.1)

/-- The record that lists a key. -/
def lookup (ledger : Ledger α) (key : SeqId) : Option (Record α) :=
  (ledger.toList.find? fun entry => entry.2.holds key).map (·.2)

/-- Whether a record lists a key. -/
def containsKey (ledger : Ledger α) (key : SeqId) : Bool :=
  ledger.toList.any fun entry => entry.2.holds key

/-- The number of records. -/
def size (ledger : Ledger α) : Nat := ledger.toList.length

/-- The number of keys that the records list. -/
def keyCount (ledger : Ledger α) : Nat :=
  (ledger.toList.flatMap fun entry => entry.2.keys).length

/-- All listed keys with their slots, by their distance from `origin`. -/
def keysFrom (ledger : Ledger α) (origin : SeqId) : List (SeqId × Nat) :=
  (ledger.toList.flatMap fun entry => entry.2.keys.map fun key => (key, entry.1)).mergeSort
    fun left right => origin.distanceTo left.1 ≤ origin.distanceTo right.1

/-- The next key of a walk, with its slot. -/
def peek (ledger : Ledger α) (cursor : Cursor) : Option (SeqId × Nat) :=
  (ledger.keysFrom cursor.origin).find? fun entry =>
    cursor.reach ≤ cursor.origin.distanceTo entry.1

/-! ### Changes -/

/-- Put a record into a slot. -/
def put (ledger : Ledger α) (slot : Nat) (record : Record α) : Ledger α :=
  ⟨ledger.records.insert slot record⟩

/-- Change the record in a slot. -/
def modify (ledger : Ledger α) (slot : Nat) (change : Record α → Record α) : Ledger α :=
  ⟨ledger.records.modify slot change⟩

/-- Take the record out of a slot. -/
def remove (ledger : Ledger α) (slot : Nat) : Ledger α := ⟨ledger.records.erase slot⟩

/-- Take a key out of the list that holds it. -/
def release (ledger : Ledger α) (key : SeqId) : Ledger α :=
  match ledger.holder? key with
  | none => ledger
  | some slot => ledger.modify slot (·.dropKey key)

/-- Take a key out of the list that holds it and append it to the list of the record in
`slot`.  The answer is the slot that lost the key.  Nothing happens when the slot is not in
use or its record lists the key. -/
def register (ledger : Ledger α) (key : SeqId) (slot : Nat) :
    Except CapacityError (Ledger α × Option Nat) :=
  match ledger.record? slot with
  | none => .ok (ledger, none)
  | some record =>
      if record.holds key then .ok (ledger, none)
      else if record.keys.length = Capacity.keysPerRecord then
        .error (.tooManyKeys record.primary Capacity.keysPerRecord)
      else .ok ((ledger.release key).modify slot (·.addKey key), ledger.holder? key)

/-- Register keys one after the other, or none of them when the record in `slot` would
list too many different ones. -/
def registerAll (ledger : Ledger α) (keys : List SeqId) (slot : Nat) :
    Except CapacityError (Ledger α) :=
  match ledger.record? slot with
  | none => .ok ledger
  | some record =>
      if Capacity.keysPerRecord < (record.keys ++ keys).dedup.length then
        .error (.tooManyKeys record.primary Capacity.keysPerRecord)
      else keys.foldlM (fun ledger key => (ledger.register key slot).map (·.1)) ledger

/-! ### Runs -/

/-- The ledger and the place in it after an operation, with the answer.  A new record goes
into the slot `vacant`. -/
def perform (vacant : Nat) : Ledger α × Cursor → Operation α → (Ledger α × Cursor) × Answer α
  | (ledger, cursor), .create primary value now =>
      ((ledger.put vacant ⟨primary, [], now, value⟩, cursor), .slot (some vacant))
  | (ledger, cursor), .register key slot =>
      match ledger.register key slot with
      | .error error => ((ledger, cursor), .refused error)
      | .ok (after, displaced) => ((after, cursor), .slot displaced)
  | (ledger, cursor), .registerAll keys slot =>
      match ledger.registerAll keys slot with
      | .error error => ((ledger, cursor), .refused error)
      | .ok after => ((after, cursor), .done)
  | (ledger, cursor), .release key =>
      ((ledger.release key, cursor), .slot (ledger.holder? key))
  | (ledger, cursor), .remove slot =>
      ((ledger.remove slot, cursor), .record (ledger.record? slot))
  | (ledger, cursor), .touch slot now =>
      ((ledger.modify slot fun record => { record with touchedAt := now }, cursor), .done)
  | (ledger, cursor), .update slot change =>
      ((ledger.modify slot fun record => { record with value := change record.value }, cursor),
        .record (ledger.record? slot))
  | (ledger, _), .walk origin => ((ledger, .start origin), .done)
  | (ledger, cursor), .next =>
      match ledger.peek cursor with
      | none => ((ledger, cursor), .entry none)
      | some (key, slot) =>
          ((ledger, { cursor with current := some key }), .entry (some (key, slot)))
  | (ledger, cursor), .peek => ((ledger, cursor), .entry (ledger.peek cursor))
  | (ledger, cursor), .releaseCurrent =>
      match cursor.current with
      | none => ((ledger, cursor), .slot none)
      | some key => ((ledger.release key, cursor), .slot (ledger.holder? key))
  | (ledger, cursor), .removeCurrentRecord =>
      match cursor.current.bind ledger.holder? with
      | none => ((ledger, cursor), .record none)
      | some slot => ((ledger.remove slot, cursor), .record (ledger.record? slot))

/-- A run of operations with their answers.  At each of them some slot that is not in use
stands ready for a new record. -/
inductive Runs : Ledger α × Cursor → List (Operation α) → List (Answer α) →
    Ledger α × Cursor → Prop where
  | nil (state : Ledger α × Cursor) : Runs state [] [] state
  | cons {before after : Ledger α × Cursor} {operation : Operation α}
      {operations : List (Operation α)} {answers : List (Answer α)} (vacant : Nat)
      (unused : before.1.record? vacant = none)
      (rest : Runs (perform vacant before operation).1 operations answers after) :
      Runs before (operation :: operations) ((perform vacant before operation).2 :: answers)
        after

/-! ### Look-up -/

theorem ext_record? {left right : Ledger α}
    (same : ∀ slot, left.record? slot = right.record? slot) : left = right := by
  cases left
  cases right
  exact congrArg Ledger.mk (Std.ExtTreeMap.ext_getElem? same)

theorem record?_put (ledger : Ledger α) (target : Nat) (record : Record α) (slot : Nat) :
    (ledger.put target record).record? slot =
      if slot = target then some record else ledger.record? slot := by
  simp only [record?, put, Std.ExtTreeMap.getElem?_insert, Std.compare_eq_eq_iff_eq,
    @eq_comm Nat slot]

theorem record?_modify (ledger : Ledger α) (target : Nat) (change : Record α → Record α)
    (slot : Nat) :
    (ledger.modify target change).record? slot =
      if slot = target then (ledger.record? slot).map change else ledger.record? slot := by
  simp only [record?, modify, Std.ExtTreeMap.getElem?_modify, Std.compare_eq_eq_iff_eq,
    @eq_comm Nat slot]
  split
  · next same => rw [same]
  · rfl

theorem record?_remove (ledger : Ledger α) (target slot : Nat) :
    (ledger.remove target).record? slot =
      if slot = target then none else ledger.record? slot := by
  simp only [record?, remove, Std.ExtTreeMap.getElem?_erase, Std.compare_eq_eq_iff_eq,
    @eq_comm Nat slot]

theorem mem_toList {ledger : Ledger α} {slot : Nat} {record : Record α} :
    (slot, record) ∈ ledger.toList ↔ ledger.record? slot = some record :=
  Std.ExtTreeMap.mem_toList_iff_getElem?_eq_some

theorem holds_iff {record : Record α} {key : SeqId} : record.holds key ↔ key ∈ record.keys :=
  List.contains_iff_mem

end Ledger

end ReliableDatagram
