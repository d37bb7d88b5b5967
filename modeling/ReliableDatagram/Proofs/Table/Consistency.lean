import Mathlib.Data.List.Nodup
import ReliableDatagram.Proofs.Table.Contents

/-!
# Consistent tables

A table is consistent when its index and its key lists agree and no record lists more
keys than it may (`Table.Consistent`).  Then index and lists hold the same keys with the
same slots, each once (`Consistent.filings_perm`), and the check that a table makes of
itself succeeds (`Consistent.isConsistent`).  Every operation keeps a table consistent.

The check decides consistency, also for a table that no operation leads to
(`isConsistent_iff_consistent`).
-/

namespace ReliableDatagram

namespace Record

variable {α : Type}

theorem length_dropKey_le (record : Record α) (key : SeqId) :
    (record.dropKey key).keys.length ≤ record.keys.length :=
  List.length_filter_le _ _

theorem length_addKey (record : Record α) (key : SeqId) :
    (record.addKey key).keys.length = record.keys.length + 1 :=
  List.length_append

/-- The keys that records list, each with the slot of its record. -/
def filings (entries : List (Nat × Record α)) : List (SeqId × Nat) :=
  entries.flatMap fun entry => entry.2.keys.map fun key => (key, entry.1)

theorem mem_filings {entries : List (Nat × Record α)} {key : SeqId} {slot : Nat} :
    (key, slot) ∈ filings entries ↔
      ∃ record, (slot, record) ∈ entries ∧ key ∈ record.keys := by
  simp only [filings, List.mem_flatMap, List.mem_map, Prod.mk.injEq]
  constructor
  · rintro ⟨⟨place, record⟩, member, listed, holds, rfl, rfl⟩
    exact ⟨record, member, holds⟩
  · rintro ⟨record, member, holds⟩
    exact ⟨(slot, record), member, key, holds, rfl, rfl⟩

theorem length_filings (entries : List (Nat × Record α)) :
    (filings entries).length = (entries.flatMap fun entry => entry.2.keys).length := by
  simp only [filings, List.length_flatMap, List.length_map]

/-- Slots that differ and lists without repetition make filings without repetition. -/
theorem nodup_filings {entries : List (Nat × Record α)}
    (apart : entries.Pairwise fun left right => left.1 ≠ right.1)
    (distinct : ∀ entry ∈ entries, entry.2.keys.Nodup) : (filings entries).Nodup := by
  apply List.nodup_flatMap.mpr
  constructor
  · intro entry member
    exact (distinct entry member).map fun _ _ same => (Prod.mk.inj same).1
  · apply apart.imp
    intro left right different filing inLeft inRight
    rcases List.mem_map.mp inLeft with ⟨_, _, rfl⟩
    rcases List.mem_map.mp inRight with ⟨_, _, same⟩
    exact different (Prod.mk.inj same).2.symm

end Record

namespace Table

variable {α : Type} {table : Table α}

/-- Index and key lists agree, and no record lists more keys than it may. -/
structure Consistent (table : Table α) : Prop extends table.Agrees where
  keys_le : ∀ {slot record}, table.record? slot = some record →
    record.keys.length ≤ Capacity.keysPerRecord

theorem consistent_empty : (∅ : Table α).Consistent where
  toAgrees := agrees_empty
  keys_le {slot record} found := by simp [record?_empty] at found

namespace Consistent

variable (consistent : table.Consistent)

include consistent

/-! ## What the check sees -/

/-- The records list the keys of the index, with the slots that these lead to. -/
theorem filings_perm : (Record.filings table.toList).Perm table.index.toList := by
  have listed : (Record.filings table.toList).Nodup := by
    apply Record.nodup_filings (Arena.pairwise_toList table.records)
    intro entry member
    exact consistent.nodup (Arena.mem_toList.mp member)
  have indexed : table.index.toList.Nodup := by
    apply (SeqMap.pairwise_toList table.index).imp
    intro left right less same
    exact Nat.lt_irrefl _ (same ▸ less)
  apply (List.perm_ext_iff_of_nodup listed indexed).mpr
  rintro ⟨key, slot⟩
  have leads : (key, slot) ∈ table.index.toList ↔ table.holder? key = some slot :=
    Std.ExtTreeMap.mem_toList_iff_getElem?_eq_some
  rw [Record.mem_filings, leads, consistent.holder?_eq_some_iff]
  simp only [toList, Arena.mem_toList, record?]

/-- The keys of the index are those of all records together. -/
theorem length_filings : (Record.filings table.toList).length = table.keyCount := by
  rw [consistent.filings_perm.length_eq]
  exact Std.ExtTreeMap.length_toList

theorem indexEntryAgrees {key : SeqId} {slot : Nat} (held : table.holder? key = some slot) :
    table.indexEntryAgrees key slot := by
  rcases consistent.holder?_eq_some_iff.mp held with ⟨record, found, member⟩
  have once := List.count_eq_one_of_mem (consistent.nodup found) member
  simp only [Table.indexEntryAgrees, found, Option.any_some, once, BEq.rfl]

theorem recordAgrees {slot : Nat} {record : Record α}
    (found : table.record? slot = some record) : table.recordAgrees slot record := by
  simp only [Table.recordAgrees, Bool.and_eq_true, decide_eq_true_eq, List.all_eq_true,
    beq_iff_eq]
  exact ⟨consistent.keys_le found, fun key member => consistent.holder?_of_mem found member⟩

theorem isConsistent : table.isConsistent := by
  simp only [Table.isConsistent, Bool.and_eq_true, List.all_eq_true, beq_iff_eq]
  refine ⟨⟨?_, ?_⟩, ?_⟩
  · rintro ⟨key, slot⟩ member
    exact consistent.indexEntryAgrees (Std.ExtTreeMap.mem_toList_iff_getElem?_eq_some.mp member)
  · rintro ⟨slot, record⟩ member
    exact consistent.recordAgrees (Arena.mem_toList.mp member)
  · rw [← consistent.length_filings, Record.length_filings]

/-! ## What operations keep -/

theorem create (primary : SeqId) (value : α) (now : Instant) :
    (table.create primary value now).Consistent where
  toAgrees := consistent.toAgrees.create primary value now
  keys_le {slot record} found := by
    rw [record?_create] at found
    split at found
    · cases found
      exact Nat.zero_le _
    · exact consistent.keys_le found

theorem modify (slot : Nat) (change : Record α → Record α)
    (kept : ∀ record, (change record).keys = record.keys) :
    (table.modify slot change).Consistent where
  toAgrees := consistent.toAgrees.modify slot change kept
  keys_le {other record} found := by
    rw [record?_modify] at found
    split at found
    · rcases Option.map_eq_some_iff.mp found with ⟨before, there, rfl⟩
      rw [kept]
      exact consistent.keys_le there
    · exact consistent.keys_le found

theorem remove (slot : Nat) : (table.remove slot).Consistent where
  toAgrees := consistent.toAgrees.remove slot
  keys_le {other record} found := by
    rw [record?_remove] at found
    split at found
    · cases found
    · exact consistent.keys_le found

theorem release (key : SeqId) : (table.release key).Consistent where
  toAgrees := consistent.toAgrees.release key
  keys_le {other record} found := by
    cases held : table.holder? key with
    | none =>
        have unchanged : table.release key = table := by simp [Table.release, held]
        rw [unchanged] at found
        exact consistent.keys_le found
    | some slot =>
        rw [record?_release held] at found
        split at found
        · rcases Option.map_eq_some_iff.mp found with ⟨before, there, rfl⟩
          exact Nat.le_trans (before.length_dropKey_le key) (consistent.keys_le there)
        · exact consistent.keys_le found

theorem refile {key : SeqId} {slot : Nat} {record : Record α}
    (found : table.record? slot = some record)
    (elsewhere : table.holder? key ≠ some slot)
    (room : record.keys.length < Capacity.keysPerRecord) :
    (table.refile key slot).Consistent where
  toAgrees := consistent.toAgrees.refile found elsewhere
  keys_le {other after} there := by
    rw [record?_refile_of_ne elsewhere, found] at there
    split at there
    · -- Only the record that gains the key grows.
      cases there
      rw [Record.length_addKey]
      exact room
    · split at there
      · rcases Option.map_eq_some_iff.mp there with ⟨before, held, rfl⟩
        exact Nat.le_trans (before.length_dropKey_le key) (consistent.keys_le held)
      · exact consistent.keys_le there

theorem register {key : SeqId} {slot : Nat} {after : Table α} {displaced : Option Nat}
    (registered : table.register key slot = .ok (after, displaced)) : after.Consistent := by
  rcases register_eq_ok registered with ⟨_, rfl, _⟩ | ⟨record, found, elsewhere, room, rfl, _⟩
  · exact consistent
  · exact consistent.refile found elsewhere room

theorem mem_keys_of_register {key : SeqId} {slot : Nat} {after : Table α}
    {displaced : Option Nat} {record : Record α}
    (registered : table.register key slot = .ok (after, displaced))
    (filed : after.record? slot = some record) : key ∈ record.keys := by
  rcases register_eq_ok registered with ⟨vacant | held, rfl, _⟩ | ⟨_, _, elsewhere, _, rfl, _⟩
  · rw [vacant] at filed
    cases filed
  · rcases consistent.holder?_eq_some_iff.mp held with ⟨other, found, member⟩
    rw [filed] at found
    cases found
    exact member
  · rw [record?_refile_of_ne elsewhere, if_pos rfl] at filed
    rcases Option.map_eq_some_iff.mp filed with ⟨before, _, rfl⟩
    exact Record.mem_addKey.mpr (.inr rfl)

end Consistent

/-! ## What the check decides -/

section Check

variable (passed : table.isConsistent)

include passed

/-- Each key of the index occurs once in the record that it leads to. -/
theorem count_of_isConsistent {key : SeqId} {slot : Nat}
    (held : table.holder? key = some slot) :
    ∃ record, table.record? slot = some record ∧ record.keys.count key = 1 := by
  simp only [isConsistent, Bool.and_eq_true, List.all_eq_true] at passed
  have agrees := passed.1.1 (key, slot)
    (Std.ExtTreeMap.mem_toList_iff_getElem?_eq_some.mpr held)
  rw [indexEntryAgrees] at agrees
  cases found : table.record? slot with
  | none =>
      rw [found] at agrees
      cases agrees
  | some record =>
      rw [found, Option.any_some, beq_iff_eq] at agrees
      exact ⟨record, rfl, agrees⟩

/-- No record lists too many keys, and each key that it lists leads to it. -/
theorem listed_of_isConsistent {slot : Nat} {record : Record α}
    (found : table.record? slot = some record) :
    record.keys.length ≤ Capacity.keysPerRecord ∧
      ∀ key ∈ record.keys, table.holder? key = some slot := by
  simp only [isConsistent, Bool.and_eq_true, List.all_eq_true] at passed
  have agrees := passed.1.2 (slot, record) (Arena.mem_toList.mpr found)
  simpa only [recordAgrees, Bool.and_eq_true, decide_eq_true_eq, List.all_eq_true,
    beq_iff_eq] using agrees

/-- The parts of the check that look at keys one by one suffice.  That the numbers of keys are
the same follows.  No key is repeated, for a listed key leads back to its slot, where the index
counts it once. -/
theorem consistent_of_isConsistent : table.Consistent where
  holder?_eq_some_iff {key slot} := by
    constructor
    · intro held
      rcases count_of_isConsistent passed held with ⟨record, found, once⟩
      exact ⟨record, found, List.count_pos_iff.mp (once ▸ Nat.one_pos)⟩
    · rintro ⟨record, found, listed⟩
      exact (listed_of_isConsistent passed found).2 key listed
  nodup {slot record} found := by
    apply List.nodup_iff_count_eq_one.mpr
    intro key listed
    have held := (listed_of_isConsistent passed found).2 key listed
    rcases count_of_isConsistent passed held with ⟨other, there, once⟩
    cases found.symm.trans there
    exact once
  keys_le found := (listed_of_isConsistent passed found).1

end Check

theorem isConsistent_iff_consistent : table.isConsistent ↔ table.Consistent :=
  ⟨consistent_of_isConsistent, Consistent.isConsistent⟩

instance (table : Table α) : Decidable table.Consistent :=
  decidable_of_iff _ isConsistent_iff_consistent

/-- Whatever a table holds, its check succeeds exactly when no record lists a key twice or
more keys than it may, no key is listed by two records, and a key leads to a slot if and only
if the record there lists it. -/
theorem isConsistent_iff (table : Table α) :
    table.isConsistent = true ↔
      (∀ slot record, table.record? slot = some record →
        record.keys.Nodup ∧ record.keys.length ≤ Capacity.keysPerRecord) ∧
      (∀ left right leftRecord rightRecord key,
        table.record? left = some leftRecord → table.record? right = some rightRecord →
          key ∈ leftRecord.keys → key ∈ rightRecord.keys → left = right) ∧
      ∀ key slot, table.holder? key = some slot ↔
        ∃ record, table.record? slot = some record ∧ key ∈ record.keys := by
  rw [isConsistent_iff_consistent]
  constructor
  · intro consistent
    refine ⟨fun slot record found => ?_, ?_, fun key slot => consistent.holder?_eq_some_iff⟩
    · exact ⟨consistent.nodup found, consistent.keys_le found⟩
    · intro left right leftRecord rightRecord key leftFound rightFound leftMem rightMem
      exact consistent.slot_unique leftFound leftMem rightFound rightMem
  · rintro ⟨bounded, _, leads⟩
    exact ⟨⟨leads _ _, fun found => (bounded _ _ found).1⟩, fun found => (bounded _ _ found).2⟩

/-- A record lists one key twice and misses another one.  Each key that it lists leads to it,
and there are as many of them as in the index. -/
example :
    isConsistent
      { records := (∅ : Arena (Record Unit)).allocate ⟨.ofNat 1, [.ofNat 5, .ofNat 5], ⟨0⟩, ()⟩
        index := ((∅ : SeqMap Nat).insert (.ofNat 5) 0).insert (.ofNat 7) 0 } = false := by
  decide

end Table

end ReliableDatagram
