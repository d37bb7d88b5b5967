import ReliableDatagram.Proofs.SeqMap
import ReliableDatagram.Table

/-!
# Agreement of index and key lists

A table keeps each key twice, in its index and in the list of a record.  The two
agree when a key leads to a slot exactly if the record there lists it
(`Table.Agrees`).  Every operation is described here by what it does to
`record?` and `holder?`, and from these descriptions agreement is kept by each.
-/

namespace ReliableDatagram

namespace Arena

variable {α : Type}

theorem eq_of_entries {left right : Arena α} (entries : left.entries = right.entries)
    (vacant : left.vacant = right.vacant) (bound : left.bound = right.bound) :
    left = right := by
  cases left
  cases right
  simp_all

theorem vacant_modify (arena : Arena α) (slot : Nat) (change : α → α) :
    (arena.modify slot change).vacant = arena.vacant := by
  unfold modify
  split
  · rfl
  · rfl

theorem bound_modify (arena : Arena α) (slot : Nat) (change : α → α) :
    (arena.modify slot change).bound = arena.bound := by
  unfold modify
  split
  · rfl
  · rfl

theorem vacant_remove (arena : Arena α) (slot : Nat) :
    (arena.remove slot).vacant =
      if (arena.get? slot).isSome then slot :: arena.vacant else arena.vacant := by
  unfold remove
  split
  · next member =>
    rw [get?, if_pos (Std.ExtTreeMap.mem_iff_isSome_getElem?.mp member)]
  · next absent =>
    rw [get?, Std.ExtTreeMap.getElem?_eq_none absent]
    rfl

theorem bound_remove (arena : Arena α) (slot : Nat) :
    (arena.remove slot).bound = arena.bound := by
  unfold remove
  split
  · rfl
  · rfl

theorem remove_modify (arena : Arena α) {target other : Nat} (different : other ≠ target)
    (change : α → α) :
    (arena.modify target change).remove other = (arena.remove other).modify target change := by
  apply eq_of_entries
  · apply Std.ExtTreeMap.ext_getElem?
    intro slot
    change ((arena.modify target change).remove other).get? slot =
      ((arena.remove other).modify target change).get? slot
    rw [get?_remove, get?_modify, get?_modify, get?_remove]
    by_cases gone : slot = other
    · rw [if_pos gone, if_pos gone, if_neg (gone ▸ different)]
    · rw [if_neg gone, if_neg gone]
  · rw [vacant_remove, vacant_modify, vacant_modify, vacant_remove, get?_modify,
      if_neg different]
  · rw [bound_remove, bound_modify, bound_modify, bound_remove]

end Arena

namespace Record

variable {α : Type}

theorem mem_dropKey {record : Record α} {key other : SeqId} :
    other ∈ (record.dropKey key).keys ↔ other ∈ record.keys ∧ other ≠ key := by
  simp [dropKey]

theorem keys_addKey (record : Record α) (key : SeqId) :
    (record.addKey key).keys = record.keys ++ [key] := rfl

theorem mem_addKey {record : Record α} {key other : SeqId} :
    other ∈ (record.addKey key).keys ↔ other ∈ record.keys ∨ other = key := by
  simp [addKey]

theorem nodup_dropKey {record : Record α} (distinct : record.keys.Nodup) (key : SeqId) :
    (record.dropKey key).keys.Nodup :=
  distinct.filter _

theorem nodup_addKey {record : Record α} {key : SeqId} (distinct : record.keys.Nodup)
    (fresh : key ∉ record.keys) : (record.addKey key).keys.Nodup := by
  apply List.nodup_append.mpr
  refine ⟨distinct, by simp, ?_⟩
  intro held member other single same
  rw [List.mem_singleton] at single
  exact fresh (single ▸ same ▸ member)

theorem dropKey_of_notMem {record : Record α} {key : SeqId} (unlisted : key ∉ record.keys) :
    record.dropKey key = record := by
  have same : record.keys.filter (· ≠ key) = record.keys := by
    apply List.filter_eq_self.mpr
    intro other member
    apply decide_eq_true
    intro equal
    exact unlisted (equal ▸ member)
  simp only [dropKey, same]

/-- Dropping keys one after the other leaves those that are not among them. -/
theorem foldl_dropKey (keys : List SeqId) (record : Record α) :
    keys.foldl dropKey record =
      { record with keys := record.keys.filter fun key => key ∉ keys } := by
  induction keys generalizing record with
  | nil =>
      have all : record.keys.filter (fun key => key ∉ ([] : List SeqId)) = record.keys :=
        List.filter_eq_self.mpr (by simp)
      rw [all]
      rfl
  | cons first rest ih =>
      have both : (record.keys.filter (· ≠ first)).filter (fun key => key ∉ rest) =
          record.keys.filter fun key => key ∉ first :: rest := by
        rw [List.filter_filter]
        apply List.filter_congr
        intro key _
        simp [Bool.and_comm]
      rw [List.foldl_cons, ih, dropKey, both]

theorem mem_of_latest? {record : Record α} {key : SeqId}
    (latest : record.latest? = some key) : key ∈ record.keys :=
  List.mem_of_getLast? latest

theorem latest?_dropKey {record : Record α} {key : SeqId}
    (superseded : record.latest? ≠ some key) :
    (record.dropKey key).latest? = record.latest? := by
  rcases List.eq_nil_or_concat record.keys with none | ⟨older, newest, split⟩
  · simp [latest?, dropKey, none]
  · have different : newest ≠ key := by
      rintro rfl
      exact superseded (by simp [latest?, split])
    simp [latest?, dropKey, split, different]

end Record

namespace Table

variable {α : Type} {table : Table α}

/-! ## What operations do to slots and keys -/

theorem record?_empty (slot : Nat) : (∅ : Table α).record? slot = none :=
  Arena.get?_empty slot

theorem holder?_empty (key : SeqId) : (∅ : Table α).holder? key = none :=
  Std.ExtTreeMap.getElem?_empty

@[simp] theorem holder?_create (table : Table α) (primary : SeqId) (value : α)
    (now : Instant) (key : SeqId) :
    (table.create primary value now).holder? key = table.holder? key := rfl

@[simp] theorem holder?_modify (table : Table α) (slot : Nat)
    (change : Record α → Record α) (key : SeqId) :
    (table.modify slot change).holder? key = table.holder? key := rfl

theorem holder?_remove {slot : Nat} {record : Record α}
    (found : table.record? slot = some record) (key : SeqId) :
    (table.remove slot).holder? key =
      if key ∈ record.keys then none else table.holder? key := by
  unfold remove
  rw [found]
  exact SeqMap.getElem?_foldl_erase record.keys table.index key

/-- The table in which `key` leads to `slot`, and no longer to where it led. -/
def refile (table : Table α) (key : SeqId) (slot : Nat) : Table α :=
  { records := (detach table.records key (table.holder? key)).modify slot (·.addKey key)
    index := table.index.insert key slot }

theorem get?_detach (records : Arena (Record α)) (key : SeqId) (holder : Option Nat)
    (slot : Nat) :
    (detach records key holder).get? slot =
      if holder = some slot then (records.get? slot).map (·.dropKey key)
      else records.get? slot := by
  cases holder with
  | none => rfl
  | some held =>
      rw [detach, Arena.get?_modify]
      simp only [Option.some.injEq, @eq_comm Nat held]

theorem record?_refile (table : Table α) (key : SeqId) (slot other : Nat) :
    (table.refile key slot).record? other =
      if other = slot then
        ((if table.holder? key = some slot then (table.record? slot).map (·.dropKey key)
          else table.record? slot).map (·.addKey key))
      else if table.holder? key = some other then (table.record? other).map (·.dropKey key)
      else table.record? other := by
  rw [record?, refile, Arena.get?_modify, get?_detach]
  split
  · next same => rw [same]; rfl
  · rfl

/-- The record of a slot after a key moved there from elsewhere. -/
theorem record?_refile_of_ne {key : SeqId} {slot : Nat}
    (elsewhere : table.holder? key ≠ some slot) (other : Nat) :
    (table.refile key slot).record? other =
      if other = slot then (table.record? slot).map (·.addKey key)
      else if table.holder? key = some other then (table.record? other).map (·.dropKey key)
      else table.record? other := by
  rw [record?_refile, if_neg elsewhere]

theorem record?_refile_self {key : SeqId} {slot : Nat} {record : Record α}
    (elsewhere : table.holder? key ≠ some slot) (found : table.record? slot = some record) :
    (table.refile key slot).record? slot = some (record.addKey key) := by
  rw [record?_refile_of_ne elsewhere, if_pos rfl, found, Option.map_some]

theorem holder?_refile (table : Table α) (key : SeqId) (slot : Nat) (other : SeqId) :
    (table.refile key slot).holder? other =
      if other = key then some slot else table.holder? other :=
  SeqMap.getElem?_insert table.index key slot other

/-- Registration does nothing, or it moves a key to a record that had room. -/
theorem register_eq_ok {key : SeqId} {slot : Nat} {after : Table α}
    {displaced : Option Nat} (registered : table.register key slot = .ok (after, displaced)) :
    ((table.record? slot = none ∨ table.holder? key = some slot) ∧ after = table ∧
        displaced = none) ∨
      ∃ record, table.record? slot = some record ∧ table.holder? key ≠ some slot ∧
        record.keys.length < Capacity.keysPerRecord ∧
        after = table.refile key slot ∧ displaced = table.holder? key := by
  unfold register at registered
  cases found : table.record? slot with
  | none =>
      simp only [found, Except.ok.injEq, Prod.mk.injEq] at registered
      exact .inl ⟨.inl rfl, registered.1.symm, registered.2.symm⟩
  | some record =>
      simp only [found] at registered
      by_cases held : table.holder? key = some slot
      · simp only [held, if_true, Except.ok.injEq, Prod.mk.injEq] at registered
        exact .inl ⟨.inr held, registered.1.symm, registered.2.symm⟩
      · by_cases full : Capacity.keysPerRecord ≤ record.keys.length
        · simp [held, full] at registered
        · simp only [held, full, if_false, Except.ok.injEq, Prod.mk.injEq] at registered
          exact .inr ⟨record, rfl, held, Nat.lt_of_not_le full, registered.1.symm,
            registered.2.symm⟩

/-- Registration changes a record at most by its key: others may lose it, and the one
in the slot may gain it. -/
theorem record?_register {key : SeqId} {slot other : Nat} {after : Table α}
    {displaced : Option Nat} {record : Record α}
    (registered : table.register key slot = .ok (after, displaced))
    (found : after.record? other = some record) :
    ∃ before, table.record? other = some before ∧
      (record = before ∨ record = before.dropKey key ∨
        other = slot ∧ record = before.addKey key) := by
  rcases register_eq_ok registered with ⟨_, rfl, _⟩ | ⟨_, _, elsewhere, _, rfl, _⟩
  · exact ⟨record, found, .inl rfl⟩
  · rw [record?_refile_of_ne elsewhere] at found
    split at found
    · next here =>
      rcases Option.map_eq_some_iff.mp found with ⟨before, there, added⟩
      exact ⟨before, here ▸ there, .inr (.inr ⟨here, added.symm⟩)⟩
    · split at found
      · rcases Option.map_eq_some_iff.mp found with ⟨before, there, dropped⟩
        exact ⟨before, there, .inr (.inl dropped.symm)⟩
      · exact ⟨record, found, .inl rfl⟩

/-- A record that was filed under a key is still in its slot, and is not the one that lost
the key. -/
theorem record?_filed {key : SeqId} {slot : Nat} {after : Table α} {displaced : Option Nat}
    {record : Record α} (registered : table.register key slot = .ok (after, displaced))
    (found : table.record? slot = some record) :
    ∃ filed, after.record? slot = some filed ∧ displaced ≠ some slot := by
  rcases register_eq_ok registered with
    ⟨_, rfl, rfl⟩ | ⟨before, there, elsewhere, _, rfl, rfl⟩
  · exact ⟨record, found, (Option.some_ne_none slot).symm⟩
  · exact ⟨_, record?_refile_self elsewhere there, elsewhere⟩

theorem register_isOk (key : SeqId) {slot : Nat} {record : Record α}
    (found : table.record? slot = some record)
    (room : record.keys.length < Capacity.keysPerRecord) :
    ∃ after displaced, table.register key slot = .ok (after, displaced) := by
  unfold register
  simp only [found, Nat.not_le_of_lt room, if_false]
  split
  · exact ⟨_, _, rfl⟩
  · exact ⟨_, _, rfl⟩

theorem record?_release {key : SeqId} {slot : Nat} (held : table.holder? key = some slot)
    (other : Nat) :
    (table.release key).record? other =
      if other = slot then (table.record? other).map (·.dropKey key)
      else table.record? other := by
  unfold release
  rw [held]
  exact table.records.get?_modify slot _ other

theorem holder?_release (table : Table α) (key other : SeqId) :
    (table.release key).holder? other =
      if other = key then none else table.holder? other := by
  unfold release
  split
  · next unused =>
    split
    · next same => exact same ▸ unused
    · rfl
  · exact SeqMap.getElem?_erase table.index key other

/-- Forgetting a superseded key leaves the latest key of each record. -/
theorem isLatest_release {key : SeqId} {slot : Nat} (held : table.holder? key = some slot)
    (superseded : table.isLatest key slot = false) (other : SeqId) (place : Nat) :
    (table.release key).isLatest other place = table.isLatest other place := by
  rw [isLatest, isLatest, record?_release held]
  split
  · next here =>
    subst here
    cases found : table.record? place with
    | none => rfl
    | some record =>
        have later : record.latest? ≠ some key := by
          intro latest
          simp [isLatest, found, latest] at superseded
        simp [Record.latest?_dropKey later]
  · rfl

/-! ## Independent changes -/

/-- Taking one record out and changing another can be done in either order. -/
theorem remove_modify (table : Table α) {target other : Nat} (different : other ≠ target)
    (change : Record α → Record α) :
    (table.modify target change).remove other = (table.remove other).modify target change := by
  have same : (table.modify target change).record? other = table.record? other := by
    rw [record?_modify, if_neg different]
  unfold remove
  rw [same]
  cases table.record? other with
  | none => rfl
  | some record =>
      have records := Arena.remove_modify table.records different change
      simp only [modify, records]

/-! ## Agreement -/

/-- A key leads to a slot exactly if the record there lists it, and no record
lists a key twice. -/
structure Agrees (table : Table α) : Prop where
  holder?_eq_some_iff : ∀ {key slot}, table.holder? key = some slot ↔
    ∃ record, table.record? slot = some record ∧ key ∈ record.keys
  nodup : ∀ {slot record}, table.record? slot = some record → record.keys.Nodup

theorem agrees_empty : (∅ : Table α).Agrees where
  holder?_eq_some_iff := by simp [holder?_empty, record?_empty]
  nodup := by simp [record?_empty]

namespace Agrees

variable (agrees : table.Agrees)

include agrees

theorem holder?_of_mem {slot : Nat} {record : Record α} {key : SeqId}
    (found : table.record? slot = some record) (member : key ∈ record.keys) :
    table.holder? key = some slot :=
  agrees.holder?_eq_some_iff.mpr ⟨record, found, member⟩

theorem holder?_ne_of_notMem {slot : Nat} {record : Record α} {key : SeqId}
    (found : table.record? slot = some record) (unlisted : key ∉ record.keys) :
    table.holder? key ≠ some slot := by
  intro held
  rcases agrees.holder?_eq_some_iff.mp held with ⟨other, there, member⟩
  cases found.symm.trans there
  exact unlisted member

theorem holder?_eq_none {key : SeqId}
    (unlisted : ∀ slot record, table.record? slot = some record → key ∉ record.keys) :
    table.holder? key = none := by
  cases held : table.holder? key with
  | none => rfl
  | some slot =>
      rcases agrees.holder?_eq_some_iff.mp held with ⟨record, found, listed⟩
      exact absurd listed (unlisted slot record found)

theorem map_dropKey {key : SeqId} {slot : Nat} (elsewhere : table.holder? key ≠ some slot) :
    (table.record? slot).map (·.dropKey key) = table.record? slot := by
  cases found : table.record? slot with
  | none => rfl
  | some record =>
      have absent : key ∉ record.keys := fun member =>
        elsewhere (agrees.holder?_of_mem found member)
      exact congrArg some (Record.dropKey_of_notMem absent)

/-- Only the record that lists a key notices that the key is forgotten. -/
theorem record?_release (key : SeqId) (slot : Nat) :
    (table.release key).record? slot = (table.record? slot).map (·.dropKey key) := by
  cases held : table.holder? key with
  | none =>
      have unchanged : table.release key = table := by simp [Table.release, held]
      rw [unchanged, agrees.map_dropKey]
      rw [held]
      exact (Option.some_ne_none slot).symm
  | some holder =>
      rw [Table.record?_release held]
      split
      · rfl
      · next different =>
        rw [agrees.map_dropKey]
        rw [held]
        exact fun same => different (Option.some.inj same).symm

theorem record?_refile_other {key : SeqId} {slot other : Nat} (apart : other ≠ slot) :
    (table.refile key slot).record? other = (table.record? other).map (·.dropKey key) := by
  rw [record?_refile, if_neg apart]
  split
  · rfl
  · next elsewhere => exact (agrees.map_dropKey elsewhere).symm

theorem slot_unique {left right : Nat} {leftRecord rightRecord : Record α} {key : SeqId}
    (leftFound : table.record? left = some leftRecord) (leftMem : key ∈ leftRecord.keys)
    (rightFound : table.record? right = some rightRecord)
    (rightMem : key ∈ rightRecord.keys) : left = right := by
  have leads := agrees.holder?_of_mem leftFound leftMem
  rw [agrees.holder?_of_mem rightFound rightMem] at leads
  exact (Option.some.inj leads).symm

theorem create (primary : SeqId) (value : α) (now : Instant) :
    (table.create primary value now).Agrees where
  holder?_eq_some_iff {key slot} := by
    rw [holder?_create, agrees.holder?_eq_some_iff, record?_create]
    split
    · next fresh =>
      rw [fresh, record?_freshSlot]
      simp
    · rfl
  nodup {slot record} found := by
    rw [record?_create] at found
    split at found
    · rw [← Option.some.inj found]
      exact List.nodup_nil
    · exact agrees.nodup found

theorem modify (slot : Nat) (change : Record α → Record α)
    (kept : ∀ record, (change record).keys = record.keys) :
    (table.modify slot change).Agrees where
  holder?_eq_some_iff {key other} := by
    rw [holder?_modify, agrees.holder?_eq_some_iff, record?_modify]
    split
    · simp only [Option.map_eq_some_iff]
      constructor
      · intro condition
        rcases condition with ⟨record, found, member⟩
        exact ⟨change record, ⟨record, found, rfl⟩, kept record ▸ member⟩
      · intro condition
        rcases condition with ⟨_, ⟨record, found, rfl⟩, member⟩
        exact ⟨record, found, kept record ▸ member⟩
    · rfl
  nodup {other record} found := by
    rw [record?_modify] at found
    split at found
    · rcases Option.map_eq_some_iff.mp found with ⟨before, there, rfl⟩
      rw [kept]
      exact agrees.nodup there
    · exact agrees.nodup found

theorem remove (slot : Nat) : (table.remove slot).Agrees := by
  cases found : table.record? slot with
  | none =>
      have unchanged : table.remove slot = table := by simp [Table.remove, found]
      rw [unchanged]
      exact agrees
  | some record =>
      constructor
      · intro key other
        rw [holder?_remove found, record?_remove]
        by_cases listed : key ∈ record.keys
        · -- The key belonged to the record that goes, so no other record lists it.
          rw [if_pos listed]
          constructor
          · intro vacant
            cases vacant
          · intro condition
            rcases condition with ⟨otherRecord, there, member⟩
            split at there
            · cases there
            · next different =>
              exact absurd (agrees.slot_unique there member found listed) different
        · rw [if_neg listed, agrees.holder?_eq_some_iff]
          by_cases same : other = slot
          · subst same
            simp [found, listed]
          · rw [if_neg same]
      · intro other otherRecord there
        rw [record?_remove] at there
        split at there
        · cases there
        · exact agrees.nodup there

theorem release (key : SeqId) : (table.release key).Agrees := by
  cases held : table.holder? key with
  | none =>
      have unchanged : table.release key = table := by simp [Table.release, held]
      rw [unchanged]
      exact agrees
  | some slot =>
      constructor
      · intro other place
        rw [holder?_release, Table.record?_release held]
        by_cases same : other = key
        · subst same
          rw [if_pos rfl]
          constructor
          · intro vacant
            cases vacant
          · intro condition
            rcases condition with ⟨record, there, member⟩
            split at there
            · rcases Option.map_eq_some_iff.mp there with ⟨before, _, rfl⟩
              exact absurd rfl (Record.mem_dropKey.mp member).2
            · next different =>
              rw [agrees.holder?_of_mem there member] at held
              exact absurd (Option.some.inj held) different
        · rw [if_neg same, agrees.holder?_eq_some_iff]
          split
          · simp only [Option.map_eq_some_iff]
            constructor
            · intro condition
              rcases condition with ⟨record, found, member⟩
              exact ⟨_, ⟨record, found, rfl⟩, Record.mem_dropKey.mpr ⟨member, same⟩⟩
            · intro condition
              rcases condition with ⟨_, ⟨record, found, rfl⟩, member⟩
              exact ⟨record, found, (Record.mem_dropKey.mp member).1⟩
          · rfl
      · intro place record found
        rw [Table.record?_release held] at found
        split at found
        · rcases Option.map_eq_some_iff.mp found with ⟨before, there, rfl⟩
          exact Record.nodup_dropKey (agrees.nodup there) key
        · exact agrees.nodup found

theorem record?_foldl_release (keys : List SeqId) (slot : Nat) :
    (keys.foldl Table.release table).record? slot =
      (table.record? slot).map fun record => keys.foldl Record.dropKey record := by
  induction keys generalizing table with
  | nil => exact Option.map_id'.symm
  | cons key rest ih =>
      rw [List.foldl_cons, ih (agrees.release key), agrees.record?_release, Option.map_map]
      rfl

theorem refile {key : SeqId} {slot : Nat} {record : Record α}
    (found : table.record? slot = some record)
    (elsewhere : table.holder? key ≠ some slot) : (table.refile key slot).Agrees := by
  have fresh : key ∉ record.keys := fun member =>
    elsewhere (agrees.holder?_of_mem found member)
  constructor
  · intro other place
    rw [holder?_refile, record?_refile_of_ne elsewhere, found]
    by_cases same : other = key
    · -- The key leads to its new record, and all others have lost it.
      subst same
      rw [if_pos rfl]
      constructor
      · rintro ⟨⟩
        exact ⟨_, if_pos rfl, Record.mem_addKey.mpr (.inr rfl)⟩
      · intro condition
        rcases condition with ⟨after, there, member⟩
        split at there
        · next here => rw [here]
        · split at there
          · rcases Option.map_eq_some_iff.mp there with ⟨before, _, rfl⟩
            exact absurd rfl (Record.mem_dropKey.mp member).2
          · next unheld =>
            exact absurd (agrees.holder?_of_mem there member) unheld
    · rw [if_neg same, agrees.holder?_eq_some_iff]
      split
      · next here =>
        subst here
        simp [found, Record.mem_addKey, same]
      · split
        · simp only [Option.map_eq_some_iff]
          constructor
          · intro condition
            rcases condition with ⟨before, there, member⟩
            exact ⟨_, ⟨before, there, rfl⟩, Record.mem_dropKey.mpr ⟨member, same⟩⟩
          · intro condition
            rcases condition with ⟨_, ⟨before, there, rfl⟩, member⟩
            exact ⟨before, there, (Record.mem_dropKey.mp member).1⟩
        · rfl
  · intro place after there
    rw [record?_refile_of_ne elsewhere, found] at there
    split at there
    · rw [← Option.some.inj there]
      exact Record.nodup_addKey (agrees.nodup found) fresh
    · split at there
      · rcases Option.map_eq_some_iff.mp there with ⟨before, held, rfl⟩
        exact Record.nodup_dropKey (agrees.nodup held) key
      · exact agrees.nodup there

theorem register {key : SeqId} {slot : Nat} {after : Table α} {displaced : Option Nat}
    (registered : table.register key slot = .ok (after, displaced)) : after.Agrees := by
  rcases register_eq_ok registered with ⟨_, rfl, _⟩ | ⟨record, found, elsewhere, _, rfl, _⟩
  · exact agrees
  · exact agrees.refile found elsewhere

/-- A new record takes its first key from whichever record held it. -/
theorem register_create {primary key : SeqId} {value : α} {now : Instant} {after : Table α}
    {displaced : Option Nat}
    (registered : (table.create primary value now).register key table.freshSlot =
      .ok (after, displaced)) :
    after = (table.create primary value now).refile key table.freshSlot ∧
      (table.create primary value now).holder? key ≠ some table.freshSlot ∧
      displaced = table.holder? key := by
  have elsewhere : table.holder? key ≠ some table.freshSlot := by
    intro held
    rcases agrees.holder?_eq_some_iff.mp held with ⟨record, found, _⟩
    rw [record?_freshSlot] at found
    cases found
  rcases register_eq_ok registered with ⟨unchanged, _, _⟩ | ⟨_, _, _, _, moved, holder⟩
  · rcases unchanged with vacant | held
    · rw [record?_create, if_pos rfl] at vacant
      cases vacant
    · exact absurd held elsewhere
  · exact ⟨moved, elsewhere, holder⟩

end Agrees

end Table

end ReliableDatagram
