import Mathlib.Algebra.Order.Group.Multiset
import ReliableDatagram.Proofs.Table.Agreement

/-!
# What a table contains

A table changes in four ways: a record comes, a record goes, keys move between
records, and the owner changes a record in place.  This module follows the
multiset of one reading of the records through these changes.  A record that
comes or goes counts once (`contents_create`, `contents_remove`), and what leaves
the reading of each record alone leaves the multiset alone (`contents_modify`,
`contents_register`, `contents_release`).
-/

namespace ReliableDatagram

namespace Arena

variable {α : Type} {arena : Arena α}

theorem pairwise_toList (arena : Arena α) :
    arena.toList.Pairwise fun left right => left.1 ≠ right.1 := by
  apply (Std.ExtTreeMap.distinct_keys_toList (t := arena.entries)).imp
  intro left right different same
  exact different (Std.compare_eq_eq_iff_eq.mpr same)

theorem nodup_toList (arena : Arena α) : arena.toList.Nodup := by
  apply (pairwise_toList arena).imp
  rintro left right different rfl
  exact different rfl

theorem toList_allocate_perm (arena : Arena α) (value : α) :
    (arena.allocate value).toList.Perm ((arena.fresh, value) :: arena.toList) := by
  have absent : (arena.fresh, value) ∉ arena.toList := by
    rw [mem_toList, get?_fresh]
    exact (Option.some_ne_none value).symm
  apply (List.perm_ext_iff_of_nodup (nodup_toList _)
    (List.nodup_cons.mpr ⟨absent, nodup_toList arena⟩)).mpr
  intro condition
  rcases condition with ⟨slot, stored⟩
  rw [mem_toList, get?_allocate, List.mem_cons, mem_toList]
  by_cases same : slot = arena.fresh
  · subst same
    simp [get?_fresh, eq_comm]
  · simp [same]

theorem toList_remove_perm {slot : Nat} {value : α} (found : arena.get? slot = some value) :
    arena.toList.Perm ((slot, value) :: (arena.remove slot).toList) := by
  have absent : (slot, value) ∉ (arena.remove slot).toList := by
    rw [mem_toList, get?_remove, if_pos rfl]
    exact (Option.some_ne_none value).symm
  apply (List.perm_ext_iff_of_nodup (nodup_toList _)
    (List.nodup_cons.mpr ⟨absent, nodup_toList _⟩)).mpr
  intro condition
  rcases condition with ⟨other, stored⟩
  rw [mem_toList, List.mem_cons, mem_toList, get?_remove]
  by_cases same : other = slot
  · subst same
    simp [found, eq_comm]
  · simp [same]

theorem toList_modify_perm (arena : Arena α) (slot : Nat) (change : α → α) :
    (arena.modify slot change).toList.Perm
      (arena.toList.map fun entry =>
        (entry.1, if entry.1 = slot then change entry.2 else entry.2)) := by
  have distinct : (arena.toList.map fun entry =>
      (entry.1, if entry.1 = slot then change entry.2 else entry.2)).Nodup := by
    refine List.pairwise_map.mpr ((pairwise_toList arena).imp ?_)
    intro left right different same
    exact different (Prod.mk.inj same).1
  apply (List.perm_ext_iff_of_nodup (nodup_toList _) distinct).mpr
  intro condition
  rcases condition with ⟨other, stored⟩
  rw [mem_toList, get?_modify, List.mem_map]
  constructor
  · intro found
    by_cases same : other = slot
    · rw [if_pos same, Option.map_eq_some_iff] at found
      rcases found with ⟨value, there, changed⟩
      exact ⟨(other, value), mem_toList.mpr there, by simp [same, changed]⟩
    · rw [if_neg same] at found
      exact ⟨(other, stored), mem_toList.mpr found, by simp [same]⟩
  · intro condition
    rcases condition with ⟨⟨place, value⟩, member, equal⟩
    have there := mem_toList.mp member
    rcases Prod.mk.inj equal with ⟨rfl, rfl⟩
    by_cases same : place = slot
    · simp only [same, if_true] at there ⊢
      rw [there, Option.map_some]
    · simp only [same, if_false]
      exact there

end Arena

namespace Table

variable {α β : Type} {table : Table α}

/-- The readings of all records. -/
def contents (reading : Record α → β) (table : Table α) : Multiset β :=
  ↑(table.toList.map fun entry => reading entry.2)

theorem contents_create (reading : Record α → β) (table : Table α) (primary : SeqId)
    (value : α) (now : Instant) :
    (table.create primary value now).contents reading =
      reading ⟨primary, [], now, value⟩ ::ₘ table.contents reading :=
  Quotient.sound ((table.records.toList_allocate_perm _).map fun entry => reading entry.2)

theorem contents_remove (reading : Record α → β) {slot : Nat} {record : Record α}
    (found : table.record? slot = some record) :
    table.contents reading = reading record ::ₘ (table.remove slot).contents reading := by
  unfold remove
  rw [found]
  exact Quotient.sound
    ((Arena.toList_remove_perm found).map fun entry => reading entry.2)

/-- A change that a reading does not notice leaves the readings alone. -/
theorem readings_modify (reading : Record α → β) (records : Arena (Record α)) (slot : Nat)
    (change : Record α → Record α) (kept : ∀ record, reading (change record) = reading record) :
    ((records.modify slot change).toList.map fun entry => reading entry.2).Perm
      (records.toList.map fun entry => reading entry.2) := by
  refine ((records.toList_modify_perm slot change).map fun entry => reading entry.2).trans ?_
  rw [List.map_map]
  refine List.Perm.of_eq (List.map_congr_left ?_)
  intro entry _
  simp only [Function.comp_apply]
  split
  · exact kept entry.2
  · rfl

theorem contents_modify (reading : Record α → β) (table : Table α) (slot : Nat)
    (change : Record α → Record α) (kept : ∀ record, reading (change record) = reading record) :
    (table.modify slot change).contents reading = table.contents reading :=
  Quotient.sound (readings_modify reading table.records slot change kept)

section Keyless

variable (reading : Record α → β)
variable (keyless : ∀ record keys, reading { record with keys } = reading record)

include keyless

theorem readings_detach (records : Arena (Record α)) (key : SeqId) (slot : Option Nat) :
    ((detach records key slot).toList.map fun entry => reading entry.2).Perm
      (records.toList.map fun entry => reading entry.2) := by
  cases slot with
  | none => exact .refl _
  | some slot =>
      exact readings_modify reading records slot _ fun record => keyless record _

/-- Moving a key leaves alone what does not depend on keys. -/
theorem contents_register {key : SeqId} {slot : Nat} {after : Table α}
    {displaced : Option Nat} (registered : table.register key slot = .ok (after, displaced)) :
    after.contents reading = table.contents reading := by
  rcases register_eq_ok registered with ⟨_, rfl, _⟩ | ⟨record, _, _, _, rfl, _⟩
  · rfl
  · refine Quotient.sound ((readings_modify reading _ slot _ ?_).trans
      (readings_detach reading keyless table.records key _))
    exact fun record => keyless record _

theorem contents_release (table : Table α) (key : SeqId) :
    (table.release key).contents reading = table.contents reading := by
  unfold release
  split
  · rfl
  · exact Quotient.sound (readings_detach reading keyless table.records key _)

end Keyless

end Table

end ReliableDatagram
