import Mathlib.Data.List.Dedup
import ReliableDatagram.Proofs.Table.Agreement

/-!
# Filing a record under many keys

Keys that a record lists already, and keys that come twice, change nothing when they are
registered one after the other.  Leaving them out first therefore makes no difference
(`Agrees.registerEach_freshKeys`), and a record is filed under all of some keys exactly
when it has room for those that are different (`Agrees.registerAll_eq`).
-/

namespace ReliableDatagram

namespace Table

variable {α : Type} {table : Table α}

/-! ## Keys that are new -/

/-- Keys that were collected count as held from then on. -/
theorem foldl_freshKeys (held fresh keys : List SeqId) :
    keys.foldl (fun fresh key =>
      if held.contains key || fresh.contains key then fresh else fresh ++ [key]) fresh =
        fresh ++ freshKeys (held ++ fresh) keys := by
  induction keys generalizing held fresh with
  | nil => simp [freshKeys]
  | cons key rest ih =>
      by_cases known : key ∈ held ∨ key ∈ fresh
      · have left : freshKeys (held ++ fresh) (key :: rest) = freshKeys (held ++ fresh) rest := by
          simp [freshKeys, known]
        rw [List.foldl_cons, left, ← ih held fresh]
        simp [known]
      · have taken : freshKeys (held ++ fresh) (key :: rest) =
            [key] ++ freshKeys (held ++ fresh ++ [key]) rest := by
          rw [← ih (held ++ fresh) [key]]
          simp [freshKeys, known]
        rw [List.foldl_cons, taken, ← List.append_assoc, List.append_assoc held,
          ← ih held (fresh ++ [key])]
        simp [known]

theorem freshKeys_cons_of_mem {held : List SeqId} {key : SeqId} (known : key ∈ held)
    (rest : List SeqId) : freshKeys held (key :: rest) = freshKeys held rest := by
  simp [freshKeys, known]

theorem freshKeys_cons_of_notMem {held : List SeqId} {key : SeqId} (unknown : key ∉ held)
    (rest : List SeqId) :
    freshKeys held (key :: rest) = key :: freshKeys (held ++ [key]) rest := by
  have after := foldl_freshKeys held [key] rest
  simp only [freshKeys, List.foldl_cons] at after ⊢
  simpa [unknown] using after

theorem mem_append_freshKeys {held keys : List SeqId} {key : SeqId} :
    key ∈ held ++ freshKeys held keys ↔ key ∈ held ++ keys := by
  induction keys generalizing held with
  | nil => rfl
  | cons first rest ih =>
      by_cases known : first ∈ held
      · rw [freshKeys_cons_of_mem known, ih, List.mem_append, List.mem_append, List.mem_cons]
        constructor
        · exact Or.imp_right .inr
        · rintro (held | rfl | later)
          · exact .inl held
          · exact .inl known
          · exact .inr later
      · rw [freshKeys_cons_of_notMem known, ← List.singleton_append, ← List.append_assoc, ih,
          List.append_assoc]
        rfl

theorem nodup_append_freshKeys {held : List SeqId} (distinct : held.Nodup)
    (keys : List SeqId) : (held ++ freshKeys held keys).Nodup := by
  induction keys generalizing held with
  | nil => simpa [freshKeys] using distinct
  | cons first rest ih =>
      by_cases known : first ∈ held
      · rw [freshKeys_cons_of_mem known]
        exact ih distinct
      · rw [freshKeys_cons_of_notMem known, ← List.singleton_append, ← List.append_assoc]
        apply ih
        exact distinct.append (List.nodup_singleton first) (by simpa using known)

/-- The new keys are the others among the given ones, without repetition. -/
theorem freshKeys_eq (held keys : List SeqId) :
    freshKeys held keys = (keys.filter (· ∉ held)).eraseDups := by
  induction keys generalizing held with
  | nil => rfl
  | cons key rest ih =>
      by_cases known : key ∈ held
      · rw [freshKeys_cons_of_mem known, ih, List.filter_cons_of_neg (by simpa using known)]
      · have others : rest.filter (· ∉ held ++ [key]) =
            (rest.filter (· ∉ held)).filter (fun other => !other == key) := by
          rw [List.filter_filter]
          apply List.filter_congr
          intro other _
          by_cases same : other = key <;> simp [same]
        rw [freshKeys_cons_of_notMem known, ih, others,
          List.filter_cons_of_pos (by simpa using known), List.eraseDups_cons]

/-- With its new keys a record lists all keys that are different. -/
theorem length_append_freshKeys {held : List SeqId} (distinct : held.Nodup)
    (keys : List SeqId) :
    held.length + (freshKeys held keys).length = (held ++ keys).dedup.length := by
  rw [← List.length_append]
  apply List.Perm.length_eq
  apply (List.perm_ext_iff_of_nodup (nodup_append_freshKeys distinct keys)
    (List.nodup_dedup _)).mpr
  intro key
  rw [mem_append_freshKeys, List.mem_dedup]

/-! ## One key after the other -/

/-- File the record of `slot` under keys, one after the other. -/
def registerEach (table : Table α) (keys : List SeqId) (slot : Nat) :
    Except CapacityError (Table α) :=
  keys.foldlM (fun table key => (table.register key slot).map (·.1)) table

theorem registerEach_cons_of_ok {key : SeqId} {slot : Nat} {after : Table α}
    {displaced : Option Nat} (registered : table.register key slot = .ok (after, displaced))
    (rest : List SeqId) : table.registerEach (key :: rest) slot = after.registerEach rest slot := by
  simp only [registerEach, List.foldlM_cons, registered, Except.map, bind, Except.bind]

theorem registerEach_cons_of_error {key : SeqId} {slot : Nat} {error : CapacityError}
    (refused : table.register key slot = .error error) (rest : List SeqId) :
    table.registerEach (key :: rest) slot = .error error := by
  simp only [registerEach, List.foldlM_cons, refused, Except.map, bind, Except.bind]

theorem register_of_held {key : SeqId} {slot : Nat} (held : table.holder? key = some slot) :
    table.register key slot = .ok (table, none) := by
  unfold register
  split
  · rfl
  · simp [held]

theorem register_of_room {key : SeqId} {slot : Nat} {record : Record α}
    (found : table.record? slot = some record) (elsewhere : table.holder? key ≠ some slot)
    (room : record.keys.length < Capacity.keysPerRecord) :
    table.register key slot = .ok (table.refile key slot, table.holder? key) := by
  unfold register
  simp only [found, elsewhere, Nat.not_le_of_lt room, if_false]
  rfl

theorem register_of_full {key : SeqId} {slot : Nat} {record : Record α}
    (found : table.record? slot = some record) (elsewhere : table.holder? key ≠ some slot)
    (full : Capacity.keysPerRecord ≤ record.keys.length) :
    table.register key slot =
      .error (.tooManyKeys record.primary Capacity.keysPerRecord) := by
  unfold register
  simp only [found, elsewhere, full, if_false, if_true]

theorem register_of_unheld {key : SeqId} {slot : Nat} {record : Record α}
    (unheld : table.holder? key = none) (found : table.record? slot = some record)
    (room : record.keys.length < Capacity.keysPerRecord) :
    table.register key slot = .ok (table.refile key slot, none) := by
  have registered :=
    register_of_room found (unheld ▸ (Option.some_ne_none slot).symm : table.holder? key ≠ _) room
  rwa [unheld] at registered

/-- A key that leads nowhere is added to one record and taken from none. -/
theorem record?_register_of_unheld {key : SeqId} {slot : Nat} {record : Record α}
    {after : Table α} {displaced : Option Nat} (unheld : table.holder? key = none)
    (found : table.record? slot = some record)
    (registered : table.register key slot = .ok (after, displaced)) (other : Nat) :
    after.record? other =
      if other = slot then some (record.addKey key) else table.record? other := by
  have elsewhere : table.holder? key ≠ some slot := unheld ▸ (Option.some_ne_none slot).symm
  rcases register_eq_ok registered with ⟨vacant | held, _, _⟩ | ⟨_, _, _, _, rfl, _⟩
  · cases vacant.symm.trans found
  · exact absurd held elsewhere
  · rw [record?_refile_of_ne elsewhere, found, unheld, if_neg (Option.some_ne_none other).symm]
    rfl

namespace Agrees

/-- Where a record has room for its new keys, leaving out the others first makes no
difference. -/
theorem registerEach_freshKeys (agrees : table.Agrees) {slot : Nat} {record : Record α}
    (found : table.record? slot = some record) (keys : List SeqId)
    (room : record.keys.length + (freshKeys record.keys keys).length ≤
      Capacity.keysPerRecord) :
    table.registerEach (freshKeys record.keys keys) slot = table.registerEach keys slot := by
  induction keys generalizing table record with
  | nil => rfl
  | cons key rest ih =>
      by_cases listed : key ∈ record.keys
      · -- The key is left out on one side and changes nothing on the other.
        rw [registerEach_cons_of_ok (register_of_held (agrees.holder?_of_mem found listed)) rest]
        rw [freshKeys_cons_of_mem listed] at room ⊢
        exact ih agrees found room
      · -- The key moves to the record, which then lists it when its second copy comes.
        have elsewhere := agrees.holder?_ne_of_notMem found listed
        rw [freshKeys_cons_of_notMem listed] at room ⊢
        rw [List.length_cons] at room
        have registered := register_of_room found elsewhere (by omega)
        rw [registerEach_cons_of_ok registered, registerEach_cons_of_ok registered]
        apply ih (agrees.refile found elsewhere) (record?_refile_self elsewhere found)
        rw [Record.keys_addKey, List.length_append, List.length_singleton]
        omega

/-- A record is filed under all keys one after the other, unless they and its own are too
many different ones. -/
theorem registerAll_eq (agrees : table.Agrees) {slot : Nat} {record : Record α}
    (found : table.record? slot = some record) (keys : List SeqId) :
    table.registerAll keys slot =
      if Capacity.keysPerRecord < (record.keys ++ keys).dedup.length then
        .error (.tooManyKeys record.primary Capacity.keysPerRecord)
      else table.registerEach keys slot := by
  have counted := length_append_freshKeys (agrees.nodup found) keys
  unfold registerAll
  simp only [found, counted]
  split
  · rfl
  · next room =>
    rw [← counted] at room
    exact agrees.registerEach_freshKeys found keys (Nat.le_of_not_lt room)

end Agrees

end Table

end ReliableDatagram
