import ReliableDatagram.Proofs.Table.Refinement

/-!
# Filing under all keys or none

A record that is filed under keys one after the other may be refused one of them when it has
gained others already (`fileInTurn`).  Filing it under all keys together looks first whether
it has room for those that are new, and files it under these in turn only then
(`fileTogether`).  Whether there is room tells in advance whether a key would be refused
(`Consistent.fileInTurn_of_le`, `Consistent.fileInTurn_of_lt`).  So the second look that each
registration takes never finds the record full, and nothing has to be taken back
(`filed_under_all_or_none`).
-/

namespace ReliableDatagram

namespace Table

variable {α : Type} {table : Table α} {slot : Nat} {record : Record α}

/-! ## Two ways to file under many keys -/

/-- File the record of `slot` under keys one after the other, up to the first that it is
refused.  The answer has the table as it is then. -/
def fileInTurn (table : Table α) (slot : Nat) : List SeqId → Table α × Option CapacityError
  | [] => (table, none)
  | key :: rest =>
      match table.register key slot with
      | .error error => (table, some error)
      | .ok (after, _) => after.fileInTurn slot rest

/-- File the record of `slot` under the keys that are new to it in turn, unless these are too
many.  The answer has the table as it is then. -/
def fileTogether (table : Table α) (slot : Nat) (keys : List SeqId) :
    Table α × Option CapacityError :=
  match table.record? slot with
  | none => (table, none)
  | some record =>
      let fresh := freshKeys record.keys keys
      if Capacity.keysPerRecord < record.keys.length + fresh.length then
        (table, some (.tooManyKeys record.primary Capacity.keysPerRecord))
      else table.fileInTurn slot fresh

theorem registerEach_eq_fileInTurn (table : Table α) (slot : Nat) (keys : List SeqId) :
    table.registerEach keys slot =
      match table.fileInTurn slot keys with
      | (after, none) => .ok after
      | (_, some error) => .error error := by
  induction keys generalizing table with
  | nil => rfl
  | cons key rest ih =>
      cases registered : table.register key slot with
      | error error =>
          rw [registerEach_cons_of_error registered]
          simp only [fileInTurn, registered]
      | ok answer =>
          rw [registerEach_cons_of_ok registered, ih]
          simp only [fileInTurn, registered]

theorem registerAll_eq_fileTogether (table : Table α) (slot : Nat) (keys : List SeqId) :
    table.registerAll keys slot =
      match table.fileTogether slot keys with
      | (after, none) => .ok after
      | (_, some error) => .error error := by
  unfold registerAll fileTogether
  cases table.record? slot with
  | none => rfl
  | some record =>
      simp only
      split
      · rfl
      · exact table.registerEach_eq_fileInTurn slot _

/-- Keys are registered one after the other exactly when none is refused. -/
theorem registerEach_eq_ok_iff {keys : List SeqId} {after : Table α} :
    table.registerEach keys slot = .ok after ↔ table.fileInTurn slot keys = (after, none) := by
  rw [registerEach_eq_fileInTurn]
  obtain ⟨left, _ | error⟩ := table.fileInTurn slot keys
  · simp
  · simp

namespace Consistent

/-! ## One key after the other -/

/-- What becomes of the first of some keys: the record lists it already, gains it, or has no
room for it. -/
theorem fileInTurn_cons (consistent : table.Consistent)
    (found : table.record? slot = some record) (key : SeqId) (rest : List SeqId) :
    (key ∈ record.keys ∧ table.holder? key = some slot ∧
        table.fileInTurn slot (key :: rest) = table.fileInTurn slot rest) ∨
      (key ∉ record.keys ∧ (table.refile key slot).Consistent ∧
        (table.refile key slot).record? slot = some (record.addKey key) ∧
        table.fileInTurn slot (key :: rest) = (table.refile key slot).fileInTurn slot rest) ∨
      (key ∉ record.keys ∧ Capacity.keysPerRecord ≤ record.keys.length ∧
        table.fileInTurn slot (key :: rest) =
          (table, some (.tooManyKeys record.primary Capacity.keysPerRecord))) := by
  by_cases listed : key ∈ record.keys
  · have held := consistent.holder?_of_mem found listed
    exact .inl ⟨listed, held, by simp only [fileInTurn, register_of_held held]⟩
  · have elsewhere := consistent.holder?_ne_of_notMem found listed
    by_cases full : Capacity.keysPerRecord ≤ record.keys.length
    · refine .inr (.inr ⟨listed, full, ?_⟩)
      simp only [fileInTurn, register_of_full found elsewhere full]
    · have room := Nat.lt_of_not_le full
      exact .inr (.inl ⟨listed, consistent.refile found elsewhere room,
        record?_refile_self elsewhere found,
        by simp only [fileInTurn, register_of_room found elsewhere room]⟩)

/-- When the keys are not too many, the record gains those that are new, and all other records
lose the keys that they listed. -/
theorem fileInTurn_of_le (consistent : table.Consistent)
    (found : table.record? slot = some record) {keys : List SeqId}
    (few : record.keys.length + (freshKeys record.keys keys).length ≤ Capacity.keysPerRecord) :
    ∃ after, table.fileInTurn slot keys = (after, none) ∧
      after.record? slot =
        some { record with keys := record.keys ++ freshKeys record.keys keys } ∧
      ∀ other, other ≠ slot →
        after.record? other = (table.record? other).map fun kept => keys.foldl .dropKey kept := by
  induction keys generalizing table record with
  | nil =>
      refine ⟨table, rfl, ?_, fun other _ => Option.map_id'.symm⟩
      rw [found, show freshKeys record.keys [] = [] from rfl, List.append_nil]
  | cons key rest ih =>
      obtain ⟨listed, held, same⟩ | ⟨unlisted, kept, added, same⟩ | ⟨unlisted, full, _⟩ :=
        consistent.fileInTurn_cons found key rest
      · -- No other record lists the key, so dropping it changes none of them.
        rw [freshKeys_cons_of_mem listed] at few ⊢
        obtain ⟨after, filed, gained, others⟩ := ih consistent found few
        refine ⟨after, same.trans filed, gained, fun other apart => ?_⟩
        have unheld : table.holder? key ≠ some other := by
          rw [held]
          exact fun equal => apart (Option.some.inj equal).symm
        rw [others other apart]
        conv_lhs => rw [← consistent.map_dropKey unheld, Option.map_map]
        rfl
      · rw [freshKeys_cons_of_notMem unlisted] at few ⊢
        obtain ⟨after, filed, gained, others⟩ := ih kept added (by
          rw [Record.length_addKey, Record.keys_addKey]
          rw [List.length_cons] at few
          omega)
        refine ⟨after, same.trans filed, ?_, fun other apart => ?_⟩
        · rw [gained, Record.keys_addKey, List.append_assoc]
          rfl
        · rw [others other apart, consistent.record?_refile_other apart, Option.map_map]
          rfl
      · rw [freshKeys_cons_of_notMem unlisted, List.length_cons] at few
        omega

theorem fileInTurn_of_lt (consistent : table.Consistent)
    (found : table.record? slot = some record) {keys : List SeqId}
    (many : Capacity.keysPerRecord < record.keys.length + (freshKeys record.keys keys).length) :
    (table.fileInTurn slot keys).2 =
      some (.tooManyKeys record.primary Capacity.keysPerRecord) := by
  induction keys generalizing table record with
  | nil => exact absurd (consistent.keys_le found) (Nat.not_le_of_lt many)
  | cons key rest ih =>
      obtain ⟨listed, held, same⟩ | ⟨unlisted, kept, added, same⟩ | ⟨unlisted, full, same⟩ :=
        consistent.fileInTurn_cons found key rest
      · rw [freshKeys_cons_of_mem listed] at many
        rw [same, ih consistent found many]
      · rw [freshKeys_cons_of_notMem unlisted, List.length_cons] at many
        rw [same, ih kept added]
        · rfl
        · rw [Record.length_addKey, Record.keys_addKey]
          omega
      · rw [same]

end Consistent

/-! ## All keys together -/

theorem fileTogether_of_lt (found : table.record? slot = some record) {keys : List SeqId}
    (many : Capacity.keysPerRecord < record.keys.length + (freshKeys record.keys keys).length) :
    table.fileTogether slot keys =
      (table, some (.tooManyKeys record.primary Capacity.keysPerRecord)) := by
  simp only [fileTogether, found, if_pos many]

/-- When the keys are not too many, it makes no difference which way is taken. -/
theorem Consistent.fileTogether_of_le (consistent : table.Consistent)
    (found : table.record? slot = some record) {keys : List SeqId} {after : Table α}
    (few : record.keys.length + (freshKeys record.keys keys).length ≤ Capacity.keysPerRecord)
    (filed : table.fileInTurn slot keys = (after, none)) :
    table.fileTogether slot keys = (after, none) := by
  have same := consistent.registerEach_freshKeys found keys few
  rw [registerEach_eq_ok_iff.mpr filed, registerEach_eq_ok_iff] at same
  simp only [fileTogether, found, if_neg (Nat.not_lt_of_le few), same]

/-- In every table that a run reaches, a record is filed under all of some keys if its own keys
and these are not too many different ones.  Then it gains those that are new in the order of
their first occurrence, all other records lose the keys that they listed, and the table is
the one that comes of filing the record under the keys one after the other.  Otherwise the
table is left as it was, where the record would be refused one of the keys in turn. -/
theorem filed_under_all_or_none (origin : SeqId) (operations : List (Operation α))
    (found : (Transition.run step (∅, .start origin) operations).1.1.record? slot = some record)
    (keys : List SeqId) :
    let table := (Transition.run step (∅, .start origin) operations).1.1
    let distinct := (record.keys ++ keys).dedup.length
    let error := CapacityError.tooManyKeys record.primary Capacity.keysPerRecord
    (distinct ≤ Capacity.keysPerRecord → ∃ after,
      table.registerAll keys slot = .ok after ∧
        table.fileTogether slot keys = (after, none) ∧
        table.fileInTurn slot keys = (after, none) ∧
        ∀ other, after.record? other =
          if other = slot then
            some { record with
              keys := record.keys ++ (keys.filter (· ∉ record.keys)).eraseDups }
          else (table.record? other).map fun kept =>
            { kept with keys := kept.keys.filter (· ∉ keys) }) ∧
    (Capacity.keysPerRecord < distinct →
      table.registerAll keys slot = .error error ∧
        table.fileTogether slot keys = (table, some error) ∧
        (table.fileInTurn slot keys).2 = some error) := by
  intro table distinct error
  have consistent : table.Consistent :=
    (consistent_empty.runs_ledger (.start origin) operations).2
  have counted : record.keys.length + (freshKeys record.keys keys).length = distinct :=
    length_append_freshKeys (consistent.nodup found) keys
  constructor
  · intro few
    rw [← counted] at few
    obtain ⟨after, filed, gained, others⟩ := consistent.fileInTurn_of_le found few
    have together := consistent.fileTogether_of_le found few filed
    refine ⟨after, ?_, together, filed, fun other => ?_⟩
    · rw [registerAll_eq_fileTogether, together]
    · split
      · next here => rw [here, gained, freshKeys_eq]
      · next apart =>
        rw [others other apart]
        exact Option.map_congr fun kept _ => Record.foldl_dropKey keys kept
  · intro many
    rw [← counted] at many
    have refused : table.fileTogether slot keys = (table, some error) :=
      fileTogether_of_lt found many
    refine ⟨?_, refused, consistent.fileInTurn_of_lt found many⟩
    rw [registerAll_eq_fileTogether, refused]

/-- Two records, of which the first lists one key and the second two. -/
def paired : List (Operation Unit) :=
  [.create (.ofNat 1) () ⟨0⟩, .create (.ofNat 2) () ⟨0⟩, .register (.ofNat 10) 0,
    .registerAll [.ofNat 20, .ofNat 21] 1]

theorem filed_under_all_or_none_paired :
    let table := (Transition.run step (∅, .start (.ofNat 0)) paired).1.1
    let record : Record Unit := ⟨.ofNat 1, [.ofNat 10], ⟨0⟩, ()⟩
    let keys : List SeqId := [.ofNat 30, .ofNat 20, .ofNat 10, .ofNat 30]
    let many : List SeqId := (List.range 257).map .ofNat
    table.record? 0 = some record ∧
      (record.keys ++ keys).dedup.length ≤ Capacity.keysPerRecord ∧
      (∃ after, table.registerAll keys 0 = .ok after ∧
        (after.record? 0).map (·.keys) = some [.ofNat 10, .ofNat 30, .ofNat 20] ∧
        (after.record? 1).map (·.keys) = some [.ofNat 21]) ∧
      Capacity.keysPerRecord < (record.keys ++ many).dedup.length ∧
      table.registerAll many 0 = .error (.tooManyKeys (.ofNat 1) 256) ∧
      table.fileTogether 0 many = (table, some (.tooManyKeys (.ofNat 1) 256)) := by
  intro table record keys many
  have found : table.record? 0 = some record := by decide
  have other : table.record? 1 = some ⟨.ofNat 2, [.ofNat 20, .ofNat 21], ⟨0⟩, ()⟩ := by decide
  have few : (record.keys ++ keys).dedup.length ≤ Capacity.keysPerRecord := by decide
  have crowd : Capacity.keysPerRecord < (record.keys ++ many).dedup.length := by
    have apart : many.Nodup := by
      refine List.Nodup.map_on ?_ List.nodup_range
      intro first firstMem second secondMem same
      rw [List.mem_range] at firstMem secondMem
      have equal := congrArg SeqId.toNat same
      rw [SeqId.toNat_ofNat, SeqId.toNat_ofNat] at equal
      simp only [SeqId.space] at equal
      omega
    have among : many ⊆ (record.keys ++ many).dedup := fun key member =>
      List.mem_dedup.mpr (List.mem_append_right _ member)
    have counted : many.length = 257 := by rw [List.length_map, List.length_range]
    exact Nat.lt_of_lt_of_le (counted ▸ by decide) (apart.subperm among).length_le
  obtain ⟨after, filed, _, _, records⟩ :=
    (filed_under_all_or_none (.ofNat 0) paired found keys).1 few
  have refused := (filed_under_all_or_none (.ofNat 0) paired found many).2 crowd
  refine ⟨found, few, ⟨after, filed, ?_, ?_⟩, crowd, refused.1, refused.2.1⟩
  · rw [records]
    decide
  · rw [records, show table.record? 1 = _ from other]
    decide

end Table

end ReliableDatagram
