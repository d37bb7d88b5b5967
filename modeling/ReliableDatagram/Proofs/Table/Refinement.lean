import ReliableDatagram.Proofs.Table.Consistency
import ReliableDatagram.Proofs.Table.Ledger
import ReliableDatagram.Proofs.Table.Registration
import ReliableDatagram.Transition

/-!
# Tables refine ledgers

A table answers every query from its index as a ledger answers it by looking through the
records (`Consistent.shows_ledger`).  Each operation on a consistent table is the same
operation on its ledger, with the slot that the arena picks for a new record
(`Consistent.perform_ledger`), and so is each run of operations (`runs_ledger`).
-/

namespace ReliableDatagram

namespace Table

variable {α : Type} {table : Table α}

/-! ## Operations -/

/-- The table and the cursor after an operation, with the answer. -/
def perform : Table α × Cursor → Operation α → (Table α × Cursor) × Answer α
  | (table, cursor), .create primary value now =>
      ((table.create primary value now, cursor), .slot (some table.freshSlot))
  | (table, cursor), .register key slot =>
      match table.register key slot with
      | .error error => ((table, cursor), .refused error)
      | .ok (after, displaced) => ((after, cursor), .slot displaced)
  | (table, cursor), .registerAll keys slot =>
      match table.registerAll keys slot with
      | .error error => ((table, cursor), .refused error)
      | .ok after => ((after, cursor), .done)
  | (table, cursor), .release key => ((table.release key, cursor), .slot (table.holder? key))
  | (table, cursor), .remove slot => ((table.remove slot, cursor), .record (table.record? slot))
  | (table, cursor), .touch slot now => ((table.touch slot now, cursor), .done)
  | (table, cursor), .update slot change =>
      ((table.update slot change, cursor), .record (table.record? slot))
  | (table, _), .walk origin => ((table, .start origin), .done)
  | (table, cursor), .next => ((table, cursor.advance table), .entry (cursor.peek table))
  | (table, cursor), .peek => ((table, cursor), .entry (cursor.peek table))
  | (table, cursor), .releaseCurrent =>
      ((cursor.releaseCurrent table, cursor), .slot (cursor.slot? table))
  | (table, cursor), .removeCurrentRecord =>
      ((cursor.removeCurrentRecord table, cursor),
        .record ((cursor.slot? table).bind table.record?))

/-- An operation as a step of a run. -/
def step : Transition (Table α × Cursor) (Operation α) (Answer α) :=
  fun state operation => ((perform state operation).1, [(perform state operation).2])

/-- The records of a table. -/
def ledger (table : Table α) : Ledger α := ⟨table.records.entries⟩

/-- What one can ask of a table has the answer that a ledger gives, and the table passes
its own check. -/
structure Shows (table : Table α) (ledger : Ledger α) : Prop where
  record? : ∀ slot, table.record? slot = ledger.record? slot
  holder? : ∀ key, table.holder? key = ledger.holder? key
  lookup : ∀ key, table.lookup key = ledger.lookup key
  containsKey : ∀ key, table.containsKey key = ledger.containsKey key
  size : table.size = ledger.size
  keyCount : table.keyCount = ledger.keyCount
  toList : table.toList = ledger.toList
  keysFrom : ∀ origin, table.keysFrom origin = ledger.keysFrom origin
  isConsistent : table.isConsistent

theorem record?_ledger (table : Table α) (slot : Nat) :
    table.ledger.record? slot = table.record? slot := rfl

namespace Consistent

variable (consistent : table.Consistent)

include consistent

/-! ## Queries -/

/-- The first record that lists a key is the one that the key leads to. -/
theorem find?_ledger (key : SeqId) :
    (table.ledger.toList.find? fun entry => entry.2.holds key) =
      (table.holder? key).bind fun slot => (table.record? slot).map fun record =>
        (slot, record) := by
  have leads : ∀ {slot : Nat} {record : Record α}, (slot, record) ∈ table.ledger.toList →
      record.holds key → table.holder? key = some slot := by
    intro slot record member holds
    exact consistent.holder?_of_mem (Ledger.mem_toList.mp member) (Ledger.holds_iff.mp holds)
  cases search : table.ledger.toList.find? fun entry => entry.2.holds key with
  | none =>
      cases held : table.holder? key with
      | none => rfl
      | some slot =>
          rcases consistent.holder?_eq_some_iff.mp held with ⟨record, found, member⟩
          have missed := List.find?_eq_none.mp search (slot, record) (Ledger.mem_toList.mpr found)
          exact absurd (Ledger.holds_iff.mpr member) missed
  | some entry =>
      rcases entry with ⟨slot, record⟩
      have member := List.mem_of_find?_eq_some search
      have found : table.record? slot = some record := Ledger.mem_toList.mp member
      have holds : record.holds key := List.find?_some
        (p := fun entry : Nat × Record α => entry.2.holds key) search
      rw [leads member holds, Option.bind_some, found, Option.map_some]

theorem holder?_ledger (key : SeqId) : table.ledger.holder? key = table.holder? key := by
  rw [Ledger.holder?, consistent.find?_ledger]
  cases held : table.holder? key with
  | none => rfl
  | some slot =>
      rcases consistent.holder?_eq_some_iff.mp held with ⟨record, found, _⟩
      rw [Option.bind_some, found, Option.map_some, Option.map_some]

theorem lookup_ledger (key : SeqId) : table.ledger.lookup key = table.lookup key := by
  rw [Ledger.lookup, consistent.find?_ledger, lookup]
  cases table.holder? key with
  | none => rfl
  | some slot =>
      rw [Option.bind_some, Option.bind_some, Option.map_map]
      exact Option.map_id'

theorem containsKey_ledger (key : SeqId) :
    table.ledger.containsKey key = table.containsKey key := by
  have indexed : table.containsKey key = (table.holder? key).isSome :=
    Std.ExtTreeMap.contains_eq_isSome_getElem?
  rw [indexed, ← consistent.holder?_ledger, Ledger.containsKey, Ledger.holder?,
    Option.isSome_map, List.isSome_find?]

/-- A walk over the index meets the listed keys in the order of their distances. -/
theorem keysFrom_ledger (origin : SeqId) :
    table.ledger.keysFrom origin = table.keysFrom origin := by
  have sorted := (Record.filings table.toList).mergeSort_perm fun left right =>
    origin.distanceTo left.1 ≤ origin.distanceTo right.1
  have walked : (table.keysFrom origin).Perm table.index.toList := by
    apply (List.perm_ext_iff_of_nodup _ _).mpr
    · rintro ⟨key, slot⟩
      exact SeqMap.mem_entriesFrom.trans
        Std.ExtTreeMap.mem_toList_iff_getElem?_eq_some.symm
    · apply (SeqMap.pairwise_entriesFrom table.index origin).imp
      intro left right less same
      exact Nat.lt_irrefl _ (same ▸ less)
    · apply (SeqMap.pairwise_toList table.index).imp
      intro left right less same
      exact Nat.lt_irrefl _ (same ▸ less)
  have listed := sorted.trans consistent.filings_perm
  have ordered : (table.ledger.keysFrom origin).Pairwise fun left right =>
      origin.distanceTo left.1 ≤ origin.distanceTo right.1 := by
    apply (List.pairwise_mergeSort _ _ _).imp
    · intro left right close
      exact of_decide_eq_true close
    · intro left middle right
      simp only [decide_eq_true_eq]
      exact Nat.le_trans
    · intro left right
      simp only [Bool.or_eq_true, decide_eq_true_eq]
      exact Nat.le_total _ _
  have visited : (table.keysFrom origin).Pairwise fun left right =>
      origin.distanceTo left.1 ≤ origin.distanceTo right.1 :=
    (SeqMap.pairwise_entriesFrom table.index origin).imp Nat.le_of_lt
  refine List.Perm.eq_of_pairwise ?_ ordered visited (listed.trans walked.symm)
  · -- Keys at one distance are one key, and the index has one slot for it.
    rintro ⟨left, first⟩ ⟨right, second⟩ leftMem rightMem before after
    have same : left = right := SeqId.distanceTo_injective (Nat.le_antisymm before after)
    have leftHeld := Std.ExtTreeMap.mem_toList_iff_getElem?_eq_some.mp (listed.subset leftMem)
    have rightHeld := Std.ExtTreeMap.mem_toList_iff_getElem?_eq_some.mp
      (walked.subset rightMem)
    rw [same, rightHeld] at leftHeld
    rw [same, Option.some.inj leftHeld]

theorem peek_ledger (cursor : Cursor) : table.ledger.peek cursor = cursor.peek table := by
  rw [Ledger.peek, consistent.keysFrom_ledger]
  rfl

theorem shows_ledger : table.Shows table.ledger where
  record? _ := rfl
  holder? key := (consistent.holder?_ledger key).symm
  lookup key := (consistent.lookup_ledger key).symm
  containsKey key := (consistent.containsKey_ledger key).symm
  size := Std.ExtTreeMap.length_toList.symm
  keyCount := by
    rw [← consistent.length_filings, Record.length_filings]
    rfl
  toList := rfl
  keysFrom origin := (consistent.keysFrom_ledger origin).symm
  isConsistent := consistent.isConsistent

/-! ## Changes -/

omit consistent in
theorem ledger_create (table : Table α) (primary : SeqId) (value : α) (now : Instant) :
    (table.create primary value now).ledger =
      table.ledger.put table.freshSlot ⟨primary, [], now, value⟩ := by
  apply Ledger.ext_record?
  intro slot
  rw [Ledger.record?_put]
  exact table.record?_create primary value now slot

omit consistent in
theorem ledger_modify (table : Table α) (slot : Nat) (change : Record α → Record α) :
    (table.modify slot change).ledger = table.ledger.modify slot change := by
  apply Ledger.ext_record?
  intro other
  rw [Ledger.record?_modify]
  exact table.record?_modify slot change other

omit consistent in
theorem ledger_remove (table : Table α) (slot : Nat) :
    (table.remove slot).ledger = table.ledger.remove slot := by
  apply Ledger.ext_record?
  intro other
  rw [Ledger.record?_remove]
  exact table.record?_remove slot other

theorem ledger_release (key : SeqId) :
    (table.release key).ledger = table.ledger.release key := by
  rw [Ledger.release, consistent.holder?_ledger]
  cases held : table.holder? key with
  | none => simp only [Table.release, held]
  | some slot =>
      apply Ledger.ext_record?
      intro other
      rw [Ledger.record?_modify]
      exact record?_release held other

/-- A key that moves is taken out of one list and appended to another. -/
theorem ledger_refile {key : SeqId} {slot : Nat} (elsewhere : table.holder? key ≠ some slot) :
    (table.refile key slot).ledger =
      (table.ledger.release key).modify slot (·.addKey key) := by
  rw [← consistent.ledger_release]
  apply Ledger.ext_record?
  intro other
  rw [Ledger.record?_modify, record?_ledger, record?_ledger, record?_refile_of_ne elsewhere]
  cases held : table.holder? key with
  | none =>
      have unchanged : table.release key = table := by simp [Table.release, held]
      rw [unchanged]
      split
      · next here => rw [here]
      · rfl
  | some holder =>
      have apart : slot ≠ holder := fun same => elsewhere (same ▸ held)
      rw [record?_release held]
      split
      · next here => rw [here, if_neg apart]
      · simp only [Option.some.injEq, @eq_comm Nat other]

theorem register_ledger (key : SeqId) (slot : Nat) :
    table.ledger.register key slot =
      (table.register key slot).map fun answer => (answer.1.ledger, answer.2) := by
  rw [Ledger.register, record?_ledger, Table.register]
  cases found : table.record? slot with
  | none => rfl
  | some record =>
      have listed : record.holds key ↔ table.holder? key = some slot := by
        rw [Ledger.holds_iff, consistent.holder?_eq_some_iff, found]
        simp
      have bounded := consistent.keys_le found
      by_cases held : table.holder? key = some slot
      · simp only [if_pos (listed.mpr held), if_pos held, Except.map]
      · simp only [if_neg (mt listed.mp held), if_neg held]
        by_cases full : Capacity.keysPerRecord ≤ record.keys.length
        · simp only [if_pos full, if_pos (Nat.le_antisymm bounded full), Except.map]
        · have room : record.keys.length ≠ Capacity.keysPerRecord :=
            fun same => full (Nat.le_of_eq same.symm)
          simp only [if_neg full, if_neg room, Except.map, ← consistent.ledger_refile held,
            consistent.holder?_ledger]
          rfl

theorem registerEach_ledger (keys : List SeqId) (slot : Nat) :
    keys.foldlM (fun ledger key => (ledger.register key slot).map (·.1)) table.ledger =
      (table.registerEach keys slot).map ledger := by
  induction keys generalizing table with
  | nil => rfl
  | cons key rest ih =>
      rw [List.foldlM_cons, consistent.register_ledger]
      cases registered : table.register key slot with
      | error error =>
          rw [registerEach_cons_of_error registered]
          rfl
      | ok answer =>
          rw [registerEach_cons_of_ok registered]
          exact ih (consistent.register registered)

theorem registerAll_ledger (keys : List SeqId) (slot : Nat) :
    table.ledger.registerAll keys slot = (table.registerAll keys slot).map ledger := by
  rw [Ledger.registerAll, record?_ledger]
  cases found : table.record? slot with
  | none => simp only [registerAll, found, Except.map]
  | some record =>
      rw [consistent.registerAll_eq found, consistent.registerEach_ledger]
      by_cases crowded : Capacity.keysPerRecord < (record.keys ++ keys).dedup.length
      · simp only [if_pos crowded, Except.map]
      · simp only [if_neg crowded]

theorem registerEach {keys : List SeqId} {slot : Nat} {after : Table α}
    (registered : table.registerEach keys slot = .ok after) : after.Consistent := by
  induction keys generalizing table with
  | nil =>
      cases registered
      exact consistent
  | cons key rest ih =>
      cases first : table.register key slot with
      | error error =>
          rw [registerEach_cons_of_error first] at registered
          cases registered
      | ok answer =>
          rw [registerEach_cons_of_ok first] at registered
          exact ih (consistent.register first) registered

theorem registerAll {keys : List SeqId} {slot : Nat} {after : Table α}
    (registered : table.registerAll keys slot = .ok after) : after.Consistent := by
  cases found : table.record? slot with
  | none =>
      simp only [Table.registerAll, found, Except.ok.injEq] at registered
      exact registered ▸ consistent
  | some record =>
      rw [consistent.registerAll_eq found] at registered
      split at registered
      · cases registered
      · exact consistent.registerEach registered

/-! ## Operations on table and ledger -/

/-- An operation on a table is the same operation on its ledger. -/
theorem perform_ledger (cursor : Cursor) (operation : Operation α) :
    Ledger.perform table.freshSlot (table.ledger, cursor) operation =
      (((perform (table, cursor) operation).1.1.ledger,
        (perform (table, cursor) operation).1.2), (perform (table, cursor) operation).2) := by
  cases operation with
  | create primary value now => simp only [Ledger.perform, perform, ledger_create]
  | register key slot =>
      simp only [Ledger.perform, perform, consistent.register_ledger]
      cases table.register key slot <;> rfl
  | registerAll keys slot =>
      simp only [Ledger.perform, perform, consistent.registerAll_ledger]
      cases table.registerAll keys slot <;> rfl
  | release key =>
      simp only [Ledger.perform, perform, consistent.ledger_release, consistent.holder?_ledger]
  | remove slot => simp only [Ledger.perform, perform, ledger_remove, record?_ledger]
  | touch slot now => simp only [Ledger.perform, perform, touch, ledger_modify]
  | update slot change =>
      simp only [Ledger.perform, perform, update, ledger_modify, record?_ledger]
  | walk origin => rfl
  | next =>
      simp only [Ledger.perform, perform, consistent.peek_ledger, Cursor.advance]
      cases cursor.peek table <;> rfl
  | peek => simp only [Ledger.perform, perform, consistent.peek_ledger]
  | releaseCurrent =>
      simp only [Ledger.perform, perform, Cursor.releaseCurrent, Cursor.slot?]
      cases cursor.current with
      | none => rfl
      | some key =>
          simp only [consistent.ledger_release, consistent.holder?_ledger, Option.bind_some]
  | removeCurrentRecord =>
      have leads : cursor.current.bind table.ledger.holder? = cursor.slot? table :=
        Option.bind_congr fun key _ => consistent.holder?_ledger key
      simp only [Ledger.perform, perform, Cursor.removeCurrentRecord, leads]
      cases cursor.slot? table with
      | none => rfl
      | some slot => simp only [ledger_remove, record?_ledger, Option.bind_some]

theorem perform (cursor : Cursor) (operation : Operation α) :
    (Table.perform (table, cursor) operation).1.1.Consistent := by
  cases operation with
  | create primary value now => exact consistent.create primary value now
  | register key slot =>
      simp only [Table.perform]
      split
      · exact consistent
      · next registered => exact consistent.register registered
  | registerAll keys slot =>
      simp only [Table.perform]
      split
      · exact consistent
      · next registered => exact consistent.registerAll registered
  | release key => exact consistent.release key
  | remove slot => exact consistent.remove slot
  | touch slot now => exact consistent.modify slot _ fun _ => rfl
  | update slot change => exact consistent.modify slot _ fun _ => rfl
  | walk origin => exact consistent
  | next => exact consistent
  | peek => exact consistent
  | releaseCurrent =>
      simp only [Table.perform, Cursor.releaseCurrent]
      split
      · exact consistent
      · exact consistent.release _
  | removeCurrentRecord =>
      simp only [Table.perform, Cursor.removeCurrentRecord]
      split
      · exact consistent
      · exact consistent.remove _

/-- A run of operations on a table is a run of the same operations on its ledger, in which
the slot that stands ready is the one that the arena would hand out. -/
theorem runs_ledger (cursor : Cursor) (operations : List (Operation α)) :
    Ledger.Runs (table.ledger, cursor) operations
        (Transition.run step (table, cursor) operations).2
        ((Transition.run step (table, cursor) operations).1.1.ledger,
          (Transition.run step (table, cursor) operations).1.2) ∧
      (Transition.run step (table, cursor) operations).1.1.Consistent := by
  induction operations generalizing table cursor with
  | nil => exact ⟨.nil _, consistent⟩
  | cons operation rest ih =>
      rcases ih (consistent.perform cursor operation)
        (Table.perform (table, cursor) operation).1.2 with ⟨later, kept⟩
      rw [Transition.run_cons]
      refine ⟨?_, kept⟩
      have first := consistent.perform_ledger cursor operation
      have same : (Ledger.perform table.freshSlot (table.ledger, cursor) operation).1 =
          ((Table.perform (table, cursor) operation).1.1.ledger,
            (Table.perform (table, cursor) operation).1.2) := congrArg Prod.fst first
      rw [← same] at later
      have run := Ledger.Runs.cons table.freshSlot (by exact table.record?_freshSlot) later
      rw [first] at run
      exact run

end Consistent

/-- Whatever is done to a table, with whichever keys and slots, its answers are those of a
ledger, which only lists keys with the records and takes for a new record a slot that is not
in use.  After it, the table shows this ledger, and its index and key lists agree. -/
theorem run_refines_ledger (origin : SeqId) (operations : List (Operation α)) :
    ∃ ledger : Ledger α,
      Ledger.Runs (∅, .start origin) operations
        (Transition.run step (∅, .start origin) operations).2
        (ledger, (Transition.run step (∅, .start origin) operations).1.2) ∧
      (Transition.run step (∅, .start origin) operations).1.1.Shows ledger := by
  rcases consistent_empty.runs_ledger (α := α) (.start origin) operations with ⟨runs, kept⟩
  exact ⟨_, runs, kept.shows_ledger⟩

end Table

end ReliableDatagram
