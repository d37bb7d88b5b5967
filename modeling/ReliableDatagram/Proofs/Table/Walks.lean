import ReliableDatagram.Proofs.Table.Refinement

/-!
# Walks that drain a table

A cursor remembers the key that it visited last, and while it walks, keys are taken out behind
it and ahead of it.  What such a walk comes to is told by the entries that it has still ahead
(`Cursor.ahead`).  To go on takes the first of them away, and to remove a record takes those
of its keys out (`visits_append_ahead`).  Hence the visits are ordered, nothing is missed that
was not removed, and a walk that has come to its end stays there (`walk_drains`).
-/

namespace ReliableDatagram

namespace Table

variable {α : Type} {table : Table α}

namespace Cursor

/-! ## What is ahead -/

/-- The entries that a walk has still to visit, in the order in which it will. -/
def ahead (cursor : Cursor) (table : Table α) : List (SeqId × Nat) :=
  (table.keysFrom cursor.origin).filter fun entry =>
    cursor.reach ≤ cursor.origin.distanceTo entry.1

theorem ahead_start (table : Table α) (origin : SeqId) :
    (start origin).ahead table = table.keysFrom origin := by
  apply List.filter_eq_self.mpr
  intro entry _
  exact decide_eq_true (Nat.zero_le _)

theorem peek_eq_head? (cursor : Cursor) (table : Table α) :
    cursor.peek table = (cursor.ahead table).head? :=
  List.head?_filter.symm

/-- To visit the next key takes it off what is ahead. -/
theorem ahead_advance (cursor : Cursor) (table : Table α) :
    (cursor.advance table).ahead table = (cursor.ahead table).tail := by
  have first := cursor.peek_eq_head? table
  have ordered : (cursor.ahead table).Pairwise fun left right =>
      cursor.origin.distanceTo left.1 < cursor.origin.distanceTo right.1 :=
    (SeqMap.pairwise_entriesFrom table.index cursor.origin).filter _
  cases left : cursor.ahead table with
  | nil =>
      rw [left, List.head?_nil] at first
      simp only [advance, first, left, List.tail_nil]
  | cons entry rest =>
      rw [left, List.head?_cons] at first
      rw [left] at ordered
      have inside : cursor.reach ≤ cursor.origin.distanceTo entry.1 := by
        have member : entry ∈ cursor.ahead table := left ▸ List.mem_cons_self
        exact of_decide_eq_true (List.mem_filter.mp member).2
      have beyond : (cursor.advance table).ahead table = (cursor.ahead table).filter fun other =>
          cursor.origin.distanceTo entry.1 + 1 ≤ cursor.origin.distanceTo other.1 := by
        have moved : cursor.advance table = { cursor with current := some entry.1 } := by
          simp only [advance, first]
        rw [moved, ahead, ahead, List.filter_filter]
        apply List.filter_congr
        intro other _
        change decide (cursor.origin.distanceTo entry.1 + 1 ≤ cursor.origin.distanceTo other.1) = _
        rw [Bool.eq_iff_iff, Bool.and_eq_true, decide_eq_true_eq, decide_eq_true_eq]
        omega
      rw [beyond, left, List.filter_cons_of_neg (by simp), List.tail_cons]
      apply List.filter_eq_self.mpr
      intro other member
      exact decide_eq_true ((List.pairwise_cons.mp ordered).1 other member)

theorem ahead_of_holder? {before after : Table α} {gone : SeqId → Bool}
    (left : ∀ key, after.holder? key = if gone key then none else before.holder? key)
    (cursor : Cursor) :
    cursor.ahead after = (cursor.ahead before).filter fun entry => !gone entry.1 := by
  rw [ahead, keysFrom, SeqMap.entriesFrom_of_getElem? left, List.filter_comm]
  rfl

/-- The key that a walk is at is no longer ahead, whether or not it was released. -/
theorem ahead_releaseCurrent (cursor : Cursor) (table : Table α) :
    cursor.ahead (cursor.releaseCurrent table) = cursor.ahead table := by
  unfold releaseCurrent
  split
  · rfl
  · next key here =>
    have left : ∀ other, (table.release key).holder? other =
        if decide (other = key) then none else table.holder? other := by
      intro other
      rw [holder?_release]
      simp only [decide_eq_true_eq]
    rw [ahead_of_holder? left]
    apply List.filter_eq_self.mpr
    intro entry member
    have inside := of_decide_eq_true (List.mem_filter.mp member).2
    rw [Bool.not_eq_true', decide_eq_false_iff_not]
    intro same
    simp only [reach, here, same] at inside
    exact Nat.not_succ_le_self _ inside

theorem ahead_remove (cursor : Cursor) {slot : Nat} {record : Record α}
    (found : table.record? slot = some record) :
    cursor.ahead (table.remove slot) =
      (cursor.ahead table).filter fun entry => !record.holds entry.1 := by
  apply ahead_of_holder?
  intro key
  rw [holder?_remove found]
  simp only [Record.holds, List.contains_iff_mem]

/-- With the current record its keys go from what is ahead. -/
theorem ahead_removeCurrentRecord (cursor : Cursor) (table : Table α) :
    cursor.ahead (cursor.removeCurrentRecord table) =
      (cursor.ahead table).filter fun entry =>
        ((cursor.slot? table).bind table.record?).toList.all fun record =>
          !record.holds entry.1 := by
  have unchanged : cursor.ahead table = (cursor.ahead table).filter fun _ => true :=
    (List.filter_true _).symm
  unfold removeCurrentRecord
  cases cursor.slot? table with
  | none => exact unchanged
  | some slot =>
      rw [Option.bind_some]
      cases found : table.record? slot with
      | none =>
          have vacant : table.remove slot = table := by simp [remove, found]
          simp only [vacant]
          exact unchanged
      | some record =>
          simp only [cursor.ahead_remove found, Option.toList_some, List.all_cons, List.all_nil,
            Bool.and_true]

/-! ## Walks -/

/-- What is done with a cursor. -/
inductive Action where
  | next
  | peek
  | releaseCurrent
  | removeCurrentRecord
  deriving DecidableEq, Repr

/-- The operation on the table that is walked. -/
def Action.operation : Action → Operation α
  | .next => .next
  | .peek => .peek
  | .releaseCurrent => .releaseCurrent
  | .removeCurrentRecord => .removeCurrentRecord

end Cursor

open Cursor (Action)

/-- A step of a walk.  The answer is written down next to what was done. -/
def walk : Transition (Table α × Cursor) Action (Action × Answer α) :=
  fun state action =>
    ((perform state action.operation).1, [(action, (perform state action.operation).2)])

/-- The entries that a walk has visited, in order. -/
def visits (log : List (Action × Answer α)) : List (SeqId × Nat) :=
  log.filterMap fun
    | (.next, .entry entry) => entry
    | _ => none

/-- The records that a walk has removed, as they were. -/
def removals (log : List (Action × Answer α)) : List (Record α) :=
  log.filterMap fun
    | (.removeCurrentRecord, .record record) => record
    | _ => none

theorem visits_append (first later : List (Action × Answer α)) :
    visits (first ++ later) = visits first ++ visits later :=
  List.filterMap_append

theorem removals_append (first later : List (Action × Answer α)) :
    removals (first ++ later) = removals first ++ removals later :=
  List.filterMap_append

theorem visits_next (entry : Option (SeqId × Nat)) :
    visits [((.next, .entry entry) : Action × Answer α)] = entry.toList := by
  cases entry <;> rfl

theorem mem_visits {log : List (Action × Answer α)} {entry : SeqId × Nat}
    (told : (.next, .entry (some entry)) ∈ log) : entry ∈ visits log :=
  List.mem_filterMap.mpr ⟨_, told, rfl⟩

theorem removals_removeCurrentRecord (record : Option (Record α)) :
    removals [(.removeCurrentRecord, .record record)] = record.toList := by
  cases record <;> rfl

/-- What a step visits and then has ahead is what it had ahead, but for the keys of the record
that it removes. -/
theorem visits_append_ahead (cursor : Cursor) (table : Table α) (action : Action) :
    let after := walk (table, cursor) action
    visits after.2 ++ after.1.2.ahead after.1.1 =
      (cursor.ahead table).filter fun entry =>
        (removals after.2).all fun record => !record.holds entry.1 := by
  have unchanged : cursor.ahead table = (cursor.ahead table).filter fun _ => true :=
    (List.filter_true _).symm
  cases action with
  | next =>
      have whole : (cursor.ahead table).head?.toList ++ (cursor.ahead table).tail =
          cursor.ahead table := by
        cases cursor.ahead table <;> rfl
      simp only [walk, Action.operation, perform, visits_next, cursor.peek_eq_head?,
        cursor.ahead_advance, whole]
      exact unchanged
  | peek => exact unchanged
  | releaseCurrent =>
      simp only [walk, Action.operation, perform, cursor.ahead_releaseCurrent]
      exact unchanged
  | removeCurrentRecord =>
      simp only [walk, Action.operation, perform, removals_removeCurrentRecord,
        cursor.ahead_removeCurrentRecord]
      rfl

/-- How a part of a walk gets from what was ahead to what is. -/
structure Passes (before : List (SeqId × Nat)) (log : List (Action × Answer α))
    (after : List (SeqId × Nat)) : Prop where
  sublist : (visits log ++ after).Sublist before
  removed : ∀ entry ∈ before, entry ∉ visits log ++ after →
    ∃ record ∈ removals log, entry.1 ∈ record.keys
  undisturbed : removals log = [] → visits log ++ after = before

theorem passes_walk (cursor : Cursor) (table : Table α) (action : Action) :
    let after := walk (table, cursor) action
    Passes (cursor.ahead table) after.2 (after.1.2.ahead after.1.1) := by
  intro after
  have left := visits_append_ahead cursor table action
  constructor
  · rw [left]
    exact List.filter_sublist
  · intro entry member missed
    rw [left, List.mem_filter] at missed
    have taken : ¬ ((removals after.2).all fun record => !record.holds entry.1) = true :=
      fun spared => missed ⟨member, spared⟩
    simp only [List.all_eq_true, Bool.not_eq_true', not_forall, Bool.not_eq_false] at taken
    obtain ⟨record, removed, holds⟩ := taken
    exact ⟨record, removed, Ledger.holds_iff.mp holds⟩
  · intro none
    rw [left, none]
    exact List.filter_true _

theorem Passes.trans {before between after : List (SeqId × Nat)}
    {first later : List (Action × Answer α)} (passes : Passes before first between)
    (more : Passes between later after) : Passes before (first ++ later) after := by
  constructor
  · rw [visits_append, List.append_assoc]
    exact (more.sublist.append_left _).trans passes.sublist
  · intro entry member missed
    rw [visits_append, List.append_assoc, List.mem_append, not_or] at missed
    rw [removals_append]
    by_cases left : entry ∈ between
    · obtain ⟨record, removed, listed⟩ := more.removed entry left missed.2
      exact ⟨record, List.mem_append_right _ removed, listed⟩
    · obtain ⟨record, removed, listed⟩ := passes.removed entry member fun there =>
        (List.mem_append.mp there).elim missed.1 left
      exact ⟨record, List.mem_append_left _ removed, listed⟩
  · intro none
    rw [removals_append, List.append_eq_nil_iff] at none
    rw [visits_append, List.append_assoc, more.undisturbed none.2, passes.undisturbed none.1]

/-- When no record was removed, the visits are to what was ahead, for as long as some of it
was left. -/
theorem Passes.visits_eq_take {before after : List (SeqId × Nat)}
    {log : List (Action × Answer α)} (passes : Passes before log after)
    (spared : removals log = []) {refused : Nat} (refusal : refused ≠ 0 → after = []) :
    visits log = before.take ((visits log).length + refused) := by
  have whole := passes.undisturbed spared
  rcases Nat.eq_zero_or_pos refused with never | once
  · rw [never, Nat.add_zero, ← whole, List.take_left]
  · rw [refusal (Nat.ne_of_gt once), List.append_nil] at whole
    rw [← whole, List.take_of_length_le (Nat.le_add_right _ _)]

/-- When nothing is left ahead, each key was visited or went with its record. -/
theorem Passes.visited_or_removed {before : List (SeqId × Nat)} {log : List (Action × Answer α)}
    (passes : Passes before log []) {key : SeqId} {slot : Nat} (member : (key, slot) ∈ before)
    (unique : ∀ other, (key, other) ∈ before → other = slot) :
    (key, slot) ∈ visits log ∨
      (key ∉ (visits log).map Prod.fst ∧ ∃ record ∈ removals log, key ∈ record.keys) := by
  by_cases visited : (key, slot) ∈ visits log
  · exact .inl visited
  · refine .inr ⟨?_, passes.removed (key, slot) member (by rwa [List.append_nil])⟩
    intro met
    obtain ⟨⟨_, other⟩, visit, rfl⟩ := List.mem_map.mp met
    have there := passes.sublist.subset (List.mem_append_left _ visit)
    exact visited (unique other there ▸ visit)

/-- A walk visits some of what it had ahead, in this order, and misses only what it removes. -/
theorem passes_run (cursor : Cursor) (table : Table α) (actions : List Action) :
    Passes (cursor.ahead table) (Transition.run walk (table, cursor) actions).2
      ((Transition.run walk (table, cursor) actions).1.2.ahead
        (Transition.run walk (table, cursor) actions).1.1) := by
  induction actions generalizing cursor table with
  | nil => exact ⟨List.Sublist.refl _, fun _ member missed => absurd member missed, fun _ => rfl⟩
  | cons action rest ih =>
      have first := passes_walk cursor table action
      simp only [Transition.run_cons]
      exact first.trans (ih _ _)

/-! ## The end of a walk -/

theorem ahead_eq_nil {cursor : Cursor} (ended : cursor.peek table = none) :
    cursor.ahead table = [] := by
  rw [cursor.peek_eq_head?] at ended
  exact List.head?_eq_none_iff.mp ended

theorem visits_run_of_ended {cursor : Cursor} (ended : cursor.ahead table = [])
    (actions : List Action) :
    visits (Transition.run walk (table, cursor) actions).2 = [] ∧
      (Transition.run walk (table, cursor) actions).1.2.ahead
        (Transition.run walk (table, cursor) actions).1.1 = [] := by
  have rest := (passes_run cursor table actions).sublist
  rw [ended, List.sublist_nil] at rest
  exact List.append_eq_nil_iff.mp rest

theorem entry_eq_none_of_ended {cursor : Cursor} (ended : cursor.ahead table = [])
    {actions : List Action} {entry : Option (SeqId × Nat)}
    (answered : (.next, .entry entry) ∈ (Transition.run walk (table, cursor) actions).2) :
    entry = none := by
  cases entry with
  | none => rfl
  | some entry =>
      have visit := mem_visits answered
      rw [(visits_run_of_ended ended actions).1] at visit
      cases visit

/-- Each attempt to go on makes a visit or finds that nothing is ahead. -/
theorem exists_refused (cursor : Cursor) (table : Table α) (actions : List Action) :
    let log := (Transition.run walk (table, cursor) actions).2
    ∃ refused, (visits log).length + refused = actions.count .next ∧
      (refused ≠ 0 → (.next, .entry none) ∈ log) := by
  induction actions generalizing cursor table with
  | nil => exact ⟨0, rfl, fun some => absurd rfl some⟩
  | cons action rest ih =>
      obtain ⟨refused, counted, told⟩ := ih (walk (table, cursor) action).1.2
        (walk (table, cursor) action).1.1
      simp only [Transition.run_cons, visits_append, List.length_append]
      cases action with
      | next =>
          rw [List.count_cons_self]
          simp only [walk, Action.operation, perform, visits_next] at counted told ⊢
          cases cursor.peek table with
          | none =>
              refine ⟨refused + 1, ?_, fun _ => List.mem_append_left _ List.mem_cons_self⟩
              rw [Option.toList_none, List.length_nil, Nat.zero_add, ← Nat.add_assoc, counted]
          | some entry =>
              refine ⟨refused, ?_, fun some => List.mem_append_right _ (told some)⟩
              rw [Option.toList_some, List.length_singleton, Nat.add_assoc, counted, Nat.add_comm]
      | peek | releaseCurrent | removeCurrentRecord =>
          rw [List.count_cons_of_ne (by decide)]
          refine ⟨refused, ?_, fun some => List.mem_append_right _ (told some)⟩
          rw [← counted]
          exact congrArg (· + refused) (Nat.zero_add _)

theorem ahead_run_of_refused {cursor : Cursor} {table : Table α} {actions : List Action}
    (told : (.next, .entry none) ∈ (Transition.run walk (table, cursor) actions).2) :
    (Transition.run walk (table, cursor) actions).1.2.ahead
      (Transition.run walk (table, cursor) actions).1.1 = [] := by
  induction actions generalizing cursor table with
  | nil => cases told
  | cons action rest ih =>
      rw [Transition.run_cons] at told ⊢
      rcases List.mem_append.mp told with first | later
      · cases action with
        | next =>
            have ended : cursor.peek table = none := by
              simpa [walk, perform, Action.operation, eq_comm] using first
            have nothing : (cursor.advance table).ahead table = [] := by
              rw [cursor.ahead_advance, ahead_eq_nil ended, List.tail_nil]
            exact (visits_run_of_ended nothing rest).2
        | peek | releaseCurrent | removeCurrentRecord => simp [walk] at first
      · exact ih later

theorem removals_run {cursor : Cursor} {table : Table α} {actions : List Action}
    (spared : .removeCurrentRecord ∉ actions) :
    removals (Transition.run walk (table, cursor) actions).2 = [] := by
  induction actions generalizing cursor table with
  | nil => rfl
  | cons action rest ih =>
      rw [List.mem_cons, not_or] at spared
      rw [Transition.run_cons, removals_append, ih spared.2, List.append_nil]
      cases action with
      | next | peek | releaseCurrent => rfl
      | removeCurrentRecord => exact absurd rfl spared.1

/-! ## Walks from their start -/

theorem origin_run (cursor : Cursor) (table : Table α) (actions : List Action) :
    (Transition.run walk (table, cursor) actions).1.2.origin = cursor.origin := by
  apply Transition.run_preserves walk (fun state => state.2.origin = cursor.origin) ?_ _ _ rfl
  rintro ⟨table, place⟩ action same
  refine Eq.trans ?_ same
  cases action with
  | next =>
      simp only [walk, Action.operation, perform, Cursor.advance]
      cases place.peek table <;> rfl
  | peek | releaseCurrent | removeCurrentRecord => rfl

/-- What a walk through `table` from `origin` comes to.  The actions so far have led to the
state `reached`, and `log` tells what was answered. -/
structure Drains (table : Table α) (origin : SeqId) (actions : List Action)
    (reached : Table α × Cursor) (log : List (Action × Answer α)) : Prop where
  /-- Each visit is farther from the origin than the ones before. -/
  ordered : (visits log).Pairwise fun earlier later =>
    origin.distanceTo earlier.1 < origin.distanceTo later.1
  /-- All visits are to keys that were there at the start. -/
  present : (visits log).Sublist (table.keysFrom origin)
  /-- A look ahead tells what the next visit would be, and does nothing. -/
  peeked : perform reached .peek = (reached, (perform reached .next).2)
  /-- The next visit is found by searches in numeric order among the keys that are left. -/
  sought : (perform reached .next).2 = .entry (reached.1.index.search? origin reached.2.reach)
  /-- At the end each key was visited, or it was removed with its record before its turn. -/
  complete : (perform reached .next).2 = .entry none → ∀ key slot,
    table.holder? key = some slot →
      (key, slot) ∈ visits log ∨
        (key ∉ (visits log).map Prod.fst ∧ ∃ record ∈ removals log, key ∈ record.keys)
  /-- A walk that has come to its end stays there, whatever is still done. -/
  stays : (perform reached .next).2 = .entry none → ∀ more entry,
    (.next, .entry entry) ∈ (Transition.run walk reached more).2 → entry = none
  /-- Unless records are removed, the visits are to all keys in turn. -/
  undisturbed : .removeCurrentRecord ∉ actions →
    visits log = (table.keysFrom origin).take (actions.count .next)
  /-- There are no more visits than there were keys. -/
  bounded : (visits log).length ≤ table.keyCount
  /-- More attempts to go on than there were keys lead to the end. -/
  ends : table.keyCount < actions.count .next → (.next, .entry none) ∈ log

/-- Whatever is removed on the way, a walk from any origin visits the keys of a table in
wraparound order, misses none but those of the records that it removes, and ends. -/
theorem walk_drains (table : Table α) (origin : SeqId) (actions : List Action) :
    Drains table origin actions (Transition.run walk (table, .start origin) actions).1
      (Transition.run walk (table, .start origin) actions).2 := by
  obtain ⟨refused, counted, told⟩ := exists_refused (.start origin) table actions
  have passes := passes_run (.start origin) table actions
  rw [Cursor.ahead_start] at passes
  have visited := (List.sublist_append_left _ _).trans passes.sublist
  have bounded := visited.length_le
  rw [keysFrom, SeqMap.length_entriesFrom] at bounded
  have kept : (Transition.run walk (table, .start origin) actions).1.2.origin = origin :=
    origin_run (.start origin) table actions
  refine ⟨?ordered, visited, rfl, ?sought, ?complete, ?stays, ?undisturbed, bounded, ?ends⟩
  case ordered => exact (SeqMap.pairwise_entriesFrom table.index origin).sublist visited
  case sought =>
    simp only [perform, Cursor.peek, SeqMap.first?_eq_search?, kept]
  case complete =>
    intro ended key slot held
    have nothing : (Transition.run walk (table, .start origin) actions).1.2.ahead
        (Transition.run walk (table, .start origin) actions).1.1 = [] :=
      ahead_eq_nil (Answer.entry.inj ended)
    rw [nothing] at passes
    apply passes.visited_or_removed (SeqMap.mem_entriesFrom.mpr held)
    intro other member
    exact Option.some_inj.mp ((SeqMap.mem_entriesFrom.mp member).symm.trans held)
  case stays =>
    intro ended more entry answered
    exact entry_eq_none_of_ended (ahead_eq_nil (Answer.entry.inj ended)) answered
  case undisturbed =>
    intro asked
    rw [← counted]
    exact passes.visits_eq_take (removals_run asked) fun some => ahead_run_of_refused (told some)
  case ends =>
    intro many
    apply told
    rintro rfl
    rw [← counted, Nat.add_zero] at many
    exact Nat.not_lt_of_le bounded many

/-- One record has a key on either side of the wrap.  When it is removed at the first of them,
the walk no longer meets the other one, which was ahead. -/
example :
    let records := ((∅ : Arena (Record Unit)).allocate
      ⟨.ofNat 65535, [.ofNat 65535, .ofNat 3], ⟨0⟩, ()⟩).allocate ⟨.ofNat 1, [.ofNat 1], ⟨0⟩, ()⟩
    let index := (((∅ : SeqMap Nat).insert (.ofNat 65535) 0).insert (.ofNat 3) 0).insert
      (.ofNat 1) 1
    visits (Transition.run walk (⟨records, index⟩, .start (.ofNat 65534))
      [.next, .removeCurrentRecord, .next, .next]).2 = [(.ofNat 65535, 0), (.ofNat 1, 1)] := by
  decide

end Table

end ReliableDatagram
