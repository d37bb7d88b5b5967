import Mathlib.Data.List.Nodup
import ReliableDatagram.Proofs.Receiver.Ingestion

/-!
# Delivery in order

The cursor moves forward and all that waits on its way is delivered, nearest first
(`Advances`).  The way has two parts: a skip over what may be missing, as far as the
limit demands, and consecutive items of which none is missing
(`deliverOrdered_advances`).
-/

namespace ReliableDatagram

namespace Receiver

variable {config : Config} {receiver : Receiver config}

/-! ## The way of the cursor -/

/-- The cursor moves forward by some steps, and all that waits on the way is delivered,
nearest first. -/
structure Advances (before : Receiver config) (steps : Nat) (after : Receiver config)
    (delivered : List Delivery) : Prop where
  steps_lt : steps < SeqId.halfSpace
  cursor : after.cursor = before.cursor.advance steps
  items : after.items = before.items
  transmissions : after.transmissions = before.transmissions
  buffer : ∀ id, after.buffer[id]? =
    if before.cursor.distanceTo id ≤ steps then none else before.buffer[id]?
  mem_delivered : ∀ {delivery}, delivery ∈ delivered ↔
    before.Waits delivery ∧ before.cursor.distanceTo delivery.dataId ≤ steps
  ordered : delivered.Pairwise fun left right =>
    before.cursor.distanceTo left.dataId < before.cursor.distanceTo right.dataId

theorem Advances.distanceTo_eq {after : Receiver config} {steps : Nat}
    {delivered : List Delivery} (advances : Advances receiver steps after delivered)
    (id : SeqId) :
    receiver.cursor.distanceTo id =
      (after.cursor.distanceTo id + steps) % SeqId.space := by
  rw [advances.cursor]
  exact SeqId.distanceTo_of_advance _ id (Nat.lt_trans advances.steps_lt (by decide))

theorem Advances.waits_iff {after : Receiver config} {steps : Nat}
    {delivered : List Delivery} (advances : Advances receiver steps after delivered)
    (delivery : Delivery) :
    after.Waits delivery ↔
      receiver.Waits delivery ∧ steps < receiver.cursor.distanceTo delivery.dataId := by
  rw [Waits, Waits, advances.buffer]
  split
  · next passed => simp [Nat.not_lt_of_le passed]
  · next farther => simp [Nat.lt_of_not_le farther]

theorem Advances.orderly {after : Receiver config} {steps : Nat} {delivered : List Delivery}
    (orderly : receiver.Orderly) (advances : Advances receiver steps after delivered) :
    after.Orderly where
  named {id delivery} found := by
    rw [advances.buffer] at found
    split at found
    · cases found
    · exact orderly.named found
  ahead {id delivery} found := by
    rw [advances.buffer] at found
    split at found
    · cases found
    · next farther =>
      have ahead := orderly.ahead found
      have distance := advances.distanceTo_eq id
      have near := SeqId.distanceTo_lt after.cursor id
      rw [IsAhead] at ahead ⊢
      simp only [SeqId.space, SeqId.halfSpace] at *
      omega

/-- Two ways make one, if it stays within half the space. -/
theorem Advances.trans {middle after : Receiver config} {first second : Nat}
    {delivered more : List Delivery} (start : Advances receiver first middle delivered)
    (rest : Advances middle second after more) (within : first + second < SeqId.halfSpace) :
    Advances receiver (first + second) after (delivered ++ more) := by
  have split := start.distanceTo_eq
  have near : ∀ id, middle.cursor.distanceTo id < SeqId.space :=
    fun id => SeqId.distanceTo_lt middle.cursor id
  have waits := start.waits_iff
  simp only [SeqId.space, SeqId.halfSpace] at split near within
  constructor
  · exact within
  · rw [rest.cursor, start.cursor, SeqId.advance_advance]
  · rw [rest.items, start.items]
  · rw [rest.transmissions, start.transmissions]
  · intro id
    rw [rest.buffer, start.buffer]
    have distance := split id
    have bound := near id
    split
    · rw [if_pos (by omega)]
    · split
      · rw [if_pos (by omega)]
      · rw [if_neg (by omega)]
  · intro delivery
    rw [List.mem_append, start.mem_delivered, rest.mem_delivered, waits]
    have distance := split delivery.dataId
    have bound := near delivery.dataId
    constructor
    · intro either
      rcases either with ⟨waiting, passed⟩ | ⟨⟨waiting, farther⟩, passed⟩
      · exact ⟨waiting, by omega⟩
      · exact ⟨waiting, by omega⟩
    · intro condition
      rcases condition with ⟨waiting, passed⟩
      rcases Nat.lt_or_ge first (receiver.cursor.distanceTo delivery.dataId) with far | close
      · exact .inr ⟨⟨waiting, far⟩, by omega⟩
      · exact .inl ⟨waiting, close⟩
  · refine List.pairwise_append.mpr ⟨start.ordered, ?_, ?_⟩
    · apply rest.ordered.imp_of_mem
      intro left right leftMem rightMem less
      have leftDistance := split left.dataId
      have rightDistance := split right.dataId
      have leftPassed := (rest.mem_delivered.mp leftMem).2
      have rightPassed := (rest.mem_delivered.mp rightMem).2
      omega
    · intro left leftMem right rightMem
      have leftPassed := (start.mem_delivered.mp leftMem).2
      have rightFar := ((waits right).mp (rest.mem_delivered.mp rightMem).1).2
      omega

/-! ## The skip -/

/-- What waits between the cursor and a target, nearest first. -/
def passedBy (receiver : Receiver config) (target : SeqId) : List (SeqId × Delivery) :=
  (SeqMap.entriesFrom receiver.buffer receiver.cursor.next).takeWhile fun entry =>
    receiver.cursor.next.distanceTo entry.1 ≤ receiver.cursor.next.distanceTo target

theorem mem_passedBy (orderly : receiver.Orderly) {target id : SeqId} {delivery : Delivery}
    (ahead : 0 < receiver.cursor.distanceTo target) :
    (id, delivery) ∈ receiver.passedBy target ↔
      receiver.buffer[id]? = some delivery ∧
        receiver.cursor.distanceTo id ≤ receiver.cursor.distanceTo target := by
  have bounded : ∀ entry : SeqId × Delivery,
      decide (receiver.cursor.next.distanceTo entry.1 ≤
        receiver.cursor.next.distanceTo target) =
      decide (receiver.cursor.next.distanceTo entry.1 <
        receiver.cursor.next.distanceTo target + 1) := by
    intro entry
    simp only [Nat.lt_succ_iff]
  rw [passedBy, SeqMap.mem_takeWhile_entriesFrom bounded, decide_eq_true_eq]
  apply and_congr_right
  intro found
  have targetNext := SeqId.distanceTo_next ahead
  have next := SeqId.distanceTo_next (orderly.ahead found).1
  change receiver.cursor.next.distanceTo id ≤ _ ↔ _
  omega

theorem pairwise_passedBy (orderly : receiver.Orderly) {target : SeqId}
    (ahead : 0 < receiver.cursor.distanceTo target) :
    ((receiver.passedBy target).map Prod.snd).Pairwise fun left right =>
      receiver.cursor.distanceTo left.dataId < receiver.cursor.distanceTo right.dataId := by
  have walk := (SeqMap.pairwise_entriesFrom receiver.buffer receiver.cursor.next).sublist
    (List.takeWhile_sublist fun entry => receiver.cursor.next.distanceTo entry.1 ≤
      receiver.cursor.next.distanceTo target)
  refine List.pairwise_map.mpr (List.Pairwise.imp_of_mem ?_ walk)
  intro left right leftMem rightMem less
  have leftFound := ((mem_passedBy orderly ahead).mp leftMem).1
  have rightFound := ((mem_passedBy orderly ahead).mp rightMem).1
  rw [orderly.named leftFound, orderly.named rightFound]
  have leftNext := SeqId.distanceTo_next (orderly.ahead leftFound).1
  have rightNext := SeqId.distanceTo_next (orderly.ahead rightFound).1
  omega

theorem skipTo_advances (orderly : receiver.Orderly) {target : SeqId}
    (ahead : receiver.IsAhead target) :
    Advances receiver (receiver.cursor.distanceTo target) (receiver.skipTo target).1
      (receiver.skipTo target).2 where
  steps_lt := ahead.2
  cursor := (SeqId.advance_distanceTo receiver.cursor target).symm
  items := rfl
  transmissions := rfl
  buffer id := by
    have taken : (receiver.skipTo target).1.buffer[id]? =
        if id ∈ (receiver.passedBy target).map Prod.fst then none else receiver.buffer[id]? :=
      SeqMap.getElem?_foldl_erase _ receiver.buffer id
    rw [taken]
    cases found : receiver.buffer[id]? with
    | none => simp
    | some delivery =>
        have passed : id ∈ (receiver.passedBy target).map Prod.fst ↔
            receiver.cursor.distanceTo id ≤ receiver.cursor.distanceTo target := by
          constructor
          · intro member
            rcases List.mem_map.mp member with ⟨entry, listed, rfl⟩
            exact ((mem_passedBy orderly ahead.1).mp listed).2
          · intro close
            exact List.mem_map.mpr
              ⟨(id, delivery), (mem_passedBy orderly ahead.1).mpr ⟨found, close⟩, rfl⟩
        simp only [passed]
  mem_delivered {delivery} := by
    constructor
    · intro member
      rcases List.mem_map.mp member with ⟨⟨id, stored⟩, listed, rfl⟩
      rcases (mem_passedBy orderly ahead.1).mp listed with ⟨found, close⟩
      have named := orderly.named found
      subst named
      exact ⟨found, close⟩
    · intro condition
      exact List.mem_map.mpr ⟨(delivery.dataId, delivery),
        (mem_passedBy orderly ahead.1).mpr condition, rfl⟩
  ordered := pairwise_passedBy orderly ahead.1

/-! ## What is ready -/

/-- The ready ids are as many ids right after the cursor. -/
theorem readyIds_eq (receiver : Receiver config) :
    receiver.readyIds =
      (List.range receiver.readyIds.length).map fun steps =>
        receiver.cursor.advance (steps + 1) := by
  have front : receiver.readyIds <+:
      (List.range receiver.buffer.size).map fun steps => receiver.cursor.advance (steps + 1) :=
    List.takeWhile_prefix _
  have taken := List.prefix_iff_eq_take.mp front
  have short := front.length_le
  rw [List.length_map, List.length_range] at short
  rw [← List.map_take, List.take_range, Nat.min_eq_left short] at taken
  exact taken

theorem waits_of_mem_readyIds {id : SeqId} (member : id ∈ receiver.readyIds) :
    ∃ delivery, receiver.buffer[id]? = some delivery := by
  have contained := List.all_takeWhile
    (p := receiver.buffer.contains) (l := (List.range receiver.buffer.size).map fun steps =>
      receiver.cursor.advance (steps + 1))
  have here := List.all_eq_true.mp contained id member
  rw [Std.ExtTreeMap.contains_eq_isSome_getElem?] at here
  exact Option.isSome_iff_exists.mp here

/-- None of the ids up to the last ready one is missing. -/
theorem waits_of_le_length_readyIds {steps : Nat} (positive : 0 < steps)
    (within : steps ≤ receiver.readyIds.length) :
    ∃ delivery, receiver.buffer[receiver.cursor.advance steps]? = some delivery := by
  apply waits_of_mem_readyIds
  rw [readyIds_eq]
  exact List.mem_map.mpr ⟨steps - 1, List.mem_range.mpr (by omega), by
    rw [Nat.sub_add_cancel positive]⟩

/-- Fewer ids are ready than half the space holds, for otherwise one of them would wait
half the space ahead. -/
theorem length_readyIds_lt (orderly : receiver.Orderly) :
    receiver.readyIds.length < SeqId.halfSpace := by
  apply Nat.lt_of_not_le
  intro many
  rcases waits_of_le_length_readyIds (by decide) many with ⟨delivery, found⟩
  have near := (orderly.ahead found).2
  rw [SeqId.distanceTo_advance_of_lt _ (by decide)] at near
  exact Nat.lt_irrefl _ near

theorem mem_readyIds (orderly : receiver.Orderly) {id : SeqId} :
    id ∈ receiver.readyIds ↔
      0 < receiver.cursor.distanceTo id ∧
        receiver.cursor.distanceTo id ≤ receiver.readyIds.length := by
  have within := length_readyIds_lt orderly
  constructor
  · intro member
    rw [readyIds_eq] at member
    rcases List.mem_map.mp member with ⟨steps, listed, rfl⟩
    have less := List.mem_range.mp listed
    rw [SeqId.distanceTo_advance_of_lt _ (by simp only [SeqId.halfSpace, SeqId.space] at *; omega)]
    exact ⟨Nat.succ_pos steps, less⟩
  · intro condition
    rcases condition with ⟨positive, close⟩
    rw [readyIds_eq]
    refine List.mem_map.mpr ⟨receiver.cursor.distanceTo id - 1,
      List.mem_range.mpr (by omega), ?_⟩
    rw [Nat.sub_add_cancel positive, SeqId.advance_distanceTo]

theorem pairwise_readyIds (orderly : receiver.Orderly) :
    receiver.readyIds.Pairwise fun left right =>
      receiver.cursor.distanceTo left < receiver.cursor.distanceTo right := by
  have within := length_readyIds_lt orderly
  rw [readyIds_eq]
  refine List.pairwise_map.mpr (List.Pairwise.imp_of_mem ?_ List.pairwise_lt_range)
  intro left right leftMem rightMem less
  have leftLt := List.mem_range.mp leftMem
  have rightLt := List.mem_range.mp rightMem
  simp only [SeqId.halfSpace] at within
  rw [SeqId.distanceTo_advance_of_lt _ (by simp only [SeqId.space]; omega),
    SeqId.distanceTo_advance_of_lt _ (by simp only [SeqId.space]; omega)]
  exact Nat.succ_lt_succ less

/-- Ids right after the cursor of which every one waits are ready, for the buffer has room
for all of them. -/
theorem le_length_readyIds {count : Nat} (short : count < SeqId.space)
    (waiting : ∀ steps, 0 < steps → steps ≤ count →
      ∃ delivery, receiver.buffer[receiver.cursor.advance steps]? = some delivery) :
    count ≤ receiver.readyIds.length := by
  let following := (List.range count).map fun steps => receiver.cursor.advance (steps + 1)
  have distinct : following.Nodup := by
    refine List.Nodup.map_on ?_ List.nodup_range
    intro left leftMem right rightMem same
    have leftLt := List.mem_range.mp leftMem
    have rightLt := List.mem_range.mp rightMem
    exact Nat.succ.inj (SeqId.advance_injective (by omega) (by omega) same)
  have held : ∀ id ∈ following, receiver.buffer.contains id := by
    intro id member
    rcases List.mem_map.mp member with ⟨steps, listed, rfl⟩
    rcases waiting (steps + 1) (Nat.succ_pos steps) (List.mem_range.mp listed) with
      ⟨delivery, found⟩
    rw [Std.ExtTreeMap.contains_eq_isSome_getElem?, found, Option.isSome_some]
  have room : count ≤ receiver.buffer.size := by
    have subset : following ⊆ receiver.buffer.keys := fun id member =>
      Std.ExtTreeMap.mem_keys.mpr (Std.ExtTreeMap.contains_iff_mem.mp (held id member))
    have fits := distinct.length_le_of_subset subset
    rwa [List.length_map, List.length_range, Std.ExtTreeMap.length_keys] at fits
  have front : following <+: receiver.readyIds := by
    have split : List.range receiver.buffer.size = List.range count ++
        (List.range (receiver.buffer.size - count)).map (count + ·) := by
      rw [← List.range_add, Nat.add_sub_cancel' room]
    rw [readyIds, split, List.map_append, List.takeWhile_append_of_pos held]
    exact List.prefix_append _ _
  have longer := front.length_le
  rwa [List.length_map, List.length_range] at longer

theorem getElem?_after_readyIds (orderly : receiver.Orderly) :
    receiver.buffer[receiver.cursor.advance (receiver.readyIds.length + 1)]? = none := by
  have within := length_readyIds_lt orderly
  cases found : receiver.buffer[receiver.cursor.advance (receiver.readyIds.length + 1)]? with
  | none => rfl
  | some delivery =>
      have longer : receiver.readyIds.length + 1 ≤ receiver.readyIds.length := by
        apply le_length_readyIds
        · simp only [SeqId.halfSpace, SeqId.space] at *
          omega
        · intro steps positive close
          rcases Nat.lt_or_eq_of_le close with less | rfl
          · exact waits_of_le_length_readyIds positive (Nat.le_of_lt_succ less)
          · exact ⟨delivery, found⟩
      exact absurd longer (Nat.not_succ_le_self _)

theorem deliverReady_advances (orderly : receiver.Orderly) :
    Advances receiver receiver.readyIds.length receiver.deliverReady.1
      receiver.deliverReady.2 where
  steps_lt := length_readyIds_lt orderly
  cursor := rfl
  items := rfl
  transmissions := rfl
  buffer id := by
    have taken : receiver.deliverReady.1.buffer[id]? =
        if id ∈ receiver.readyIds then none else receiver.buffer[id]? :=
      SeqMap.getElem?_foldl_erase _ receiver.buffer id
    rw [taken]
    cases found : receiver.buffer[id]? with
    | none => simp
    | some delivery => simp [mem_readyIds orderly, (orderly.ahead found).1]
  mem_delivered {delivery} := by
    constructor
    · intro member
      rcases List.mem_filterMap.mp member with ⟨id, ready, found⟩
      have named := orderly.named found
      subst named
      exact ⟨found, ((mem_readyIds orderly).mp ready).2⟩
    · intro condition
      rcases condition with ⟨waiting, close⟩
      refine List.mem_filterMap.mpr ⟨delivery.dataId, ?_, waiting⟩
      exact (mem_readyIds orderly).mpr ⟨(orderly.ahead waiting).1, close⟩
  ordered := by
    refine List.Pairwise.filterMap _ ?_ (pairwise_readyIds orderly)
    intro left right less leftItem leftFound rightItem rightFound
    rw [orderly.named leftFound, orderly.named rightFound]
    exact less

/-! ## Delivery in order -/

/-- The number of ids that a skip passes. -/
def skipped (receiver : Receiver config) : Nat :=
  (receiver.skipTarget?.map receiver.cursor.distanceTo).getD 0

/-- A skip leads to an id ahead, as far before the newest item as the limit says. -/
theorem skipTarget?_eq_some {target : SeqId} (due : receiver.skipTarget? = some target) :
    receiver.IsAhead target ∧
      ∃ highest, receiver.highestDataId = some highest ∧ receiver.IsAhead highest ∧
        receiver.cursor.distanceTo target + config.offsetLimit =
          receiver.cursor.distanceTo highest := by
  unfold skipTarget? at due
  cases newest : receiver.highestDataId with
  | none => simp [newest] at due
  | some highest =>
      simp only [newest] at due
      split at due
      · next lagging =>
        rw [Bool.and_eq_true, SeqId.isAfter_iff, decide_eq_true_eq] at lagging
        rcases lagging with ⟨ahead, far⟩
        have reached : target = receiver.cursor.advance
            (receiver.cursor.distanceTo highest - config.offsetLimit) := by
          rw [← Option.some.inj due]
          apply SeqId.ext_toNat
          have back := SeqId.toNat_retreat highest config.offsetLimit
          have forth := SeqId.toNat_advance receiver.cursor
            (receiver.cursor.distanceTo highest - config.offsetLimit)
          have distance := SeqId.distanceTo_eq receiver.cursor highest
          have cursorLt := receiver.cursor.toNat_lt
          have highestLt := highest.toNat_lt
          rw [back, forth]
          simp only [SeqId.space, SeqId.halfSpace] at *
          omega
        have distance : receiver.cursor.distanceTo target =
            receiver.cursor.distanceTo highest - config.offsetLimit := by
          rw [reached]
          apply SeqId.distanceTo_advance_of_lt
          have near := SeqId.distanceTo_lt receiver.cursor highest
          omega
        refine ⟨?_, highest, rfl, ahead, ?_⟩
        · rw [IsAhead, distance]
          omega
        · omega
      · cases due

/-- Delivery in order moves the cursor over what it skips and over consecutive items that
wait. -/
theorem deliverOrdered_advances (orderly : receiver.Orderly) :
    ∃ ready, Advances receiver (receiver.skipped + ready) receiver.deliverOrdered.1
        receiver.deliverOrdered.2 ∧
      ∀ steps, receiver.skipped < steps → steps ≤ receiver.skipped + ready →
        ∃ delivery, receiver.buffer[receiver.cursor.advance steps]? = some delivery := by
  cases due : receiver.skipTarget? with
  | none =>
      have none : receiver.skipped = 0 := by simp [skipped, due]
      refine ⟨receiver.readyIds.length, ?_, ?_⟩
      · simp only [none, Nat.zero_add, deliverOrdered, due]
        exact deliverReady_advances orderly
      · intro steps positive within
        rw [none] at positive within
        rw [Nat.zero_add] at within
        exact waits_of_le_length_readyIds positive within
  | some target =>
      have ahead := (skipTarget?_eq_some due).1
      have first := skipTo_advances orderly ahead
      have second := deliverReady_advances (first.orderly orderly)
      have passed : receiver.skipped = receiver.cursor.distanceTo target := by
        simp [skipped, due]
      have waiting : ∀ steps, 0 < steps → steps ≤ (receiver.skipTo target).1.readyIds.length →
          ∃ delivery, receiver.buffer[receiver.cursor.advance
            (receiver.cursor.distanceTo target + steps)]? = some delivery := by
        intro steps positive within
        rcases waits_of_le_length_readyIds positive within with ⟨delivery, found⟩
        rw [first.buffer, first.cursor, SeqId.advance_advance] at found
        split at found
        · cases found
        · exact ⟨delivery, found⟩
      refine ⟨(receiver.skipTo target).1.readyIds.length, ?_, ?_⟩
      · rw [passed]
        simp only [deliverOrdered, due]
        apply first.trans second
        rcases Nat.eq_zero_or_pos (receiver.skipTo target).1.readyIds.length with none | some
        · rw [none]
          exact first.steps_lt
        · rcases waiting _ some (Nat.le_refl _) with ⟨delivery, found⟩
          have near := (orderly.ahead found).2
          have firstLt := first.steps_lt
          have secondLt := second.steps_lt
          simp only [SeqId.halfSpace] at firstLt secondLt
          rwa [SeqId.distanceTo_advance_of_lt _ (by simp only [SeqId.space]; omega)] at near
      · intro steps beyond within
        rw [passed] at beyond within
        rcases waiting (steps - receiver.cursor.distanceTo target)
            (by omega) (by omega) with ⟨delivery, found⟩
        rw [Nat.add_sub_cancel' (Nat.le_of_lt beyond)] at found
        exact ⟨delivery, found⟩

end Receiver

end ReliableDatagram
